import Mathlib.Data.List.Infix
import PageModules.Markup.Token
import PageModules.Proofs.Text.Cutting

/-!
# Where tags are written

Tokens come off the front of a text: what follows a token is an end of the text that it was taken
off. So an attribute of a tag is written in the text, its name in any case and with an equals sign
behind it, unless its value is empty (`Token.IsWritten`). Both hold whatever is being read
(`Token.isFrom_next`).
-/

namespace PageModules

/-- What follows the start of a text is an end of it. -/
theorem Chars.suffix_of_isPrefixOf? {piece s t : List Char} (h : piece.isPrefixOf? s = some t) :
    t <:+ s :=
  ⟨piece, List.isPrefixOf?_eq_some_iff_append_eq.mp h⟩

/-- What follows the longest known name is an end of the text. -/
theorem Reference.suffix_of_longest? {meaning? : String → Option (List Char)} {s : List Char}
    {n : ℕ} {cs rest : List Char} {c : Char} (h : longest? meaning? s n = some (cs, c, rest)) :
    rest <:+ s := by
  induction n with
  | zero => cases h
  | succ n ih =>
    rw [longest?] at h
    split at h
    · cases h
      exact List.drop_suffix _ _
    · exact ih h

namespace Token

open Text (lower)

variable {s t rest : List Char}

/-- What follows the first character that is not dropped is an end of the text. -/
theorem suffix_of_dropWhile {p : Char → Bool} {c : Char} (h : s.dropWhile p = c :: t) : t <:+ s :=
  (List.suffix_cons c t).trans (h ▸ List.dropWhile_suffix p)

/-! ### References -/

theorem dropSemicolon_suffix (s : List Char) : dropSemicolon s <:+ s := by
  unfold dropSemicolon
  split
  · exact List.suffix_cons _ _
  · exact List.suffix_rfl

/-- A reference by number comes off the front of the text. -/
theorem suffix_of_numericReference? {isDigit : Char → Bool} {base : ℕ} {value : Char → ℕ}
    {cs : List Char} (h : numericReference? isDigit base value s = some (cs, rest)) :
    rest <:+ s := by
  unfold numericReference? at h
  dsimp only at h
  split_ifs at h
  cases h
  exact (dropSemicolon_suffix _).trans (List.dropWhile_suffix _)

/-- A reference, by number or by name, comes off the front of the text. -/
theorem suffix_of_reference? {inAttribute : Bool} {cs : List Char}
    (h : reference? inAttribute s = some (cs, rest)) : rest <:+ s := by
  unfold reference? at h
  split at h
  · exact (suffix_of_numericReference? h).trans
      ((List.suffix_cons _ _).trans (List.suffix_cons _ _))
  · exact (suffix_of_numericReference? h).trans
      ((List.suffix_cons _ _).trans (List.suffix_cons _ _))
  · exact (suffix_of_numericReference? h).trans (List.suffix_cons _ _)
  · split at h
    · cases h
    · next hnamed =>
      dsimp only at h
      split_ifs at h
      cases h
      exact Reference.suffix_of_longest? hnamed

/-! ### Comments and document types -/

/-- A comment comes off the front of the text, in whatever state it is read. -/
theorem readComment_suffix (place : CommentPlace) (done s : List Char) :
    (readComment place done s).2 <:+ s := by
  induction s generalizing place done with
  | nil => exact List.suffix_rfl
  | cons c s ih =>
    have hrest : s <:+ c :: s := List.suffix_cons c s
    have hstep (place : CommentPlace) (done : List Char) := (ih place done).trans hrest
    cases place <;> unfold readComment
    case body => exact hstep _ _
    all_goals
      dsimp only
      split_ifs <;> first | exact hrest | exact hstep _ _

theorem bogusComment_suffix (s : List Char) : (bogusComment s).2 <:+ s :=
  (List.drop_suffix _ _).trans (List.dropWhile_suffix _)

theorem afterTagEnd_suffix (s : List Char) : afterTagEnd s <:+ s :=
  (List.drop_suffix _ _).trans (List.dropWhile_suffix _)

theorem suffix_of_dropWord? {word : String} (h : dropWord? word s = some t) : t <:+ s := by
  unfold dropWord? at h
  dsimp only at h
  split_ifs at h
  cases h
  exact List.drop_suffix _ _

/-- An identifier in quotes comes off the front of the text, also if it is not closed. -/
theorem suffix_of_readIdentifier? {id : String} {closed : Bool}
    (h : readIdentifier? s = some (id, closed, rest)) : rest <:+ s := by
  unfold readIdentifier? at h
  split at h
  · split_ifs at h
    dsimp only at h
    split at h
    · next hend =>
      cases h
      split_ifs
      · exact (suffix_of_dropWhile hend).trans (List.suffix_cons _ _)
      · exact (hend ▸ List.dropWhile_suffix _).trans (List.suffix_cons _ _)
    · cases h
      exact List.nil_suffix
  · cases h

theorem finishDoctype_suffix (d : Doctype) (strict : Bool) (s : List Char) :
    (finishDoctype d strict s).2 <:+ s := by
  unfold finishDoctype
  split
  · next h => exact suffix_of_dropWhile h
  · exact List.nil_suffix
  · exact (afterTagEnd_suffix _).trans (List.dropWhile_suffix _)

theorem readSystem_suffix (d : Doctype) (s : List Char) : (readSystem d s).2 <:+ s := by
  unfold readSystem
  have hs : s.dropWhile isSpace <:+ s := List.dropWhile_suffix _
  split
  · next h => exact (finishDoctype_suffix _ _ _).trans ((suffix_of_readIdentifier? h).trans hs)
  · next h => exact (afterTagEnd_suffix _).trans ((suffix_of_readIdentifier? h).trans hs)
  · exact afterTagEnd_suffix _

theorem readPublic_suffix (d : Doctype) (s : List Char) : (readPublic d s).2 <:+ s := by
  unfold readPublic
  have hs : s.dropWhile isSpace <:+ s := List.dropWhile_suffix _
  split
  · next rest h =>
    have hrest := (suffix_of_readIdentifier? h).trans hs
    dsimp only
    split
    · next hend => exact (suffix_of_dropWhile hend).trans hrest
    · exact (readSystem_suffix _ _).trans ((List.dropWhile_suffix _).trans hrest)
  · next h => exact (afterTagEnd_suffix _).trans ((suffix_of_readIdentifier? h).trans hs)
  · exact afterTagEnd_suffix _

/-- **A document type comes off the front of the text**, with both its identifiers or without. -/
theorem readDoctype_suffix (s : List Char) : (readDoctype s).2 <:+ s := by
  unfold readDoctype
  have hs : s.dropWhile isSpace <:+ s := List.dropWhile_suffix _
  dsimp only
  split
  · exact List.nil_suffix
  · next h => exact suffix_of_dropWhile h
  · generalize s.dropWhile isSpace = t at hs
    have hbehind : (t.dropWhile fun c => !(isSpace c || c = '>')) <:+ s :=
      (List.dropWhile_suffix _).trans hs
    have hname := (List.dropWhile_suffix isSpace).trans hbehind
    split
    · next h => exact (suffix_of_dropWhile h).trans hbehind
    · split
      · next _ _ h => exact (readPublic_suffix _ _).trans ((suffix_of_dropWord? h).trans hname)
      · next _ _ _ h => exact (readSystem_suffix _ _).trans ((suffix_of_dropWord? h).trans hname)
      · exact (finishDoctype_suffix _ _ _).trans hname

/-! ### Text up to an end tag -/

/-- What follows raw text starts with its end tag. -/
theorem splitAtEndTag_suffix (name : String) (s : List Char) : (splitAtEndTag name s).2 <:+ s := by
  induction s with
  | nil => exact List.suffix_rfl
  | cons c s ih =>
    unfold splitAtEndTag
    split
    · exact List.suffix_rfl
    · exact ih.trans (List.suffix_cons c s)

/-- What follows a script is an end of the text, however comments are nested in it. -/
theorem splitScript_suffix (place : ScriptPlace) (dashes : ℕ) (s : List Char) :
    (splitScript place dashes s).2 <:+ s := by
  induction s generalizing place dashes with
  | nil => exact List.suffix_rfl
  | cons c s ih =>
    unfold splitScript
    split
    · exact List.suffix_rfl
    · exact (ih _ _).trans (List.suffix_cons c s)

/-- A section comes off the front of the text, also if it is not closed. -/
theorem readSection_suffix (s : List Char) : (readSection s).2 <:+ s := by
  induction s with
  | nil => exact List.suffix_rfl
  | cons c s ih =>
    unfold readSection
    split
    · next h => exact Chars.suffix_of_isPrefixOf? h
    · exact ih.trans (List.suffix_cons c s)

/-! ### Attributes -/

/-- The attributes of a tag that starts an element. -/
def attrs : Token → List (String × String)
  | .startTag _ attrs _ => attrs
  | _ => []

/-- The attribute is written in the text: its name in any case, and an equals sign behind it unless
the value is empty. -/
def IsWritten (text : List Char) (a : String × String) : Prop :=
  a.2 = "" ∨ ∃ name blanks, name ++ blanks ++ ['='] <:+: text ∧
    (∀ c ∈ blanks, isSpace c = true) ∧ a.1 = String.ofList (name.map fun c => shown (lower c))

/-- What is written in a part of a text is written in the text. -/
theorem IsWritten.mono {text : List Char} {a : String × String} (h : IsWritten s a)
    (hs : s <:+: text) : IsWritten text a := by
  rcases h with hempty | ⟨name, blanks, hwritten, hblanks, hname⟩
  · exact Or.inl hempty
  · exact Or.inr ⟨name, blanks, hwritten.trans hs, hblanks, hname⟩

/-- An attribute that is added to others is one of them or the new one. -/
theorem mem_addAttribute {attrs : List (String × String)} {name value : String}
    {a : String × String} (h : a ∈ addAttribute attrs name value) :
    a ∈ attrs ∨ a = (name, value) := by
  unfold addAttribute at h
  split at h
  · exact Or.inl h
  · simpa using h

/-- A value comes off the front of the text, in quotes of either kind or in none. -/
theorem suffix_of_readValue? {value : List Char} (h : readValue? s = some (value, rest)) :
    rest <:+ s := by
  unfold readValue? at h
  have hs : s.dropWhile isSpace <:+ s := List.dropWhile_suffix _
  -- What stands behind a quote that closes the value of the text `t`, behind the one that opens it.
  have hquoted {t u : List Char} {c d : Char} {inside : Char → Bool}
      (hopen : s.dropWhile isSpace = c :: t) (hclose : t.dropWhile inside = d :: u) : u <:+ s :=
    (suffix_of_dropWhile hclose).trans (suffix_of_dropWhile hopen)
  split at h
  · cases h
  · next hopen =>
    split at h
    · cases h
    · next hclose =>
      cases h
      exact hquoted hopen hclose
  · next hopen =>
    split at h
    · cases h
    · next hclose =>
      cases h
      exact hquoted hopen hclose
  · dsimp only at h
    split at h
    · cases h
    · cases h
      exact (List.dropWhile_suffix _).trans hs

/-- The name of an attribute that has a value is written with blanks and an equals sign behind it.
-/
theorem isWritten_of_dropWhile {inName : Char → Bool} {c : Char} {u : List Char} (value : String)
    (h : (t.dropWhile inName).dropWhile isSpace = '=' :: u) :
    IsWritten (c :: t)
      (String.ofList ((c :: t.takeWhile inName).map fun c => shown (lower c)), value) := by
  have hblanks : ∀ c ∈ (t.dropWhile inName).takeWhile isSpace, isSpace c = true :=
    fun c hc => List.mem_takeWhile_imp hc
  have htext : t = t.takeWhile inName ++ ((t.dropWhile inName).takeWhile isSpace ++ '=' :: u) := by
    rw [← h, List.takeWhile_append_dropWhile, List.takeWhile_append_dropWhile]
  refine Or.inr ⟨_, _, ⟨[], u, ?_⟩, hblanks, rfl⟩
  conv_rhs => rw [htext]
  simp

variable {text : List Char}

/-- Reading attributes keeps that they are written in the text, and ends in it. -/
theorem isWritten_of_readAttributes? {fuel : ℕ} {attrs attrs' : List (String × String)}
    {closing : Bool} (h : readAttributes? attrs fuel s = some (attrs', closing, rest))
    (hs : s <:+ text) (hattrs : ∀ a ∈ attrs, IsWritten text a) :
    rest <:+ text ∧ ∀ a ∈ attrs', IsWritten text a := by
  induction fuel generalizing attrs s with
  | zero => cases h
  | succ fuel ih =>
    unfold readAttributes? at h
    have htag : s.dropWhile isSpace <:+ text := (List.dropWhile_suffix _).trans hs
    split at h
    · cases h
    · next hend =>
      cases h
      exact ⟨(List.suffix_cons _ _).trans (hend ▸ htag), hattrs⟩
    · next hend =>
      cases h
      exact ⟨(List.suffix_cons _ _).trans ((List.suffix_cons _ _).trans (hend ▸ htag)), hattrs⟩
    · next hslash => exact ih h ((List.suffix_cons _ _).trans (hslash ▸ htag)) hattrs
    · next c t _ _ _ hname =>
      rw [hname] at htag
      have hrest (inName : Char → Bool) : t.dropWhile inName <:+ text :=
        (List.dropWhile_suffix _).trans ((List.suffix_cons c t).trans htag)
      dsimp only at h
      split at h
      · next u hequals =>
        split at h
        · next value v hvalue =>
          have hv : v <:+ text := (suffix_of_readValue? hvalue).trans
            ((List.suffix_cons _ _).trans (hequals ▸ (List.dropWhile_suffix _).trans (hrest _)))
          refine ih h hv fun a ha => ?_
          rcases mem_addAttribute ha with ha | rfl
          · exact hattrs a ha
          · exact (isWritten_of_dropWhile _ hequals).mono htag.isInfix
        · cases h
      · refine ih h (hrest _) fun a ha => ?_
        rcases mem_addAttribute ha with ha | rfl
        · exact hattrs a ha
        · exact Or.inl rfl

/-- **The attributes of a tag are written in the text** that the tag is read from. -/
theorem isWritten_of_readTag? {name : String} {attrs : List (String × String)} {closing : Bool}
    (h : readTag? s = some (name, attrs, closing, rest)) :
    rest <:+ s ∧ ∀ a ∈ attrs, IsWritten s a := by
  unfold readTag? at h
  dsimp only at h
  obtain ⟨⟨attrs', closing', rest'⟩, hattrs, heq⟩ := Option.map_eq_some_iff.mp h
  cases heq
  exact isWritten_of_readAttributes? hattrs (List.dropWhile_suffix _) (by simp)

/-! ### Tokens -/

/-- What is taken off a text stands in it: the rest is an end of the text, and the attributes of the
tags are written in it. -/
structure Taken.IsFrom (taken : Taken) (s : List Char) : Prop where
  /-- The rest is an end of the text. -/
  rest : taken.rest <:+ s
  /-- The attributes are written in the text. -/
  attrs : ∀ token ∈ taken.tokens, ∀ a ∈ token.attrs, IsWritten s a

/-- What comes off an end of a text stands in the whole text. -/
theorem Taken.IsFrom.mono {taken : Taken} (h : taken.IsFrom s) (hs : s <:+ t) : taken.IsFrom t :=
  ⟨h.rest.trans hs, fun token htoken a ha => (h.attrs token htoken a ha).mono hs.isInfix⟩

/-- Tokens that start no element. -/
theorem Taken.isFrom_of_forall {tokens : List Token} {bound : Bound} (hrest : rest <:+ s)
    (h : ∀ token ∈ tokens, token.attrs = []) : Taken.IsFrom ⟨tokens, rest, bound⟩ s :=
  ⟨hrest, fun token htoken a ha => by rw [h token htoken] at ha; cases ha⟩

/-- A start tag brings its attributes along. -/
theorem isFrom_startTagAt (s : List Char) {bound : Bound} :
    Taken.IsFrom ⟨[(startTagAt s).1], (startTagAt s).2, bound⟩ s := by
  unfold startTagAt
  split
  · next h =>
    obtain ⟨hrest, hattrs⟩ := isWritten_of_readTag? h
    exact ⟨hrest, by simpa [attrs] using hattrs⟩
  · exact Taken.isFrom_of_forall List.nil_suffix (by simp [attrs])

/-- An end tag brings none, whatever is written in it. -/
theorem isFrom_endTagAt (s : List Char) {bound : Bound} :
    Taken.IsFrom ⟨[(endTagAt s).1], (endTagAt s).2, bound⟩ s := by
  unfold endTagAt
  split
  · next h => exact Taken.isFrom_of_forall (isWritten_of_readTag? h).1 (by simp [attrs])
  · exact Taken.isFrom_of_forall List.nil_suffix (by simp [attrs])

theorem isFrom_bogusComment (s : List Char) {bound : Bound} :
    Taken.IsFrom ⟨[(bogusComment s).1], (bogusComment s).2, bound⟩ s :=
  Taken.isFrom_of_forall (bogusComment_suffix s) (by simp [bogusComment, commentOf, attrs])

/-- What stands among separators is a separator or stood there without them. -/
theorem mem_intersperse {token separator : Token} {tokens : List Token}
    (h : token ∈ tokens.intersperse separator) : token ∈ tokens ∨ token = separator := by
  fun_induction List.intersperse separator tokens <;> grind

/-- A section is read as text. -/
theorem attrs_of_mem_sectionTokens {token : Token} (h : token ∈ sectionTokens s) :
    token.attrs = [] := by
  rcases mem_intersperse h with h | rfl
  · obtain ⟨piece, -, rfl⟩ := List.mem_map.mp h
    rfl
  · rfl

/-- What starts with an exclamation mark is a comment, a document type or a section. -/
theorem isFrom_declarationAt (sections : Bool) (s : List Char) :
    Taken.IsFrom ⟨(declarationAt sections s).1, (declarationAt sections s).2, none⟩ s := by
  unfold declarationAt
  split
  · next h =>
    exact Taken.isFrom_of_forall ((readComment_suffix _ _ _).trans (Chars.suffix_of_isPrefixOf? h))
      (by simp [commentOf, attrs])
  · next h =>
    exact Taken.isFrom_of_forall ((readDoctype_suffix _).trans (suffix_of_dropWord? h))
      (by simp [attrs])
  · next h =>
    split
    · exact Taken.isFrom_of_forall ((readSection_suffix _).trans (Chars.suffix_of_isPrefixOf? h))
        fun token htoken => attrs_of_mem_sectionTokens htoken
    · exact isFrom_bogusComment s
  · exact isFrom_bogusComment s

/-- A piece of text comes off the front. -/
theorem isFrom_takePiece (isPlain : Char → Bool) (bound : Bound) (s : List Char) :
    (takePiece isPlain bound s).IsFrom s := by
  unfold takePiece
  split
  · exact Taken.isFrom_of_forall ((List.suffix_cons _ _).trans (List.suffix_cons _ _))
      (by simp [attrs])
  · exact Taken.isFrom_of_forall (List.suffix_cons _ _) (by simp [attrs])
  · exact Taken.isFrom_of_forall (List.suffix_cons _ _) (by simp [attrs])
  · exact Taken.isFrom_of_forall (List.drop_suffix _ _) (by simp [attrs])

theorem isFrom_takeReference (s : List Char) : (takeReference s).IsFrom s := by
  unfold takeReference
  dsimp only
  split
  · next h => exact Taken.isFrom_of_forall (suffix_of_reference? h) (by simp [attrs])
  · exact Taken.isFrom_of_forall List.suffix_rfl (by simp [attrs])

/-- Behind an angle bracket stands a tag, a comment or more text. -/
theorem isFrom_takeMarkup (sections : Bool) (s : List Char) : (takeMarkup sections s).IsFrom s := by
  unfold takeMarkup
  dsimp only
  split
  · exact Taken.isFrom_of_forall List.suffix_rfl (by simp [attrs])
  · exact (isFrom_declarationAt sections _).mono (List.suffix_cons _ _)
  · exact isFrom_bogusComment _
  · exact Taken.isFrom_of_forall List.nil_suffix (by simp [attrs])
  · split_ifs
    · exact (isFrom_endTagAt _).mono (List.suffix_cons _ _)
    · exact Taken.isFrom_of_forall ((List.suffix_cons _ _).trans (List.suffix_cons _ _))
        (by simp [attrs])
    · exact (isFrom_bogusComment _).mono (List.suffix_cons _ _)
  · split_ifs
    · exact isFrom_startTagAt _
    · exact Taken.isFrom_of_forall List.suffix_rfl (by simp [attrs])

/-- Between tags a piece of text, a reference or markup is taken off. -/
theorem isFrom_nextData (sections : Bool) (bound : Bound) (s : List Char) :
    (nextData sections bound s).IsFrom s := by
  unfold nextData
  split
  · exact Taken.isFrom_of_forall List.suffix_rfl (by simp [attrs])
  · exact Taken.isFrom_of_forall (List.suffix_cons _ _) (by simp [attrs])
  · exact (isFrom_takeReference _).mono (List.suffix_cons _ _)
  · exact (isFrom_takeMarkup sections _).mono (List.suffix_cons _ _)
  · exact isFrom_takePiece _ bound s

theorem isFrom_nextPlain (bound : Bound) (s : List Char) : (nextPlain bound s).IsFrom s := by
  unfold nextPlain
  split
  · exact Taken.isFrom_of_forall List.suffix_rfl (by simp [attrs])
  · exact Taken.isFrom_of_forall (List.suffix_cons _ _) (by simp [attrs])
  · exact isFrom_takePiece _ bound s

/-- Raw text is taken off first and its end tag then. -/
theorem isFrom_textOrEndTag (cs : List Char) (hrest : rest <:+ s) :
    (textOrEndTag cs rest).IsFrom s := by
  unfold textOrEndTag
  split_ifs
  · split
    · exact Taken.isFrom_of_forall List.nil_suffix (by simp [attrs])
    · exact (isFrom_endTagAt _).mono ((List.drop_suffix _ _).trans hrest)
  · exact Taken.isFrom_of_forall hrest (by simp [attrs])

/-- **Tokens come off the front of the text**: whatever is being read, what follows is an end of the
text, and the attributes of the tags taken off are written in it. -/
theorem isFrom_next (content : Content) (sections : Bool) (bound : Bound) (s : List Char) :
    (next content sections bound s).IsFrom s := by
  cases content with
  | data => exact isFrom_nextData sections bound s
  | referenceText name => exact isFrom_textOrEndTag _ (splitAtEndTag_suffix name s)
  | rawText name => exact isFrom_textOrEndTag _ (splitAtEndTag_suffix name s)
  | script => exact isFrom_textOrEndTag _ (splitScript_suffix .outside 0 s)
  | plain => exact isFrom_nextPlain bound s

end Token

end PageModules
