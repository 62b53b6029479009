import PageModules.Proofs.Text.Words
import PageModules.Style.StyleMap

/-!
# Reading declarations

A style text is written by declarations, each a name, a colon and a value, with semicolons between
them (`StyleMap.IsTextOf`).  A value closes its quotes and parentheses and has its semicolons within
them (`Style.IsClosed`).  Reading such a text gives back its declarations
(`StyleMap.declarations_eq_of_isTextOf`): blanks around names and values, the case of names and a
final `!important` do not count.

So the text of well-formed declarations is read as the map that setting them one after the other
gives (`StyleMap.ofText_flatMap_text`).
-/

namespace PageModules

open Text (isBlank lower)

/-! ### Closed texts -/

namespace Style

/-- The quotes and parentheses of style text. -/
def nestingChars : List Char := ['"', '\'', '(', ')']

/-- A text that closes the quotes and parentheses that it opens.  A semicolon stands `inside` of
parentheses or within quotes. -/
inductive IsClosed : (inside : Bool) → List Char → Prop
  /-- The empty text. -/
  | nil {inside : Bool} : IsClosed inside []
  /-- A character that neither opens nor closes anything. -/
  | char {inside : Bool} {c : Char} {s : List Char} (hc : c ∉ nestingChars)
      (hinside : c = ';' → inside = true) (hs : IsClosed inside s) : IsClosed inside (c :: s)
  /-- A quoted text. -/
  | quoted {inside : Bool} {q : Char} {t s : List Char} (hq : q = '"' ∨ q = '\'') (ht : q ∉ t)
      (hs : IsClosed inside s) : IsClosed inside (q :: t ++ q :: s)
  /-- A group of parentheses. -/
  | group {inside : Bool} {t s : List Char} (ht : IsClosed true t) (hs : IsClosed inside s) :
      IsClosed inside ('(' :: t ++ ')' :: s)

theorem IsClosed.append {inside : Bool} {s t : List Char} (hs : IsClosed inside s)
    (ht : IsClosed inside t) : IsClosed inside (s ++ t) := by
  induction hs with
  | nil => exact ht
  | char hc hinside _ ih => exact .char hc hinside (ih ht)
  | quoted hq hquote _ ih =>
    rw [List.append_assoc, List.cons_append]
    exact .quoted hq hquote (ih ht)
  | group hgroup _ _ ih =>
    rw [List.append_assoc, List.cons_append]
    exact .group hgroup (ih ht)

theorem isClosed_of_forall {inside : Bool} {s : List Char}
    (h : ∀ c ∈ s, c ∉ nestingChars ∧ c ≠ ';') : IsClosed inside s := by
  induction s with
  | nil => exact .nil
  | cons c s ih =>
    obtain ⟨⟨hc, hsemicolon⟩, hs⟩ := List.forall_mem_cons.mp h
    exact .char hc (fun heq => absurd heq hsemicolon) (ih hs)

/-! ### Splitting -/

theorem Nesting.step_of_not_mem {c : Char} (hc : c ∉ nestingChars) (n : Nesting) :
    n.step c = n := by
  simp only [nestingChars, List.mem_cons, List.not_mem_nil, or_false, not_or] at hc
  obtain ⟨hdouble, hsingle, hopen, hclose⟩ := hc
  unfold Nesting.step
  rw [if_neg (by simp [hdouble, hsingle]), if_neg hopen, if_neg hclose, ite_self]

theorem Nesting.step_quote {q : Char} (hq : q = '"' ∨ q = '\'') (depth : ℕ) :
    Nesting.step ⟨depth, none⟩ q = ⟨depth, some q⟩ := by
  unfold Nesting.step
  rw [if_pos hq]

theorem Nesting.step_endQuote {q : Char} (hq : q = '"' ∨ q = '\'') (depth : ℕ) :
    Nesting.step ⟨depth, some q⟩ q = ⟨depth, none⟩ := by
  unfold Nesting.step
  rw [if_pos hq]
  dsimp only
  rw [if_pos rfl]

/-- Within quotes only the same quote counts. -/
theorem Nesting.step_within {q c : Char} (hc : q ≠ c) (depth : ℕ) :
    Nesting.step ⟨depth, some q⟩ c = ⟨depth, some q⟩ := by
  unfold Nesting.step
  split
  · dsimp only
    rw [if_neg hc]
  · rfl

theorem splitDeclarationsFrom_quoted {q : Char} (hq : q = '"' ∨ q = '\'') {t : List Char}
    (ht : q ∉ t) (depth : ℕ) (piece rest : List Char) :
    splitDeclarationsFrom ⟨depth, some q⟩ piece (t ++ q :: rest) =
      splitDeclarationsFrom ⟨depth, none⟩ (q :: (t.reverse ++ piece)) rest := by
  induction t generalizing piece with
  | nil =>
    rw [List.nil_append, splitDeclarationsFrom, if_neg (by simp [Nesting.isOutside]),
      Nesting.step_endQuote hq]
    rfl
  | cons c t ih =>
    rw [List.mem_cons, not_or] at ht
    rw [List.cons_append, splitDeclarationsFrom, if_neg (by simp [Nesting.isOutside]),
      Nesting.step_within ht.1, ih ht.2]
    simp

/-- **The splitter reads a closed text into one piece.** -/
theorem splitDeclarationsFrom_of_isClosed {inside : Bool} {s : List Char} (hs : IsClosed inside s)
    {depth : ℕ} (hdepth : inside = true → depth ≠ 0) (piece rest : List Char) :
    splitDeclarationsFrom ⟨depth, none⟩ piece (s ++ rest) =
      splitDeclarationsFrom ⟨depth, none⟩ (s.reverse ++ piece) rest := by
  induction hs generalizing depth piece rest with
  | nil => rfl
  | @char inside c s hc hinside _ ih =>
    have hpiece : ¬(decide (c = ';') && Nesting.isOutside ⟨depth, none⟩) = true := by
      intro h
      simp only [Nesting.isOutside, Bool.and_eq_true, decide_eq_true_eq] at h
      exact hdepth (hinside h.1) h.2.1
    rw [List.cons_append, splitDeclarationsFrom, if_neg hpiece, Nesting.step_of_not_mem hc,
      ih hdepth]
    simp
  | @quoted inside q t s hq ht _ ih =>
    have hpiece : ¬(decide (q = ';') && Nesting.isOutside ⟨depth, none⟩) = true := by
      rcases hq with rfl | rfl <;> simp
    rw [List.append_assoc, List.cons_append, List.cons_append, splitDeclarationsFrom, if_neg hpiece,
      Nesting.step_quote hq, splitDeclarationsFrom_quoted hq ht, ih hdepth]
    simp
  | @group inside t s _ _ ihGroup ih =>
    have hopen : Nesting.step ⟨depth, none⟩ '(' = ⟨depth + 1, none⟩ := rfl
    have hclose : Nesting.step ⟨depth + 1, none⟩ ')' = ⟨depth, none⟩ := rfl
    rw [List.append_assoc, List.cons_append, List.cons_append, splitDeclarationsFrom,
      if_neg (by simp), hopen, ihGroup (fun _ => Nat.succ_ne_zero depth), splitDeclarationsFrom,
      if_neg (by simp), hclose, ih hdepth]
    simp

/-- A closed text in front of a semicolon is a piece. -/
theorem splitDeclarations_append_cons {s : List Char} (hs : IsClosed false s) (rest : List Char) :
    splitDeclarations (s ++ ';' :: rest) = s :: splitDeclarations rest := by
  have houtside : Nesting.outside = ⟨0, none⟩ := rfl
  rw [splitDeclarations, houtside, splitDeclarationsFrom_of_isClosed hs (by simp),
    splitDeclarationsFrom, if_pos (by decide), List.append_nil, List.reverse_reverse]
  rfl

theorem splitDeclarations_of_isClosed {s : List Char} (hs : IsClosed false s)
    (hblank : Chars.isBlankText s = false) : splitDeclarations s = [s] := by
  have hreverse : Chars.isBlankText s.reverse = false := by
    rwa [Chars.isBlankText, List.all_reverse]
  have houtside : Nesting.outside = ⟨0, none⟩ := rfl
  rw [splitDeclarations, houtside, ← List.append_nil s,
    splitDeclarationsFrom_of_isClosed hs (by simp), splitDeclarationsFrom, List.append_nil,
    hreverse, List.reverse_reverse]
  simp

end Style

namespace StyleMap

open Style (IsClosed)

/-! ### Names and values -/

/-- The characters that may not be in a name. -/
def separators : List Char := ':' :: ';' :: Style.nestingChars

/-- A name of a declaration: not empty, in lowercase, without blanks and separators. -/
structure IsName (name : List Char) : Prop where
  /-- There is a character. -/
  ne_nil : name ≠ []
  /-- There are no uppercase letters. -/
  lowercase_eq : Chars.lowercase name = name
  /-- All characters may be in a name. -/
  plain : ∀ c ∈ name, isBlank c = false ∧ c ∉ separators

/-- What marks a declaration as important. -/
def importantMark : List Char := "!important".toList

/-- A value of a declaration: not empty, closed, with its blanks squeezed, and without the mark of
important declarations in any case. -/
structure IsValue (value : List Char) : Prop where
  /-- There is a character. -/
  ne_nil : value ≠ []
  /-- Blanks are single spaces between other characters. -/
  squeeze_eq : Chars.squeeze value = value
  /-- Quotes and parentheses are closed, and semicolons stand within them. -/
  closed : IsClosed false value
  /-- The value is not marked as important. -/
  unmarked : ¬importantMark <:+: Chars.lowercase value

/-- Nothing, or a space and the mark of important declarations in any case. -/
def IsEnding (ending : List Char) : Prop :=
  ending = [] ∨ ∃ mark, ending = ' ' :: mark ∧ Chars.lowercase mark = importantMark

/-- A text that writes a declaration: its name in any case, a colon and its value, which may be
marked as important.  Blanks may stand around name and value, and runs of them in the value. -/
def Writes (s : List Char) (d : String × String) : Prop :=
  ∃ front back ending, s = front ++ ':' :: back ∧
    IsName d.1.toList ∧ Chars.lowercase (Chars.squeeze front) = d.1.toList ∧
    IsValue d.2.toList ∧ IsEnding ending ∧ Chars.squeeze back = d.2.toList ++ ending

/-- A style text that is written by declarations, with semicolons between them.  There may be more
semicolons, with nothing but blanks in front of them. -/
inductive IsTextOf : List (String × String) → List Char → Prop
  /-- A text without declarations. -/
  | blank {s : List Char} (hs : Chars.isBlankText s = true) : IsTextOf [] s
  /-- A last declaration without a semicolon. -/
  | last {d : String × String} {s : List Char} (hs : Writes s d) : IsTextOf [d] s
  /-- A declaration in front of others. -/
  | cons {d : String × String} {ds : List (String × String)} {s rest : List Char} (hs : Writes s d)
      (hrest : IsTextOf ds rest) : IsTextOf (d :: ds) (s ++ ';' :: rest)
  /-- A semicolon without a declaration. -/
  | skip {ds : List (String × String)} {s rest : List Char} (hs : Chars.isBlankText s = true)
      (hrest : IsTextOf ds rest) : IsTextOf ds (s ++ ';' :: rest)

/-! ### One declaration -/

theorem stripImportant_of_find?_eq_none {value : List Char}
    (h : Chars.find? importantMark (Chars.lowercase value) = none) :
    stripImportant value = value := by
  unfold importantMark at h
  unfold stripImportant
  extract_lets mark
  rw [h]

theorem stripImportant_of_find?_eq_some {value : List Char} {i : ℕ}
    (h : Chars.find? importantMark (Chars.lowercase value) = some i) : stripImportant value =
      Chars.trim (value.take i ++ value.drop (i + importantMark.length)) := by
  unfold importantMark at h ⊢
  unfold stripImportant
  extract_lets mark
  rw [h]

/-- The mark of an important declaration is dropped. -/
theorem stripImportant_append {value ending : List Char} (hvalue : IsValue value)
    (hending : IsEnding ending) : stripImportant (value ++ ending) = value := by
  rcases hending with rfl | ⟨mark, rfl, hmark⟩
  · rw [List.append_nil]
    exact stripImportant_of_find?_eq_none (Chars.find?_eq_none hvalue.unmarked)
  · have hlower : Chars.lowercase (value ++ ' ' :: mark) =
        Chars.lowercase value ++ ' ' :: importantMark := by
      rw [← hmark, Chars.lowercase, List.map_append]
      rfl
    have hfind : Chars.find? importantMark (Chars.lowercase (value ++ ' ' :: mark)) =
        some (value.length + 1) := by
      rw [hlower, Chars.find?_append_cons hvalue.unmarked (by decide), Chars.lowercase,
        List.length_map]
    have htake : (value ++ ' ' :: mark).take (value.length + 1) = value ++ [' '] := by
      rw [List.take_length_add_append]
      rfl
    have hdrop : (value ++ ' ' :: mark).drop (value.length + 1 + importantMark.length) = [] := by
      rw [← hmark, Chars.lowercase, List.length_map, List.drop_eq_nil_iff, List.length_append,
        List.length_cons]
      omega
    have htrimmed : Chars.IsTrimmed value := hvalue.squeeze_eq ▸ Chars.isTrimmed_trim _
    rw [stripImportant_of_find?_eq_some hfind, htake, hdrop, List.append_nil,
      Chars.trim_concat_of_isBlank (by decide), Chars.trim_eq_self_iff.mpr htrimmed]

/-- A mark is added to a squeezed value behind a space. -/
theorem IsEnding.squeeze_append {ending : List Char} (h : IsEnding ending) {value : List Char}
    (hvalue : IsValue value) : Chars.squeeze (value ++ ending) = value ++ ending := by
  rcases h with rfl | ⟨mark, rfl, hmark⟩
  · rw [List.append_nil, hvalue.squeeze_eq]
  · refine Chars.squeeze_append_word hvalue.squeeze_eq hvalue.ne_nil (fun c hc => ?_) ?_
    · have hvisible : ∀ c ∈ importantMark, isBlank c = false := by decide
      rw [← Text.isBlank_lower]
      refine hvisible _ ?_
      rw [← hmark]
      exact List.mem_map_of_mem hc
    · rintro rfl
      exact absurd hmark (by decide)

/-- A piece of squeezed text that gives a declaration. -/
structure IsPiece (d : String × String) (front back : List Char) : Prop where
  /-- There is a name. -/
  name : IsName d.1.toList
  /-- It stands in front of the colon, in any case. -/
  front_eq : Chars.lowercase (Chars.trim front) = d.1.toList
  /-- There is a value. -/
  value : IsValue d.2.toList
  /-- It stands behind the colon, and may be marked as important. -/
  back_eq : ∃ ending, IsEnding ending ∧ Chars.trim back = d.2.toList ++ ending

theorem lower_of_mem_separators : ∀ c ∈ separators, lower c = c := by decide

theorem isBlank_of_mem_separators : ∀ c ∈ separators, isBlank c = false := by decide

theorem not_mem_separators_of_isBlank {c : Char} (hc : isBlank c = true) : c ∉ separators := by
  intro hseparator
  rw [isBlank_of_mem_separators c hseparator] at hc
  cases hc

theorem IsPiece.not_mem_front {d : String × String} {front back : List Char}
    (h : IsPiece d front back) : ∀ c ∈ front, c ∉ separators := by
  intro c hc hseparator
  rcases Chars.isBlank_or_mem_trim hc with hblank | hc
  · exact not_mem_separators_of_isBlank hblank hseparator
  · have hname : c ∈ d.1.toList := by
      rw [← h.front_eq, ← lower_of_mem_separators c hseparator]
      exact List.mem_map_of_mem hc
    exact (h.name.plain c hname).2 hseparator

theorem isClosed_of_not_mem_separators {inside : Bool} {s : List Char}
    (h : ∀ c ∈ s, c ∉ separators) : IsClosed inside s := by
  refine Style.isClosed_of_forall fun c hc => ⟨fun hnesting => h c hc ?_, ?_⟩
  · exact List.mem_cons_of_mem _ (List.mem_cons_of_mem _ hnesting)
  · rintro rfl
    exact h ';' hc (by decide)

theorem IsEnding.isClosed {ending : List Char} (h : IsEnding ending) : IsClosed false ending := by
  refine isClosed_of_not_mem_separators fun c hc hseparator => ?_
  rcases h with rfl | ⟨mark, rfl, hmark⟩
  · cases hc
  · rcases List.mem_cons.mp hc with rfl | hc
    · exact absurd hseparator (by decide)
    · have hlower : c ∈ importantMark := by
        rw [← hmark, ← lower_of_mem_separators c hseparator]
        exact List.mem_map_of_mem hc
      have hplain : ∀ c ∈ importantMark, c ∉ separators := by decide
      exact hplain c hlower hseparator

theorem isClosed_of_trim {s : List Char} (h : IsClosed false (Chars.trim s)) :
    IsClosed false s := by
  obtain ⟨before, after, hblank, hs⟩ := Chars.exists_eq_append_trim s
  have hblanks {t : List Char} (ht : ∀ c ∈ t, isBlank c = true) : IsClosed false t :=
    isClosed_of_not_mem_separators fun c hc => not_mem_separators_of_isBlank (ht c hc)
  rw [List.forall_mem_append] at hblank
  rw [hs]
  exact ((hblanks hblank.1).append h).append (hblanks hblank.2)

theorem IsPiece.isClosed {d : String × String} {front back : List Char}
    (h : IsPiece d front back) : IsClosed false (front ++ ':' :: back) := by
  obtain ⟨ending, hending, hback⟩ := h.back_eq
  refine (isClosed_of_not_mem_separators h.not_mem_front).append (.char (by decide) (by decide) ?_)
  refine isClosed_of_trim ?_
  rw [hback]
  exact h.value.closed.append hending.isClosed

/-- **A piece is read as its declaration.** -/
theorem IsPiece.declarationOf?_eq {d : String × String} {front back : List Char}
    (h : IsPiece d front back) : declarationOf? (front ++ ':' :: back) = some d := by
  obtain ⟨ending, hending, hback⟩ := h.back_eq
  have hcolon : ':' ∉ front := fun hc => h.not_mem_front ':' hc (by decide)
  have hempty : ¬(d.1.toList.isEmpty || d.2.toList.isEmpty) = true := by
    simp [h.name.ne_nil, h.value.ne_nil]
  rw [declarationOf?, Chars.splitAt?_append_cons hcolon, Option.bind_some]
  dsimp only
  rw [h.front_eq, hback, stripImportant_append h.value hending, if_neg hempty,
    String.ofList_toList, String.ofList_toList]

theorem declarationOf?_eq_none {s : List Char} (h : ∀ c ∈ s, c ∉ separators) :
    declarationOf? s = none := by
  rw [declarationOf?, Chars.splitAt?_eq_none fun hc => h ':' hc (by decide)]
  rfl

/-! ### Texts -/

theorem Writes.exists_isPiece {s : List Char} {d : String × String} (h : Writes s d)
    (written afterBlank : Bool) : ∃ front back,
      Chars.squeezeFrom written afterBlank s = front ++ ':' :: back ∧ IsPiece d front back := by
  obtain ⟨front, back, ending, rfl, hname, hfront, hvalue, hending, hback⟩ := h
  refine ⟨Chars.squeezeFrom written afterBlank front, Chars.squeezeFrom true false back, ?_, ?_⟩
  · exact Chars.squeezeFrom_append_cons (by decide) written afterBlank front back
  · rw [← Chars.trim_squeezeFrom written afterBlank] at hfront
    rw [← Chars.trim_squeezeFrom true false] at hback
    exact ⟨hname, hfront, hvalue, ending, hending, hback⟩

theorem IsPiece.trimEnd {d : String × String} {front back : List Char} (h : IsPiece d front back) :
    IsPiece d front (Chars.trimEnd back) :=
  { h with back_eq := by rw [Chars.trim_trimEnd]; exact h.back_eq }

theorem splitDeclarations_of_isPiece {d : String × String} {front back : List Char}
    (h : IsPiece d front back) :
    Style.splitDeclarations (front ++ ':' :: back) = [front ++ ':' :: back] := by
  refine Style.splitDeclarations_of_isClosed h.isClosed ?_
  rw [Chars.isBlankText, List.all_eq_false]
  exact ⟨':', by simp, by decide⟩

/-- The declarations of a text are read, whatever stands in front of it. -/
theorem filterMap_splitDeclarations {ds : List (String × String)} {s : List Char}
    (h : IsTextOf ds s) (written afterBlank : Bool) :
    (Style.splitDeclarations (Chars.trimEnd (Chars.squeezeFrom written afterBlank s))).filterMap
      declarationOf? = ds := by
  have hsemicolon : isBlank ';' = false := by decide
  induction h generalizing written afterBlank with
  | blank hs =>
    rw [Chars.trimEnd_of_isBlankText (Chars.isBlankText_squeezeFrom hs written afterBlank)]
    rfl
  | last hs =>
    obtain ⟨front, back, heq, hpiece⟩ := hs.exists_isPiece written afterBlank
    have hpiece := hpiece.trimEnd
    rw [heq, Chars.trimEnd_append_cons (by decide), splitDeclarations_of_isPiece hpiece,
      List.filterMap_cons_some hpiece.declarationOf?_eq]
    rfl
  | cons hs hrest ih =>
    obtain ⟨front, back, heq, hpiece⟩ := hs.exists_isPiece written afterBlank
    rw [Chars.squeezeFrom_append_cons hsemicolon, Chars.trimEnd_append_cons hsemicolon, heq,
      Style.splitDeclarations_append_cons hpiece.isClosed,
      List.filterMap_cons_some hpiece.declarationOf?_eq, ih]
  | skip hs hrest ih =>
    have hblank := Chars.isBlankText_squeezeFrom hs written afterBlank
    have hplain := fun c hc => not_mem_separators_of_isBlank (List.all_eq_true.mp hblank c hc)
    rw [Chars.squeezeFrom_append_cons hsemicolon, Chars.trimEnd_append_cons hsemicolon,
      Style.splitDeclarations_append_cons (isClosed_of_not_mem_separators hplain),
      List.filterMap_cons_none (declarationOf?_eq_none hplain), ih]

/-- **Reading a text gives its declarations.** -/
theorem declarations_eq_of_isTextOf {ds : List (String × String)} {source : String}
    (h : IsTextOf ds source.toList) :
    (Style.splitDeclarations (Chars.squeeze source.toList)).filterMap declarationOf? = ds := by
  rw [Chars.squeeze_eq_trimEnd]
  exact filterMap_splitDeclarations h false false

/-! ### The text of declarations -/

/-- The name of a property. -/
inductive PropertyName where
  /-- A custom property, named without its mark. -/
  | custom (name : String)
  /-- Any other property. -/
  | ordinary (name : String)

/-- A name as it is written. -/
def PropertyName.text : PropertyName → List Char
  | custom name => customMark.toList ++ name.toList
  | ordinary name => name.toList

/-- A declaration as it is written. -/
structure Declaration where
  /-- The name of the property. -/
  name : PropertyName
  /-- The value. -/
  value : String
  /-- What marks the declaration as important, if anything does. -/
  mark : Option String

namespace Declaration

/-- The space and the mark behind the value. -/
def ending (d : Declaration) : List Char :=
  match d.mark with
  | some mark => ' ' :: mark.toList
  | none => []

/-- A declaration with a semicolon at the end. -/
def text (d : Declaration) : List Char :=
  d.name.text ++ ": ".toList ++ d.value.toList ++ d.ending ++ ";".toList

/-- A declaration that can be written. -/
structure IsWellFormed (d : Declaration) : Prop where
  /-- The name is one. -/
  isName : IsName d.name.text
  /-- Only custom properties have their mark. -/
  ordinary : ∀ name, d.name = .ordinary name → ¬customMark.toList <+: name.toList
  /-- The value is one. -/
  isValue : IsValue d.value.toList
  /-- The mark is the one of important declarations, in any case. -/
  isMark : ∀ mark, d.mark = some mark → Chars.lowercase mark.toList = importantMark

/-- Sets the property of a declaration. -/
def setIn (d : Declaration) (m : StyleMap) : StyleMap :=
  match d.name with
  | .custom name => m.setCustom name d.value
  | .ordinary name => m.set name d.value

/-- The written name and the value. -/
def pair (d : Declaration) : String × String := (String.ofList d.name.text, d.value)

theorem IsWellFormed.isEnding {d : Declaration} (h : d.IsWellFormed) : IsEnding d.ending := by
  unfold ending
  split
  case h_1 mark hmark => exact .inr ⟨mark.toList, rfl, h.isMark mark hmark⟩
  case h_2 => exact .inl rfl

theorem IsWellFormed.writes {d : Declaration} (h : d.IsWellFormed) :
    Writes (d.name.text ++ ':' :: (' ' :: (d.value.toList ++ d.ending))) d.pair := by
  have hname : d.pair.1.toList = d.name.text := String.toList_ofList
  refine ⟨d.name.text, ' ' :: (d.value.toList ++ d.ending), d.ending, rfl, ?_, ?_, h.isValue,
    h.isEnding, ?_⟩
  · rw [hname]
    exact h.isName
  · rw [hname, Chars.squeeze_of_forall fun c hc => (h.isName.plain c hc).1, h.isName.lowercase_eq]
  · rw [Chars.squeeze_cons_of_isBlank (by decide), h.isEnding.squeeze_append h.isValue]
    rfl

theorem IsWellFormed.declare_pair {d : Declaration} (h : d.IsWellFormed) (m : StyleMap) :
    m.declare d.pair = d.setIn m := by
  unfold declare setIn
  have hdrop : Text.dropPiece? customMark d.pair.1 =
      (customMark.toList.isPrefixOf? d.name.text).map String.ofList := by
    rw [Text.dropPiece?, pair, String.toList_ofList]
  cases hname : d.name with
  | custom name =>
    have hcustom : customMark.toList.isPrefixOf? d.name.text = some name.toList := by
      rw [hname]
      exact List.isPrefixOf?_eq_some_iff_append_eq.mpr rfl
    rw [hdrop, hcustom, Option.map_some, String.ofList_toList]
    rfl
  | ordinary name =>
    have hordinary : customMark.toList.isPrefixOf? d.name.text = none := by
      rw [← Option.not_isSome_iff_eq_none, List.isSome_isPrefixOf?_eq_isPrefixOf,
        List.isPrefixOf_iff_prefix, hname]
      exact h.ordinary name hname
    rw [hdrop, hordinary, Option.map_none]
    dsimp only
    rw [pair, hname, PropertyName.text, String.ofList_toList]

theorem isTextOf_text {ds : List Declaration} (h : ∀ d ∈ ds, d.IsWellFormed) :
    IsTextOf (ds.map pair) (ds.flatMap text) := by
  induction ds with
  | nil => exact .blank rfl
  | cons d ds ih =>
    obtain ⟨hd, hds⟩ := List.forall_mem_cons.mp h
    have htext : (d :: ds).flatMap text =
        d.name.text ++ ':' :: (' ' :: (d.value.toList ++ d.ending)) ++ ';' :: ds.flatMap text := by
      simp [text]
    rw [htext]
    exact .cons hd.writes (ih hds)

end Declaration

/-- **Reading the text of declarations sets their properties one after the other.** -/
theorem ofText_flatMap_text {ds : List Declaration} (h : ∀ d ∈ ds, d.IsWellFormed) :
    ofText (String.ofList (ds.flatMap Declaration.text)) =
      ds.foldl (fun m d => d.setIn m) empty := by
  have hread : IsTextOf (ds.map Declaration.pair)
      (String.ofList (ds.flatMap Declaration.text)).toList := by
    rw [String.toList_ofList]
    exact Declaration.isTextOf_text h
  rw [ofText, declarations_eq_of_isTextOf hread, List.foldl_map]
  exact List.foldl_ext _ _ _ fun m d hd => (h d hd).declare_pair m

/-- An important background with a semicolon in the address of its image, and a custom property. -/
def quotedSemicolon : List Declaration :=
  [⟨.ordinary "background", "url('a;b.png') no-repeat", some "!IMPORTANT"⟩,
    ⟨.custom "animation", "fade (1s)", none⟩]

theorem ofText_quotedSemicolon :
    (∀ d ∈ quotedSemicolon, d.IsWellFormed) ∧
      ofText "background: url('a;b.png') no-repeat !IMPORTANT;--jtb-animation: fade (1s);" =
        quotedSemicolon.foldl (fun m d => d.setIn m) empty := by
  have hwell : ∀ d ∈ quotedSemicolon, d.IsWellFormed := by
    rw [quotedSemicolon, List.forall_mem_cons, List.forall_mem_singleton]
    constructor
    · have hvalue : "url('a;b.png') no-repeat".toList = "url".toList ++
          ('(' :: ('\'' :: "a;b.png".toList ++ '\'' :: []) ++ ')' :: " no-repeat".toList) := by
        decide +kernel
      refine ⟨⟨by decide +kernel, by decide +kernel, by decide +kernel⟩, ?_,
        ⟨by decide +kernel, by decide +kernel, ?_, by decide +kernel⟩, ?_⟩
      · rintro name ⟨⟩
        decide +kernel
      · dsimp only
        rw [hvalue]
        exact (Style.isClosed_of_forall (by decide)).append
          (.group (.quoted (.inr rfl) (by decide) .nil) (Style.isClosed_of_forall (by decide)))
      · rintro mark ⟨⟩
        decide +kernel
    · have hvalue : "fade (1s)".toList = "fade ".toList ++ ('(' :: "1s".toList ++ ')' :: []) := by
        decide +kernel
      refine ⟨⟨by decide +kernel, by decide +kernel, by decide +kernel⟩, by simp,
        ⟨by decide +kernel, by decide +kernel, ?_, by decide +kernel⟩, by simp⟩
      dsimp only
      rw [hvalue]
      exact (Style.isClosed_of_forall (by decide)).append
        (.group (Style.isClosed_of_forall (by decide)) .nil)
  have htext : String.ofList (quotedSemicolon.flatMap Declaration.text) =
      "background: url('a;b.png') no-repeat !IMPORTANT;--jtb-animation: fade (1s);" := by
    decide +kernel
  exact ⟨hwell, htext ▸ ofText_flatMap_text hwell⟩

end StyleMap

end PageModules
