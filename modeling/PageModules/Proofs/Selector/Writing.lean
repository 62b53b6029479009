import PageModules.Selector.Reader
import PageModules.Proofs.Layout.Fractions
import PageModules.Proofs.Text.Cutting

/-!
# Writing selectors

A selector is written as paths with commas between them.  A path has steps, a position and an
attribute (`Written.Path.chars`); its steps mean compounds (`Written.Path.meaning`), and the reader
finds just these: `Written.ofText_join_chars`.

* `Written.ofChars?_step` reads one step, part by part (`Written.parts?_flatMap`).
* A path ends plainly (`Written.EndsPlainly`): behind its last closing bracket there is no mark of a
  position or of an attribute.  So the reader, which looks for these marks from the end, takes none
  that stands in a value (`Written.ofChars?_path`).
-/

namespace PageModules

open Text (isBlank isAsciiLetter isAsciiDigit)

namespace Written

/-! ### What is written -/

/-- The characters with a meaning of their own in a selector. -/
def reserved : List Char := ['.', '[', ']', '=', '"', '\'', ',', ':', '@']

/-- A character that is no blank and has no meaning of its own, such as a letter, a digit, a dash or
an underscore. -/
def IsPlain (c : Char) : Prop := isBlank c = false ∧ c ∉ reserved

/-- The name of a class or of an attribute. -/
structure Name where
  /-- The characters of the name. -/
  chars : List Char
  /-- A name is not empty. -/
  ne_nil : chars ≠ []
  /-- None of them means something else. -/
  plain : ∀ c ∈ chars, IsPlain c

/-- The value of an attribute; it may be empty. -/
structure Value where
  /-- The characters of the value. -/
  chars : List Char
  /-- None of them is a blank or ends the value, the brackets or the path. -/
  plain : ∀ c ∈ chars, isBlank c = false ∧ c ∉ ['"', '\'', ']', ',']

/-- The name of a tag, in letters, digits, dashes and stars; a star alone stands for any. -/
structure TagName where
  /-- The characters of the name. -/
  chars : List Char
  /-- A name is not empty. -/
  ne_nil : chars ≠ []
  /-- It is made of the characters that tags are named with. -/
  plain : ∀ c ∈ chars, isAsciiLetter c = true ∨ isAsciiDigit c = true ∨ c = '-' ∨ c = '*'

/-- A part of a step. -/
inductive Part where
  /-- The element has a class. -/
  | hasClass (name : Name)
  /-- The element has an attribute. -/
  | hasAttr (name : Name)
  /-- An attribute has a value. -/
  | attrEquals (name : Name) (value : Value)

/-- A step of a path: a tag, parts or both. -/
structure Step where
  /-- The tag, if one is asked for. -/
  tag : Option TagName
  /-- The parts behind the tag. -/
  parts : List Part
  /-- A step asks for something. -/
  ne_empty : tag = none → parts ≠ []

/-- A position among the elements that a path leads to. -/
inductive Position where
  /-- The first one. -/
  | firstChild
  /-- The first one too, whatever the other tags are. -/
  | firstOfType
  /-- The last one. -/
  | lastChild
  /-- The last one too, whatever the other tags are. -/
  | lastOfType

/-- Blanks, or nothing. -/
structure Blanks where
  /-- The blanks. -/
  chars : List Char
  /-- They are blanks. -/
  blank : ∀ c ∈ chars, isBlank c = true

/-- Blanks between two steps. -/
structure Gap extends Blanks where
  /-- There is one at least. -/
  ne_nil : chars ≠ []

/-- A path with blanks around it. -/
structure Path where
  /-- What stands in front of the path. -/
  before : Blanks
  /-- The steps for ancestors, each with the blanks behind it. -/
  ancestors : List (Step × Gap)
  /-- The step for the element. -/
  target : Step
  /-- The position that is asked for. -/
  position : Option Position
  /-- The attribute that is asked for in place of the element. -/
  attr : Option Name
  /-- What stands behind the path. -/
  after : Blanks

/-! ### How it is written and what it means -/

/-- A part as it is written. -/
def Part.chars : Part → List Char
  | hasClass name => '.' :: name.chars
  | hasAttr name => '[' :: (name.chars ++ [']'])
  | attrEquals name value => '[' :: (name.chars ++ '=' :: '"' :: value.chars ++ ['"', ']'])

/-- The tag of a step as it is written. -/
def Step.tagChars (c : Step) : List Char := c.tag.elim [] TagName.chars

/-- A step as it is written. -/
def Step.chars (c : Step) : List Char := c.tagChars ++ c.parts.flatMap Part.chars

/-- The word of a position. -/
def Position.word : Position → String
  | firstChild => "first-child"
  | firstOfType => "first-of-type"
  | lastChild => "last-child"
  | lastOfType => "last-of-type"

/-- The steps of a path as they are written. -/
def Path.stepChars (p : Path) : List Char :=
  p.ancestors.flatMap (fun s => s.1.chars ++ s.2.chars) ++ p.target.chars

/-- The position as it is written. -/
def Path.positionChars (p : Path) : List Char :=
  p.position.elim [] fun position => ':' :: position.word.toList

/-- The attribute as it is written. -/
def Path.attrChars (p : Path) : List Char := p.attr.elim [] fun name => '@' :: name.chars

/-- A path as it is written. -/
def Path.chars (p : Path) : List Char :=
  p.before.chars ++ (p.stepChars ++ p.positionChars ++ p.attrChars) ++ p.after.chars

/-- A name in lowercase. -/
def Name.lowercased (n : Name) : String := String.ofList (Chars.lowercase n.chars)

/-- The name of a tag in lowercase; none for any. -/
def TagName.lowercased? (t : TagName) : Option String :=
  if t.chars = ['*'] then none else some (String.ofList (Chars.lowercase t.chars))

/-- The class that a part asks for. -/
def Part.class? : Part → Option String
  | hasClass name => some name.lowercased
  | hasAttr _ => none
  | attrEquals _ _ => none

/-- The condition on an attribute that a part is. -/
def Part.test? : Part → Option AttrTest
  | hasClass _ => none
  | hasAttr name => some ⟨name.lowercased, none⟩
  | attrEquals name value => some ⟨name.lowercased, some (String.ofList value.chars)⟩

/-- The conditions of a step. -/
def Step.meaning (c : Step) : Compound :=
  ⟨c.tag.bind TagName.lowercased?, c.parts.filterMap Part.class?, c.parts.filterMap Part.test?⟩

/-- The elements that a position takes. -/
def Position.pick : Position → Pick
  | firstChild => .first
  | firstOfType => .first
  | lastChild => .last
  | lastOfType => .last

/-- What a path asks for. -/
def Path.meaning (p : Path) : SelectorPath where
  ancestors := p.ancestors.map fun s => s.1.meaning
  target := p.target.meaning
  pick := p.position.elim .all Position.pick
  attr := p.attr.map Name.lowercased

/-! ### Parts and steps -/

theorem Name.not_mem {n : Name} {c : Char} (hc : c ∈ reserved) : c ∉ n.chars :=
  fun h => (n.plain c h).2 hc

theorem Name.trim_chars (n : Name) : Chars.trim n.chars = n.chars :=
  Chars.trim_eq_self_iff.mpr (.of_forall fun c hc => (n.plain c hc).1)

theorem Name.isEmpty_lowercase (n : Name) : (Chars.lowercase n.chars).isEmpty = false := by
  rw [Chars.lowercase, List.isEmpty_map]
  exact List.isEmpty_eq_false_iff.mpr n.ne_nil

theorem ofChars?_name (n : Name) : AttrTest.ofChars? n.chars = some ⟨n.lowercased, none⟩ := by
  rw [AttrTest.ofChars?, Chars.splitAt?_eq_none (n.not_mem (by decide))]
  simp only [n.trim_chars, n.isEmpty_lowercase]
  rfl

theorem Value.isQuote_of_mem {v : Value} {c : Char} (hc : c ∈ v.chars) :
    AttrTest.isQuote c = false := by
  have hplain := (v.plain c hc).2
  rw [List.mem_cons, List.mem_cons, not_or, not_or] at hplain
  rw [AttrTest.isQuote, Bool.or_eq_false_iff, beq_eq_false_iff_ne, beq_eq_false_iff_ne]
  exact ⟨hplain.1, hplain.2.1⟩

/-- The quotation marks around a value are taken off, and nothing else. -/
theorem Value.trimOf_isQuote (v : Value) :
    Chars.trimOf AttrTest.isQuote ('"' :: (v.chars ++ ['"'])) = v.chars := by
  have hquote : AttrTest.isQuote '"' = true := rfl
  rw [Chars.trimOf, List.dropWhile_cons_of_pos hquote]
  cases hchars : v.chars with
  | nil => rfl
  | cons c rest =>
    -- The value starts and ends without a quotation mark, from whichever side it is read.
    have hkeep : ∀ s : List Char, (∀ d ∈ s.head?, d ∈ v.chars) →
        s.dropWhile AttrTest.isQuote = s := by
      intro s hs
      cases s with
      | nil => rfl
      | cons d s =>
        exact List.dropWhile_cons_of_neg (by simp [Value.isQuote_of_mem (hs d rfl)])
    rw [hkeep (c :: rest ++ ['"']) (by simp [hchars]), List.reverse_concat,
      List.dropWhile_cons_of_pos hquote, hkeep, List.reverse_reverse]
    intro d hd
    rw [hchars]
    exact List.mem_reverse.mp (List.mem_of_mem_head? hd)

theorem ofChars?_attrEquals (n : Name) (v : Value) :
    AttrTest.ofChars? (n.chars ++ '=' :: '"' :: (v.chars ++ ['"'])) =
      some ⟨n.lowercased, some (String.ofList v.chars)⟩ := by
  have hquoted : Chars.trim ('"' :: (v.chars ++ ['"'])) = '"' :: (v.chars ++ ['"']) := by
    have hends : Chars.IsTrimmed ['"'] := .of_forall (by decide)
    exact Chars.trim_eq_self_iff.mpr (hends.between (by simp) hends (by simp) v.chars)
  rw [AttrTest.ofChars?, Chars.splitAt?_append_cons (n.not_mem (by decide))]
  simp only [n.trim_chars, n.isEmpty_lowercase, hquoted, Option.map_some, v.trimOf_isQuote]
  rfl

/-- A part starts with its mark. -/
theorem Part.startsPart_head (ps : List Part) :
    ∀ c ∈ (ps.flatMap Part.chars).head?, Compound.startsPart c = true := by
  intro c hc
  cases ps with
  | nil => cases hc
  | cons p ps =>
    rw [List.flatMap_cons] at hc
    cases p <;> obtain rfl := Option.some.inj hc <;> rfl

/-- What stands in front of the parts is read up to the first of them. -/
theorem Part.takeWhile_dropWhile_append {s : List Char}
    (hs : ∀ c ∈ s, Compound.startsPart c = false) (ps : List Part) :
    (s ++ ps.flatMap Part.chars).takeWhile (fun c => !Compound.startsPart c) = s ∧
      (s ++ ps.flatMap Part.chars).dropWhile (fun c => !Compound.startsPart c) =
        ps.flatMap Part.chars := by
  have hnot : ∀ c ∈ s, (!Compound.startsPart c) = true := fun c hc => by simp [hs c hc]
  rw [List.takeWhile_append_of_pos hnot, List.dropWhile_append_of_pos hnot]
  cases hrest : ps.flatMap Part.chars with
  | nil => simp
  | cons c rest =>
    have hc : Compound.startsPart c = true :=
      Part.startsPart_head ps c (by rw [hrest]; rfl)
    simp [hc]

theorem IsPlain.startsPart {c : Char} (hc : IsPlain c) : Compound.startsPart c = false := by
  rw [Compound.startsPart, Bool.or_eq_false_iff, beq_eq_false_iff_ne, beq_eq_false_iff_ne]
  constructor <;> rintro rfl <;> exact hc.2 (by decide)

/-- What stands in brackets is read as one condition. -/
theorem parts?_brackets {inside : List Char} {t : AttrTest} (hinside : ']' ∉ inside)
    (ht : AttrTest.ofChars? inside = some t) (c : Compound) (fuel : ℕ)
    (rest : List Char) :
    c.parts? (fuel + 1) ('[' :: (inside ++ ']' :: rest)) =
      ({ c with tests := c.tests ++ [t] } : Compound).parts? fuel rest := by
  rw [Compound.parts?, Chars.splitAt?_append_cons hinside]
  simp only [ht, Option.bind_some]

/-- The parts are read one after the other. -/
theorem parts?_flatMap (ps : List Part) (c : Compound) {fuel : ℕ}
    (hfuel : (ps.flatMap Part.chars).length < fuel) :
    c.parts? fuel (ps.flatMap Part.chars) =
      some ⟨c.tag, c.classes ++ ps.filterMap Part.class?, c.tests ++ ps.filterMap Part.test?⟩ := by
  induction ps generalizing c fuel with
  | nil =>
    obtain ⟨fuel, rfl⟩ := Nat.exists_eq_add_one_of_ne_zero (Nat.ne_zero_of_lt hfuel)
    rw [List.flatMap_nil, Compound.parts?]
    simp
  | cons p ps ih =>
    obtain ⟨fuel, rfl⟩ := Nat.exists_eq_add_one_of_ne_zero (Nat.ne_zero_of_lt hfuel)
    -- Each part takes at least one character, so the fuel lasts for the others.
    have hrest : (ps.flatMap Part.chars).length < fuel := by
      have hp : 0 < p.chars.length := by cases p <;> simp [Part.chars]
      rw [List.flatMap_cons, List.length_append] at hfuel
      omega
    rw [List.flatMap_cons]
    cases p with
    | hasClass name =>
      obtain ⟨htake, hdrop⟩ := Part.takeWhile_dropWhile_append
        (fun d hd => (name.plain d hd).startsPart) ps
      rw [Part.chars, List.cons_append, Compound.parts?, htake, hdrop,
        if_neg (by simpa using name.ne_nil), ih _ hrest]
      simp [List.filterMap_cons, Part.class?, Part.test?, Name.lowercased]
    | hasAttr name =>
      have hchars : (Part.hasAttr name).chars ++ ps.flatMap Part.chars =
          '[' :: (name.chars ++ ']' :: ps.flatMap Part.chars) := by
        simp [Part.chars]
      rw [hchars, parts?_brackets (name.not_mem (by decide)) (ofChars?_name name), ih _ hrest]
      simp [List.filterMap_cons, Part.class?, Part.test?]
    | attrEquals name value =>
      have hchars : (Part.attrEquals name value).chars ++ ps.flatMap Part.chars =
          '[' :: ((name.chars ++ '=' :: '"' :: (value.chars ++ ['"'])) ++
            ']' :: ps.flatMap Part.chars) := by
        simp [Part.chars]
      have hinside : ']' ∉ name.chars ++ '=' :: '"' :: (value.chars ++ ['"']) := by
        have hname : ']' ∉ name.chars := name.not_mem (by decide)
        have hvalue : ']' ∉ value.chars := fun h => (value.plain _ h).2 (by decide)
        simp [hname, hvalue]
      rw [hchars, parts?_brackets hinside (ofChars?_attrEquals name value), ih _ hrest]
      simp [List.filterMap_cons, Part.class?, Part.test?]

theorem TagName.isPlain_of_mem {t : TagName} {c : Char} (hc : c ∈ t.chars) : IsPlain c := by
  have hplain := t.plain c hc
  constructor
  · rcases hplain with hletter | hdigit | rfl | rfl
    · rw [isAsciiLetter, Bool.or_eq_true] at hletter
      rcases hletter with h | h <;> exact Text.isBlank_of_between (by decide) (by decide) h
    · exact Text.isBlank_of_isAsciiDigit hdigit
    · decide
    · decide
  · have hreserved : ∀ d ∈ reserved,
        ¬ (isAsciiLetter d = true ∨ isAsciiDigit d = true ∨ d = '-' ∨ d = '*') := by decide
    exact fun h => hreserved c h hplain

theorem Step.forall_mem_tagChars {P : Char → Prop} (h : ∀ (t : TagName), ∀ d ∈ t.chars, P d)
    (c : Step) : ∀ d ∈ c.tagChars, P d := by
  rw [Step.tagChars]
  cases c.tag with
  | none => exact List.forall_mem_nil P
  | some t => exact h t

theorem TagName.isTagChar_of_mem {t : TagName} {c : Char} (hc : c ∈ t.chars) :
    Compound.isTagChar c = true := by
  simpa [Compound.isTagChar, or_assoc] using t.plain c hc

theorem Step.tag_meaning (c : Step) :
    (if c.tagChars.isEmpty || decide (c.tagChars = ['*']) then none
      else some (String.ofList (Chars.lowercase c.tagChars))) = c.meaning.tag := by
  rw [Step.meaning, Step.tagChars]
  cases c.tag with
  | none => rfl
  | some t =>
    by_cases hstar : t.chars = ['*']
    · simp [TagName.lowercased?, hstar]
    · simp [TagName.lowercased?, hstar, t.ne_nil]

/-- Only a star asks for nothing. -/
theorem Step.eq_star_or_meaning_ne (c : Step) :
    c.tagChars = ['*'] ∨ c.meaning ≠ ⟨none, [], []⟩ := by
  rw [or_iff_not_imp_left]
  intro hstar hmeaning
  obtain ⟨htag, hclasses, htests⟩ := (Compound.mk.injEq ..).mp hmeaning
  cases h : c.tag with
  | none =>
    obtain ⟨p, ps, hparts⟩ := List.exists_cons_of_ne_nil (c.ne_empty h)
    rw [hparts] at hclasses htests
    cases p <;> simp [List.filterMap_cons, Part.class?, Part.test?] at hclasses htests
  | some t =>
    rw [Step.tagChars, h, Option.elim_some] at hstar
    rw [h, Option.bind_some, TagName.lowercased?, if_neg hstar] at htag
    cases htag

/-- A step is read as the compound that it means. -/
theorem ofChars?_step (c : Step) : Compound.ofChars? c.chars = some c.meaning := by
  obtain ⟨htake, hdrop⟩ := Part.takeWhile_dropWhile_append
    (c.forall_mem_tagChars fun t d hd => (t.isPlain_of_mem hd).startsPart) c.parts
  rw [← Step.chars] at htake hdrop
  have hall : c.tagChars.all Compound.isTagChar = true :=
    List.all_eq_true.mpr (c.forall_mem_tagChars fun t d hd => t.isTagChar_of_mem hd)
  have hfuel : (c.parts.flatMap Part.chars).length < c.chars.length + 1 := by
    rw [Step.chars, List.length_append]
    omega
  -- The reader drops a step that asks for nothing, unless it is a star.
  have hsome : (decide (c.tagChars = ['*']) || c.meaning != ⟨none, [], []⟩) = true := by
    rw [Bool.or_eq_true, decide_eq_true_eq, bne_iff_ne]
    exact c.eq_star_or_meaning_ne
  have hread : (⟨c.meaning.tag, [], []⟩ : Compound).parts? (c.chars.length + 1)
      (c.parts.flatMap Part.chars) = some c.meaning :=
    parts?_flatMap c.parts ⟨c.meaning.tag, [], []⟩ hfuel
  rw [Compound.ofChars?]
  simp only [htake, hdrop, hall, Step.tag_meaning, hread, Option.filter_some, hsome, if_true,
    Bool.not_true, Bool.false_eq_true, if_false]

/-! ### The end of a path -/

/-- The characters that a path is searched for from its end. -/
def marks : List Char := [']', ':', '@']

/-- Behind the last closing bracket there are no marks. -/
def EndsPlainly (s : List Char) : Prop :=
  ∃ front back, s = front ++ back ∧ (front = [] ∨ ∃ inner, front = inner ++ [']']) ∧
    ∀ c ∈ back, c ∉ marks

theorem IsPlain.not_mem_marks {c : Char} (hc : IsPlain c) : c ∉ marks := by
  have hsub : marks ⊆ reserved := by decide
  exact fun h => hc.2 (hsub h)

theorem not_mem_marks_of_isBlank {c : Char} (hc : isBlank c = true) : c ∉ marks := by
  have hmarks : ∀ d ∈ marks, isBlank d = false := by decide
  intro h
  rw [hmarks c h] at hc
  cases hc

theorem endsPlainly_nil : EndsPlainly [] := ⟨[], [], rfl, .inl rfl, by simp⟩

theorem endsPlainly_concat (s : List Char) : EndsPlainly (s ++ [']']) :=
  ⟨s ++ [']'], [], by simp, .inr ⟨s, rfl⟩, by simp⟩

theorem EndsPlainly.append {s t : List Char} (hs : EndsPlainly s) (ht : ∀ c ∈ t, c ∉ marks) :
    EndsPlainly (s ++ t) := by
  obtain ⟨front, back, rfl, hfront, hback⟩ := hs
  exact ⟨front, back ++ t, by simp, hfront, List.forall_mem_append.mpr ⟨hback, ht⟩⟩

/-- Cutting behind the last bracket leaves no marks but the ones of what is added. -/
theorem EndsPlainly.splitBrackets_append {s : List Char} (hs : EndsPlainly s) :
    ∃ front back, s = front ++ back ∧ (∀ c ∈ back, c ∉ marks) ∧ ∀ t, ']' ∉ t →
      SelectorPath.splitBrackets (s ++ t) = (front, back ++ t) := by
  obtain ⟨front, back, rfl, hfront, hback⟩ := hs
  refine ⟨front, back, rfl, hback, fun t ht => ?_⟩
  have hnone : ']' ∉ back ++ t := by
    rw [List.mem_append, not_or]
    exact ⟨fun h => hback _ h (by decide), ht⟩
  rw [List.append_assoc, SelectorPath.splitBrackets]
  rcases hfront with rfl | ⟨inner, rfl⟩
  · rw [List.nil_append, Chars.splitLast?_eq_none hnone]
  · rw [List.append_assoc, List.singleton_append, Chars.splitLast?_append_cons inner hnone]

theorem EndsPlainly.append_part {s : List Char} (hs : EndsPlainly s) (p : Part) :
    EndsPlainly (s ++ p.chars) := by
  have hname (n : Name) : ∀ c ∈ n.chars, c ∉ marks := fun c hc =>
    (n.plain c hc).not_mem_marks
  cases p with
  | hasClass name =>
    refine hs.append (List.forall_mem_cons.mpr ⟨by decide, hname name⟩)
  -- Where a part ends in a bracket, it does not matter what stands in front of that.
  | hasAttr name =>
    have hchars : s ++ (Part.hasAttr name).chars = (s ++ '[' :: name.chars) ++ [']'] := by
      simp [Part.chars]
    rw [hchars]
    exact endsPlainly_concat _
  | attrEquals name value =>
    have hchars : s ++ (Part.attrEquals name value).chars =
        (s ++ '[' :: (name.chars ++ '=' :: '"' :: (value.chars ++ ['"']))) ++ [']'] := by
      simp [Part.chars]
    rw [hchars]
    exact endsPlainly_concat _

theorem EndsPlainly.append_flatMap {α : Type} {f : α → List Char}
    (hf : ∀ (a : α) {t : List Char}, EndsPlainly t → EndsPlainly (t ++ f a)) {s : List Char}
    (hs : EndsPlainly s) (as : List α) : EndsPlainly (s ++ as.flatMap f) := by
  induction as generalizing s with
  | nil => simpa using hs
  | cons a as ih =>
    rw [List.flatMap_cons, ← List.append_assoc]
    exact ih (hf a hs)

theorem EndsPlainly.append_step {s : List Char} (hs : EndsPlainly s) (c : Step) :
    EndsPlainly (s ++ c.chars) := by
  have htag : EndsPlainly (s ++ c.tagChars) :=
    hs.append (c.forall_mem_tagChars fun t d hd => (t.isPlain_of_mem hd).not_mem_marks)
  rw [Step.chars, ← List.append_assoc]
  exact htag.append_flatMap (fun p _ ht => ht.append_part p) c.parts

theorem Path.endsPlainly_stepChars (p : Path) : EndsPlainly p.stepChars := by
  refine .append_step (endsPlainly_nil.append_flatMap (fun s t ht => ?_) p.ancestors) p.target
  rw [← List.append_assoc]
  exact (ht.append_step s.1).append fun c hc => not_mem_marks_of_isBlank (s.2.blank c hc)

/-! ### Words and steps -/

/-- A character that ends neither a step nor a path. -/
def IsSolid (c : Char) : Prop := isBlank c = false ∧ c ≠ ','

instance (c : Char) : Decidable (IsSolid c) := inferInstanceAs (Decidable (_ ∧ _))

theorem IsPlain.isSolid {c : Char} (hc : IsPlain c) : IsSolid c :=
  ⟨hc.1, by rintro rfl; exact hc.2 (by decide)⟩

theorem Value.isSolid_of_mem {v : Value} {c : Char} (hc : c ∈ v.chars) : IsSolid c :=
  ⟨(v.plain c hc).1, by rintro rfl; exact (v.plain ',' hc).2 (by decide)⟩

theorem Part.isSolid_of_mem (p : Part) : ∀ c ∈ p.chars, IsSolid c := by
  have hname (n : Name) : ∀ c ∈ n.chars, IsSolid c := fun c hc => (n.plain c hc).isSolid
  have hvalue (v : Value) : ∀ c ∈ v.chars, IsSolid c := fun c hc => v.isSolid_of_mem hc
  have hends : IsSolid '.' ∧ IsSolid '[' ∧ IsSolid ']' ∧ IsSolid '=' ∧ IsSolid '"' := by decide
  cases p with
  | hasClass name => simpa [Part.chars, hends] using hname name
  | hasAttr name => simpa [Part.chars, hends, or_imp, forall_and] using hname name
  | attrEquals name value =>
    simpa [Part.chars, hends, or_imp, forall_and] using ⟨hname name, hvalue value⟩

theorem Step.isSolid_of_mem (c : Step) : ∀ d ∈ c.chars, IsSolid d := by
  rw [Step.chars, List.forall_mem_append]
  refine ⟨c.forall_mem_tagChars fun t d hd => (t.isPlain_of_mem hd).isSolid, fun d hd => ?_⟩
  obtain ⟨p, -, hp⟩ := List.mem_flatMap.mp hd
  exact p.isSolid_of_mem d hp

theorem Step.chars_ne_nil (c : Step) : c.chars ≠ [] := by
  rw [Step.chars, Step.tagChars, ne_eq, List.append_eq_nil_iff, not_and]
  intro htag
  cases h : c.tag with
  | some t =>
    rw [h] at htag
    exact absurd htag t.ne_nil
  | none =>
    obtain ⟨p, ps, hparts⟩ := List.exists_cons_of_ne_nil (c.ne_empty h)
    rw [hparts]
    cases p <;> exact List.cons_ne_nil _ _

/-- The words of a path are its steps. -/
theorem Path.words_stepChars (p : Path) :
    Chars.words p.stepChars = (p.ancestors.map Prod.fst ++ [p.target]).map Step.chars := by
  rw [Path.stepChars]
  have hblank (c : Step) : ∀ d ∈ c.chars, isBlank d = false :=
    fun d hd => (c.isSolid_of_mem d hd).1
  induction p.ancestors with
  | nil => exact Chars.words_of_forall p.target.chars_ne_nil (hblank p.target)
  | cons s ss ih =>
    rw [List.flatMap_cons, List.append_assoc, Chars.words_append_blanks s.1.chars_ne_nil
      (hblank s.1) s.2.ne_nil s.2.blank, ih]
    rfl

theorem mapM_ofChars? (cs : List Step) :
    (cs.map Step.chars).mapM Compound.ofChars? = some (cs.map Step.meaning) := by
  induction cs with
  | nil => rfl
  | cons c cs ih =>
    rw [List.map_cons, List.mapM_cons, ofChars?_step, ih]
    rfl

/-- A path starts and ends without blanks. -/
theorem Path.isTrimmed (p : Path) :
    Chars.IsTrimmed (p.stepChars ++ p.positionChars ++ p.attrChars) := by
  have hstep (c : Step) : Chars.IsTrimmed c.chars :=
    .of_forall fun d hd => (c.isSolid_of_mem d hd).1
  have hpath : Chars.IsTrimmed p.stepChars ∧ p.stepChars ≠ [] := by
    rw [Path.stepChars]
    induction p.ancestors with
    | nil => exact ⟨hstep p.target, p.target.chars_ne_nil⟩
    | cons s ss ih =>
      rw [List.flatMap_cons, List.append_assoc]
      exact ⟨(hstep s.1).between s.1.chars_ne_nil ih.1 ih.2 s.2.chars, by simp [ih.2]⟩
  have hposition : Chars.IsTrimmed p.positionChars := by
    rw [Path.positionChars]
    cases p.position with
    | none => exact Chars.isTrimmed_nil
    | some position => cases position <;> exact .of_forall (by decide)
  have hattr : Chars.IsTrimmed p.attrChars := by
    rw [Path.attrChars]
    cases p.attr with
    | none => exact Chars.isTrimmed_nil
    | some n =>
      exact .of_forall (List.forall_mem_cons.mpr ⟨by decide, fun c hc => (n.plain c hc).1⟩)
  exact (hpath.1.append hposition).append hattr

/-! ### Paths -/

theorem Path.splitLast?_attrChars (p : Path) {s : List Char} (hs : '@' ∉ s) :
    Chars.splitLast? '@' (s ++ p.attrChars) = p.attr.map fun n => (s, n.chars) := by
  rw [Path.attrChars]
  cases p.attr with
  | none => simpa using Chars.splitLast?_eq_none hs
  | some n => exact Chars.splitLast?_append_cons s (n.not_mem (by decide))

theorem Path.splitLast?_positionChars (p : Path) {s : List Char} (hs : ':' ∉ s) :
    Chars.splitLast? ':' (s ++ p.positionChars) =
      p.position.map fun position => (s, position.word.toList) := by
  rw [Path.positionChars]
  cases p.position with
  | none => simpa using Chars.splitLast?_eq_none hs
  | some position =>
    exact Chars.splitLast?_append_cons s (by cases position <;> decide)

theorem Position.ofText?_word (position : Position) :
    Pick.ofText? (String.ofList (Chars.trim position.word.toList)) = some position.pick := by
  cases position <;> rfl

theorem Path.not_mem_positionChars (p : Path) : ∀ c ∈ [']', '@', ','], c ∉ p.positionChars := by
  rw [Path.positionChars]
  cases p.position with
  | none => simp
  | some position => cases position <;> decide

theorem Path.not_mem_attrChars (p : Path) : ∀ c ∈ [']', ','], c ∉ p.attrChars := by
  intro c hc
  have hreserved : [']', ','] ⊆ reserved := by decide
  rw [Path.attrChars]
  cases p.attr with
  | none => simp
  | some n =>
    have hmark : c ≠ '@' := by rintro rfl; revert hc; decide
    exact List.not_mem_cons_of_ne_of_not_mem hmark (n.not_mem (hreserved hc))

/-- A path is read as what it means. -/
theorem ofChars?_path (p : Path) : SelectorPath.ofChars? p.chars = some p.meaning := by
  obtain ⟨front, back, hbody, hback, hcut⟩ := p.endsPlainly_stepChars.splitBrackets_append
  have hends : ']' ∉ p.positionChars ++ p.attrChars := by
    rw [List.mem_append, not_or]
    exact ⟨p.not_mem_positionChars _ (by decide), p.not_mem_attrChars _ (by decide)⟩
  have hat : '@' ∉ back ++ p.positionChars := by
    rw [List.mem_append, not_or]
    exact ⟨fun h => hback _ h (by decide), p.not_mem_positionChars _ (by decide)⟩
  have hcolon : ':' ∉ back := fun h => hback _ h (by decide)
  have htrim : Chars.trim p.chars = p.stepChars ++ (p.positionChars ++ p.attrChars) := by
    rw [Path.chars, Chars.trim_blanks_append p.before.blank p.after.blank,
      Chars.trim_eq_self_iff.mpr p.isTrimmed, List.append_assoc]
  have hcompounds : (Chars.words (front ++ back)).mapM Compound.ofChars? =
      some ((p.ancestors.map Prod.fst ++ [p.target]).map Step.meaning) := by
    rw [← hbody, p.words_stepChars, mapM_ofChars?]
  have hpaths (pick : Pick) (attr : Option String) : SelectorPath.ofCompounds?
      ((p.ancestors.map Prod.fst ++ [p.target]).map Step.meaning) pick attr =
        some ⟨p.meaning.ancestors, p.meaning.target, pick, attr⟩ := by
    simp [SelectorPath.ofCompounds?, Path.meaning]
  -- The attribute is cut off first, so the position is the end of what is left.
  have hattr := p.splitLast?_attrChars hat
  have hposition := p.splitLast?_positionChars hcolon
  rw [SelectorPath.ofChars?, htrim, hcut _ hends, ← List.append_assoc]
  simp only [hattr]
  cases hname : p.attr
  case' none =>
    have hnone : p.attrChars = [] := by rw [Path.attrChars, hname]; rfl
    simp only [Option.map_none, hnone, List.append_nil, hposition]
  case' some n =>
    simp only [Option.map_some, n.trim_chars, n.isEmpty_lowercase, hposition]
  all_goals
    cases hpick : p.position with
    | none =>
      have hnone : p.positionChars = [] := by rw [Path.positionChars, hpick]; rfl
      simp only [Option.map_none, hnone, List.append_nil, hcompounds, hpaths]
      simp [Path.meaning, hname, hpick, Name.lowercased]
    | some position =>
      simp only [Option.map_some, position.ofText?_word, hcompounds, hpaths]
      simp [Path.meaning, hname, hpick, Name.lowercased]

/-! ### Selectors -/

theorem Path.comma_not_mem_chars (p : Path) : ',' ∉ p.chars := by
  have hblanks (b : Blanks) : ',' ∉ b.chars := fun h =>
    absurd (b.blank ',' h) (by decide)
  have hstep (c : Step) : ',' ∉ c.chars := fun h => (c.isSolid_of_mem ',' h).2 rfl
  have hposition : ',' ∉ p.positionChars := p.not_mem_positionChars ',' (by decide)
  have hattr : ',' ∉ p.attrChars := p.not_mem_attrChars ',' (by decide)
  simp [Path.chars, Path.stepChars, hblanks, hstep, hposition, hattr]

/-- **A selector is read as what it means**: none of its paths is left out. -/
theorem ofText_join_chars (ps : List Path) :
    Selector.ofText (String.ofList ([','].intercalate (ps.map Path.chars))) =
      ⟨ps.map Path.meaning⟩ := by
  have hread : (ps.map Path.chars).filterMap SelectorPath.ofChars? = ps.map Path.meaning := by
    rw [List.filterMap_map, ← List.filterMap_eq_map]
    exact List.filterMap_congr fun p _ => ofChars?_path p
  rw [Selector.ofText, String.toList_ofList]
  cases ps with
  | nil => decide
  | cons p ps =>
    have hcut : List.splitOn ',' ([','].intercalate ((p :: ps).map Path.chars)) =
        (p :: ps).map Path.chars :=
      List.splitOn_intercalate ',' (List.forall_mem_map.mpr fun q _ => q.comma_not_mem_chars)
        (by simp)
    rw [hcut, hread]

example : Selector.ofText ".Logo img[alt=\"a@b:c.[d\"]:first-child@SRC, *" =
    ⟨[⟨[⟨none, ["logo"], []⟩], ⟨some "img", [], [⟨"alt", some "a@b:c.[d"⟩]⟩, .first, some "src"⟩,
      ⟨[], ⟨none, [], []⟩, .all, none⟩]⟩ := by
  decide +kernel

end Written

end PageModules
