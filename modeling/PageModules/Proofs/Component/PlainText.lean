import PageModules.Proofs.Component.Recognition
import PageModules.Proofs.Lists
import PageModules.Proofs.Text.Cutting
import PageModules.Proofs.Text.Places

/-!
# Components that a text alone suggests

Three checks look at the text of an element: they ask for a price (`Text.ShowsPrice`), for a number
that stands by itself (`Text.ShowsNumber`) and for a unit of time (`Text.NamesTime`).  An element
without attributes that holds nothing but text is recognized by these alone
(`Element.type_recognize?_of_isBareText`).
-/

namespace PageModules

namespace Text

/-! ### What a text says -/

/-- A dollar sign and a digit stand next to each other, with at most blanks between them. -/
def ShowsPrice (s : List Char) : Prop :=
  ∃ d gap, isDigit d = true ∧ (∀ c ∈ gap, isBlank c = true) ∧
    ('$' :: (gap ++ [d]) <:+: s ∨ d :: (gap ++ ['$']) <:+: s)

/-- At least two digits stand together, with no word character next to them. -/
def ShowsNumber (s : List Char) : Prop :=
  ∃ before digits after, s = before ++ digits ++ after ∧ 2 ≤ digits.length ∧
    (∀ d ∈ digits, isDigit d = true) ∧ before.getLast?.any isWordChar = false ∧
    after.head?.any isWordChar = false

/-- The names of units of time. -/
def timeUnits : List String := ["day", "hour", "minute", "second"]

/-- A unit of time is named, in any case and maybe as a part of a word. -/
def NamesTime (s : String) : Prop := ∃ unit ∈ timeUnits, unit.toList <:+: (lowercase s).toList

/-! ### What the checks look for -/

/-- Whether each range lies in one of others; both lists go upwards. -/
def areCovered : (ranges others : List (ℕ × ℕ)) → Bool
  | [], _ => true
  | r :: rest, others =>
    let left := others.dropWhile fun r' => Nat.blt r'.2 r.1
    left.head?.any (fun r' => Nat.ble r'.1 r.1 && Nat.ble r.2 r'.2) && areCovered rest left

theorem exists_mem_of_areCovered {ranges others : List (ℕ × ℕ)}
    (h : areCovered ranges others = true) {r : ℕ × ℕ} (hr : r ∈ ranges) :
    ∃ r' ∈ others, r'.1 ≤ r.1 ∧ r.2 ≤ r'.2 := by
  induction ranges generalizing others with
  | nil => cases hr
  | cons first rest ih =>
    have hsub := List.dropWhile_sublist (l := others) fun r' : ℕ × ℕ => Nat.blt r'.2 first.1
    rw [areCovered, Bool.and_eq_true] at h
    rcases List.mem_cons.mp hr with rfl | hr
    · obtain ⟨r', hhead, hr'⟩ := (Option.any_eq_true _ _).mp h.1
      rw [Bool.and_eq_true, Nat.ble_eq, Nat.ble_eq] at hr'
      exact ⟨r', hsub.mem (List.mem_of_mem_head? hhead), hr'⟩
    · obtain ⟨r', hmem, hcovers⟩ := ih h.2 hr
      exact ⟨r', hsub.mem hmem, hcovers⟩

/-- A digit of any script is a word character. -/
theorem isWordChar_of_isDigit {c : Char} (h : isDigit c = true) : isWordChar c = true := by
  have hcovered : areCovered digitRanges wordRanges = true := by decide +kernel
  unfold isDigit at h
  unfold isWordChar
  rw [Bool.or_eq_true, Bool.and_eq_true] at h
  rcases h with h | ⟨hhigh, h⟩
  · rw [h]
    simp
  · have hword : inRanges wordRanges c = true := by
      rw [inRanges, List.any_eq_true] at h ⊢
      obtain ⟨r, hr, hc⟩ := h
      obtain ⟨r', hr', hfirst, hlast⟩ := exists_mem_of_areCovered hcovered hr
      rw [Bool.and_eq_true, decide_eq_true_eq, decide_eq_true_eq] at hc
      refine ⟨r', hr', ?_⟩
      rw [Bool.and_eq_true, decide_eq_true_eq, decide_eq_true_eq]
      omega
    rw [hhigh, hword]
    simp

namespace Pattern

/-- Where characters of a class may follow, a repetition leads behind the first of them. -/
theorem exists_leads_plus_iff {holds : Char → Bool} {p : Place} :
    (∃ q, (plus holds).Leads p q) ↔ ∃ c s, p.rest = c :: s ∧ holds c = true := by
  constructor
  · rintro ⟨q, t, s, hrest, hholds, hleast, -, -⟩
    cases t with
    | nil => simp at hleast
    | cons c t => exact ⟨c, t ++ s, hrest, hholds c List.mem_cons_self⟩
  · rintro ⟨c, s, hrest, hc⟩
    exact ⟨_, [c], s, hrest, List.forall_mem_singleton.mpr hc, Nat.le_refl 1, by simp, rfl⟩

theorem leads_blanks_iff {p q : Place} :
    blanks.Leads p q ↔
      ∃ t s, p.rest = t ++ s ∧ (∀ c ∈ t, isBlank c = true) ∧ q = p.after t s := by
  constructor
  · rintro ⟨t, s, hrest, hblank, -, -, hq⟩
    exact ⟨t, s, hrest, hblank, hq⟩
  · rintro ⟨t, s, hrest, hblank, hq⟩
    exact ⟨t, s, hrest, hblank, Nat.zero_le _, by simp, hq⟩

end Pattern

end Text

namespace ComponentCheck

open Text (Pattern ShowsPrice ShowsNumber isDigit isBlank isWordChar)
open Text.Pattern (sequence blanks plus leads_text_iff leads_blanks_iff exists_leads_plus_iff
  isIn_iff)

/-- A dollar sign, blanks and a digit. -/
theorem exists_leads_sign_digit_iff {p : Text.Place} :
    (∃ q, (sequence [Pattern.text "$", blanks, plus isDigit]).Leads p q) ↔
      ∃ gap d s, p.rest = '$' :: (gap ++ d :: s) ∧ (∀ c ∈ gap, isBlank c = true) ∧
        isDigit d = true := by
  constructor
  · rintro ⟨q, r, hsign, r', hgap, r'', hdigit, -⟩
    obtain ⟨t, hrest, rfl⟩ := leads_text_iff.mp hsign
    obtain ⟨gap, u, ht, hblank, rfl⟩ := leads_blanks_iff.mp hgap
    obtain ⟨d, s, hu, hd⟩ := exists_leads_plus_iff.mp ⟨r'', hdigit⟩
    obtain rfl : t = gap ++ u := ht
    obtain rfl : u = d :: s := hu
    exact ⟨gap, d, s, hrest, hblank, hd⟩
  · rintro ⟨gap, d, s, hrest, hblank, hd⟩
    have hsign : (Pattern.text "$").Leads p (p.after ['$'] (gap ++ d :: s)) :=
      leads_text_iff.mpr ⟨_, hrest, rfl⟩
    have hgap : blanks.Leads (p.after ['$'] (gap ++ d :: s))
        ((p.after ['$'] (gap ++ d :: s)).after gap (d :: s)) :=
      leads_blanks_iff.mpr ⟨gap, d :: s, rfl, hblank, rfl⟩
    obtain ⟨q, hdigit⟩ := exists_leads_plus_iff.mpr
      ⟨d, s, (rfl : ((p.after ['$'] (gap ++ d :: s)).after gap (d :: s)).rest = d :: s), hd⟩
    exact ⟨q, _, hsign, _, hgap, q, hdigit, rfl⟩

/-- Digits, blanks and a dollar sign. -/
theorem exists_leads_digit_sign_iff {p : Text.Place} :
    (∃ q, (sequence [plus isDigit, blanks, Pattern.text "$"]).Leads p q) ↔
      ∃ digits gap s, p.rest = digits ++ (gap ++ '$' :: s) ∧ digits ≠ [] ∧
        (∀ d ∈ digits, isDigit d = true) ∧ ∀ c ∈ gap, isBlank c = true := by
  constructor
  · rintro ⟨q, r, ⟨digits, t, hrest, hdigits, hleast, -, rfl⟩, r', hgap, r'', hsign, -⟩
    obtain ⟨gap, u, ht, hblank, rfl⟩ := leads_blanks_iff.mp hgap
    obtain ⟨s, hu, -⟩ := leads_text_iff.mp hsign
    obtain rfl : t = gap ++ u := ht
    obtain rfl : u = '$' :: s := hu
    exact ⟨digits, gap, s, hrest, List.length_pos_iff.mp hleast, hdigits, hblank⟩
  · rintro ⟨digits, gap, s, hrest, hne, hdigits, hblank⟩
    have hdigit : (plus isDigit).Leads p (p.after digits (gap ++ '$' :: s)) :=
      ⟨digits, _, hrest, hdigits, List.length_pos_iff.mpr hne, by simp, rfl⟩
    have hgap : blanks.Leads (p.after digits (gap ++ '$' :: s))
        ((p.after digits (gap ++ '$' :: s)).after gap ('$' :: s)) :=
      leads_blanks_iff.mpr ⟨gap, '$' :: s, rfl, hblank, rfl⟩
    exact ⟨_, _, hdigit, _, hgap, _, leads_text_iff.mpr ⟨s, rfl, rfl⟩, rfl⟩

theorem isIn_priceText_iff {s : List Char} : priceText.isIn s = true ↔ ShowsPrice s := by
  have hleads (p : Text.Place) : (∃ q, priceText.Leads p q) ↔
      (∃ q, (sequence [Pattern.text "$", blanks, plus isDigit]).Leads p q) ∨
        ∃ q, (sequence [plus isDigit, blanks, Pattern.text "$"]).Leads p q := exists_or
  have hplaces : priceText.isIn s = true ↔
      ∃ before after, s = before ++ after ∧ ∃ q, priceText.Leads ⟨before.getLast?, after⟩ q := by
    rw [isIn_iff]
    simp only [exists_and_left]
  rw [hplaces]
  simp only [hleads, exists_leads_sign_digit_iff, exists_leads_digit_sign_iff]
  constructor
  · rintro ⟨before, after, rfl,
      ⟨gap, d, t, rfl, hgap, hd⟩ | ⟨digits, gap, t, rfl, hne, hdigits, hgap⟩⟩
    · exact ⟨d, gap, hd, hgap, Or.inl ⟨before, t, by simp⟩⟩
    · -- The last of the digits stands next to the sign.
      obtain ⟨front, d, rfl⟩ := (List.eq_nil_or_concat' digits).resolve_left hne
      exact ⟨d, gap, hdigits d (by simp), hgap, Or.inr ⟨before ++ front, t, by simp⟩⟩
  · rintro ⟨d, gap, hd, hgap, ⟨before, after, rfl⟩ | ⟨before, after, rfl⟩⟩
    · exact ⟨before, _, List.append_assoc _ _ _, Or.inl ⟨gap, d, after, by simp, hgap, hd⟩⟩
    · refine ⟨before, _, List.append_assoc _ _ _,
        Or.inr ⟨[d], gap, after, by simp, by simp, ?_, hgap⟩⟩
      exact List.forall_mem_singleton.mpr hd

theorem isIn_largeNumber_iff {s : List Char} : largeNumber.isIn s = true ↔ ShowsNumber s := by
  -- A digit is a word character, so next to digits a border is where no word character stands.
  have hhead {digits : List Char} (h : ∀ d ∈ digits, isDigit d = true) (hlength : 2 ≤ digits.length)
      (after : Option Char) : (digits.head?.or after).any isWordChar = true := by
    cases digits with
    | nil => simp at hlength
    | cons d rest => exact Text.isWordChar_of_isDigit (h d List.mem_cons_self)
  have hlast {digits : List Char} (h : ∀ d ∈ digits, isDigit d = true) (hlength : 2 ≤ digits.length)
      (behind : Option Char) : (digits.getLast?.or behind).any isWordChar = true := by
    have hne : digits ≠ [] := List.length_pos_iff.mp (by omega)
    obtain ⟨front, d, rfl⟩ := (List.eq_nil_or_concat' digits).resolve_left hne
    rw [List.getLast?_concat, Option.some_or]
    exact Text.isWordChar_of_isDigit (h d (by simp))
  rw [isIn_iff]
  constructor
  · rintro ⟨before, _, q, rfl, _, ⟨hfirst, rfl⟩, _,
      ⟨digits, after, hrest, hdigits, hleast, -, rfl⟩, _, ⟨hsecond, rfl⟩, -⟩
    obtain rfl := hrest
    refine ⟨before, digits, after, (List.append_assoc _ _ _).symm, hleast, hdigits, ?_, ?_⟩
    · simpa [Text.Place.isWordBoundary, hhead hdigits hleast] using hfirst
    · simpa [Text.Place.isWordBoundary, Text.Place.after, hlast hdigits hleast] using hsecond
  · rintro ⟨before, digits, after, rfl, hleast, hdigits, hbefore, hafter⟩
    refine ⟨before, digits ++ after, _, List.append_assoc _ _ _, _, ⟨?_, rfl⟩, _,
      ⟨digits, after, rfl, hdigits, hleast, by simp, rfl⟩, _, ⟨?_, rfl⟩, rfl⟩
    · simp [Text.Place.isWordBoundary, hhead hdigits hleast, hbefore]
    · simp [Text.Place.isWordBoundary, Text.Place.after, hlast hdigits hleast, hafter]

/-- The names of units of time that are looked for, in the plural or not. -/
def timeWords : List String :=
  ["days", "hours", "minutes", "seconds", "day", "hour", "minute", "second"]

theorem any_timeWords_iff {s : String} :
    timeWords.any (Text.containsPiece · (Text.lowercase s)) = true ↔ Text.NamesTime s := by
  have hsingular : ∀ w ∈ timeWords, ∃ unit ∈ Text.timeUnits, unit.toList <:+: w.toList := by
    decide +kernel
  have hword : ∀ unit ∈ Text.timeUnits, unit ∈ timeWords := by decide
  simp only [List.any_eq_true, Text.containsPiece, Chars.containsPiece_iff]
  constructor
  · rintro ⟨w, hw, h⟩
    obtain ⟨unit, hunit, hin⟩ := hsingular w hw
    exact ⟨unit, hunit, hin.trans h⟩
  · rintro ⟨unit, hunit, h⟩
    exact ⟨unit, hword unit hunit, h⟩

/-- The units of time that a check looks for. -/
def units? : ComponentCheck → Option (List String)
  | timeUnits units => some units
  | _ => none

/-- What a check gives an element for what its text says. -/
def textScore (price time number : Bool) : ComponentCheck → UInt32
  | .price _ => points price 15
  | .timeUnits _ => points time 15
  | .number => points number 10
  | _ => 0

end ComponentCheck

/-! ### Elements of text -/

namespace Element

/-- An element without attributes that holds nothing but text, which is not blank. -/
structure IsBareText (e : Element) : Prop where
  /-- There are no attributes. -/
  attrs_eq : e.tag.attrs = []
  /-- The children are texts. -/
  text_of_mem : ∀ n ∈ e.children, ∃ s, n = .text s
  /-- The text is not blank. -/
  text_ne : e.text ≠ ""

namespace IsBareText

variable {e : Element}

theorem attr?_eq_none (h : e.IsBareText) (name : String) : e.attr? name = none := by
  rw [attr?, h.attrs_eq]
  rfl

theorem classes_eq_nil (h : e.IsBareText) : e.classes = [] := by
  rw [classes, classAttr, h.attr?_eq_none]
  rfl

theorem childElements_eq_nil (h : e.IsBareText) : e.childElements = [] := by
  rw [childElements, List.filterMap_eq_nil_iff]
  intro n hn
  obtain ⟨s, rfl⟩ := h.text_of_mem n hn
  rfl

theorem descendants_eq_nil (h : e.IsBareText) : e.descendants = [] := by
  have key (ns : List Node) (hns : ∀ n ∈ ns, ∃ s, n = .text s) : Node.elementsAll ns = [] := by
    induction ns with
    | nil => rfl
    | cons n rest ih =>
      obtain ⟨⟨s, rfl⟩, hrest⟩ := List.forall_mem_cons.mp hns
      rw [Node.elementsAll, ih hrest]
      rfl
  exact key e.children h.text_of_mem

theorem hasBelow_eq_false (h : e.IsBareText) (names : List String) : e.hasBelow names = false := by
  rw [hasBelow, findDescendant?, h.descendants_eq_nil]
  rfl

theorem hasClassBelow_eq_false (h : e.IsBareText) (classes : List String) :
    e.hasClassBelow classes = false := by
  rw [hasClassBelow, h.descendants_eq_nil]
  rfl

theorem descendantsNamed_eq_nil (h : e.IsBareText) (name : String) :
    e.descendantsNamed name = [] := by
  rw [descendantsNamed, h.descendants_eq_nil]
  rfl

end IsBareText

end Element

open ComponentCheck in
/-- A check can only look at the text of an element that holds nothing else. -/
theorem ComponentCheck.score_of_isBareText {e : Element} (h : e.IsBareText) (check : ComponentCheck)
    (hunits : ∀ units, check.units? = some units → units = timeWords) :
    check.score e = check.textScore (priceText.isIn e.text.toList)
      (timeWords.any (Text.containsPiece · (Text.lowercase e.text)))
      (largeNumber.isIn e.text.toList) := by
  cases check with
  | timeUnits units =>
    obtain rfl := hunits units rfl
    simp only [score, textScore, h.hasClassBelow_eq_false, Bool.false_or]
  | _ =>
    simp [score, textScore, points, h.hasClassBelow_eq_false, h.hasBelow_eq_false,
      h.descendantsNamed_eq_nil, h.attr?_eq_none, Element.hasIcon, Element.linksTo, Element.embeds]

/-! ### Patterns -/

/-- Whether a rule for the children asks for at least one; `least` is the number of repeated
children that count. -/
def ChildrenRule.asksForSome (least : ℕ) : ChildrenRule → Bool
  | repeated _ => 0 < least
  | pictures least => 0 < least
  | _ => true

namespace ComponentPattern

/-- What a pattern gives an element for what its text says. -/
def textScore (price time number : Bool) (p : ComponentPattern) : UInt32 :=
  if p.tag.isSome || p.requiredChildren.isSome then 0
  else p.checks.foldl (fun n check => n + check.textScore price time number) 0

/-- The pattern with the greatest weighted score for what a text says, with its score. -/
def textBest? (price time number : Bool) : Option (ComponentPattern × UInt32) :=
  ((all.map fun p => (p, p.textScore price time number)).filter fun c => c.2 ≠ 0).foldl better none

/-- A unit of time outweighs a price, and a price outweighs a number. -/
theorem type_textBest? (price time number : Bool) :
    (textBest? price time number).map (·.1.type) =
      if time then some .countdown
      else if price then some .pricingTable
      else if number then some .numberCounter
      else none := by
  revert price time number
  decide +kernel

variable {e : Element}

theorem childrenScore_of_isBareText (h : e.IsBareText) {p : ComponentPattern} (hp : p ∈ all) :
    p.childrenScore e = 0 := by
  have hall : ∀ q ∈ all,
      q.children.all (·.asksForSome (q.requiredChildren.getD 2)) = true := by decide +kernel
  have hsome := hall p hp
  unfold childrenScore
  cases hrule : p.children with
  | none => rfl
  | some rule =>
    rw [hrule, Option.all_some] at hsome
    cases rule with
    | repeated classes =>
      have hpos : ¬ p.requiredChildren.getD 2 ≤ 0 := Nat.not_le.mpr (of_decide_eq_true hsome)
      simp only [ChildrenRule.score, Element.repeatedChildren, h.childElements_eq_nil,
        List.filter_nil, List.length_nil, if_neg hpos]
    | headedItems => simp [ChildrenRule.score, h.childElements_eq_nil]
    | pictures least =>
      have hpos : ¬ least ≤ 0 := Nat.not_le.mpr (of_decide_eq_true hsome)
      simp only [ChildrenRule.score, Element.countDescendants, h.descendants_eq_nil,
        List.countP_nil, if_neg hpos]
    | cards => simp [ChildrenRule.score, h.childElements_eq_nil]

/-- A pattern can only look at the text of an element that holds nothing else and is no form. -/
theorem score_of_isBareText (h : e.IsBareText) (hform : e.isNamed "form" = false)
    {p : ComponentPattern} (hp : p ∈ all) :
    p.score e = p.textScore (ComponentCheck.priceText.isIn e.text.toList)
      (ComponentCheck.timeWords.any (Text.containsPiece · (Text.lowercase e.text)))
      (ComponentCheck.largeNumber.isIn e.text.toList) := by
  have htags : ∀ q ∈ all, q.tag = none ∨ q.tag = some "form" := by decide +kernel
  have hrequired : ∀ q ∈ all, q.requiredChildren.isSome = true → q.children.isSome = true := by
    decide +kernel
  have hunits : ∀ q ∈ all, ∀ check ∈ q.checks,
      check.units?.all (· = ComponentCheck.timeWords) = true := by decide +kernel
  have hclasses : p.classScore e = 0 := by
    have hcount : p.classes.countP e.classes.contains = 0 := by simp [h.classes_eq_nil]
    rw [classScore, hcount]
    rfl
  have hattrs (n : UInt32) : p.attrs.foldl (fun n attr => n + attrScore e attr) n = n := by
    refine Lists.foldl_add_of_forall (fun attr _ => ?_) n
    obtain ⟨name, value⟩ := attr
    cases value <;> simp [attrScore, h.attr?_eq_none, ComponentCheck.points]
  have hchecks (n : UInt32) : p.checks.foldl (fun n check => n + check.score e) n =
      p.checks.foldl (fun n check => n +
        check.textScore (ComponentCheck.priceText.isIn e.text.toList)
          (ComponentCheck.timeWords.any (Text.containsPiece · (Text.lowercase e.text)))
          (ComponentCheck.largeNumber.isIn e.text.toList)) n := by
    refine List.foldl_ext _ _ n fun n check hcheck => congrArg (n + ·) ?_
    refine ComponentCheck.score_of_isBareText h check fun units hunit => ?_
    have hwords := hunits p hp check hcheck
    rw [hunit] at hwords
    exact of_decide_eq_true hwords
  unfold score textScore isVetoed
  simp only [childrenScore_of_isBareText h hp, hclasses, hattrs, hchecks]
  rcases htags p hp with htag | htag
  · rw [htag]
    cases hcount : p.requiredChildren with
    | none => simp
    | some n =>
      have hchildren := hrequired p hp (by rw [hcount]; rfl)
      simp [hchildren]
  · rw [htag]
    simp [hform]

/-- What an element that holds nothing but text is recognized as hangs on what the text says. -/
theorem best?_of_isBareText (h : e.IsBareText) (hform : e.isNamed "form" = false) :
    best? e = textBest? (ComponentCheck.priceText.isIn e.text.toList)
      (ComponentCheck.timeWords.any (Text.containsPiece · (Text.lowercase e.text)))
      (ComponentCheck.largeNumber.isIn e.text.toList) := by
  unfold best? candidates textBest?
  rw [List.map_congr_left fun p hp => congrArg (Prod.mk p) (score_of_isBareText h hform hp)]

end ComponentPattern

namespace Element

variable {e : Element}

/-- **What a text alone is recognized as**: a countdown if it names a unit of time, or else a price
table if it shows a price, or else a counter if it shows a number, and otherwise nothing. -/
theorem type_recognize?_of_isBareText (h : e.IsBareText) (hform : e.isNamed "form" = false) :
    (Text.NamesTime e.text → e.recognize?.map (·.type) = some .countdown) ∧
      (¬ Text.NamesTime e.text → Text.ShowsPrice e.text.toList →
        e.recognize?.map (·.type) = some .pricingTable) ∧
      (¬ Text.NamesTime e.text → ¬ Text.ShowsPrice e.text.toList →
        Text.ShowsNumber e.text.toList → e.recognize?.map (·.type) = some .numberCounter) ∧
      (¬ Text.NamesTime e.text → ¬ Text.ShowsPrice e.text.toList →
        ¬ Text.ShowsNumber e.text.toList → e.recognize? = none) := by
  have htype : e.recognize?.map (·.type) = (ComponentPattern.best? e).map (·.1.type) := by
    rw [recognize?, Option.map_map]
    rfl
  rw [← Option.map_eq_none_iff (f := (·.type)) (x := e.recognize?), htype,
    ComponentPattern.best?_of_isBareText h hform, ComponentPattern.type_textBest?,
    ← ComponentCheck.any_timeWords_iff, ← ComponentCheck.isIn_priceText_iff,
    ← ComponentCheck.isIn_largeNumber_iff]
  refine ⟨fun ht => ?_, fun ht hp => ?_, fun ht hp hn => ?_, fun ht hp hn => ?_⟩
  · rw [if_pos ht]
  · rw [if_neg ht, if_pos hp]
  · rw [if_neg ht, if_neg hp, if_pos hn]
  · rw [if_neg ht, if_neg hp, if_neg hn]

end Element

end PageModules
