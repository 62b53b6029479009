import PageModules.Proofs.Style.CutCalls

/-!
# Balanced values

The longhand values of a balanced value are balanced, at any depth of its parentheses, except for
those that are cut short (`Shorthand.IsCutShort`).  A colour function and an address end at the
first closing parenthesis, so they are cut in the middle if there are parentheses among their
arguments, which is only where the value has parentheses in others; a font family is all that stands
behind the first size, also behind one between parentheses.  These values are never balanced, and
all others are (`Shorthand.balanced_iff_not_isCutShort`).
-/

namespace PageModules

open Text.Pattern
open Chars (Balanced IsFlat Nests depth)

namespace Shorthand

/-! ### Values that are cut short -/

/-- The properties that take calls up to their first closing parenthesis. -/
def callNames : List String :=
  ["background-color", "background-image", "box-shadow-color", "text-shadow-color"]

/-- A declaration whose value is cut out of a value in the middle of parentheses. -/
inductive IsCutShort (value : List Char) : String × String → Prop where
  /-- A colour or an address without its last parentheses. -/
  | call {name s : String} (mem_names : name ∈ callNames) (nests : Nests value)
    (isCutCall : IsCutCall s.toList) : IsCutShort value (name, s)
  /-- A font family behind a size that stands between parentheses. -/
  | family {s : String} (front back : List Char) (value_eq : value = front ++ back)
    (depth_pos : 0 < depth front) (family_eq : s.toList = Chars.trim back) :
    IsCutShort value ("font-family", s)

theorem IsCutShort.not_balanced {value : List Char} (hvalue : Balanced value)
    {p : String × String} (h : IsCutShort value p) : ¬Balanced p.2.toList := by
  cases h with
  | call hname hnests hcall => exact hcall.not_balanced
  | @family s front back hfront hdepth hs =>
    -- The family closes what is still open in front of it.
    rw [hfront] at hvalue
    dsimp only
    rw [hs, Chars.balanced_trim_iff, hvalue.back_iff]
    omega

/-- A value is balanced or cut short. -/
def IsExpected (value : List Char) (p : String × String) : Prop :=
  Balanced p.2.toList ∨ IsCutShort value p

variable {value : List Char}

theorem isExpected_str {name : String} {s : List Char} (h : Balanced s) :
    IsExpected value (name, str s) :=
  .inl (by rwa [String.toList_ofList])

theorem isExpected_of_isFlat {name : String} {s : List Char} (h : IsFlat s) :
    IsExpected value (name, str s) :=
  isExpected_str h.balanced

theorem isExpected_of_call {name : String} (hname : name ∈ callNames) {s : List Char}
    (h : Balanced s ∨ IsCutCall s ∧ Nests value) : IsExpected value (name, str s) := by
  refine h.imp (fun h => ?_) fun h => .call hname h.2 ?_
  · rwa [String.toList_ofList]
  · rw [String.toList_ofList]
    exact h.1

/-! ### Boxes and borders -/

theorem isExpected_of_mem_expandBox {names : List String} (hvalue : Balanced value) :
    ∀ p ∈ expandBox names value, IsExpected value p := by
  unfold expandBox
  split
  case h_1 values hvalues =>
    rw [List.forall_mem_map]
    intro p hp
    have hv := mem_of_fourValues? hvalues _ (List.of_mem_zip hp).2
    exact isExpected_str (Style.balanced_of_mem_splitTokens hvalue hv)
  case h_2 => simp

theorem isExpected_of_mem_expandRadius (hvalue : Balanced value) :
    ∀ p ∈ expandRadius value, IsExpected value p := by
  unfold expandRadius
  split
  case isTrue => exact List.forall_mem_singleton.mpr (isExpected_str hvalue)
  case isFalse => exact isExpected_of_mem_expandBox hvalue

theorem isExpected_of_mem_expandBorder (hvalue : Balanced value) :
    ∀ p ∈ expandBorder value, IsExpected value p := by
  rintro ⟨name, v⟩ hp
  obtain ⟨-, v, rfl, hv⟩ := exists_of_mem_expandBorder
    (fun t ht => Chars.balanced_lowercase_iff.mpr ht)
    (fun t ht => Style.balanced_of_mem_splitTokens hvalue ht) hp
  refine isExpected_str ?_
  rcases hv with hv | ⟨tokens, htokens, rfl⟩
  · exact hv
  · exact Chars.balanced_intercalate (by decide) htokens

/-! ### Backgrounds -/

theorem isExpected_of_mem_wordDeclaration {p : Text.Pattern} (hp : p.isFlat = true)
    (name : String) (s : List Char) : ∀ q ∈ wordDeclaration name p s, IsExpected value q := by
  unfold wordDeclaration
  split
  case h_1 m hm =>
    have hflat := isFlat_of_reads hp (reads_of_find? hm)
    rw [List.forall_mem_singleton]
    exact isExpected_of_isFlat (Chars.isFlat_lowercase_iff.mpr hflat)
  case h_2 => simp

theorem isExpected_of_mem_expandBackground (value : List Char) :
    ∀ p ∈ expandBackground value, IsExpected value p := by
  unfold expandBackground
  extract_lets gradient rest url remaining image color positions position
  -- What is put away of the value does not matter for parentheses in others.
  have hrest : Nests rest → Nests value := by
    intro h
    unfold rest at h
    cases hgradient : gradient with
    | none =>
      rw [hgradient] at h
      exact h
    | some found =>
      rw [hgradient] at h
      obtain ⟨-, call, hvalue, hcall⟩ := exists_of_findGradient? hgradient
      have hblank : IsFlat [' '] := by decide
      rw [hvalue]
      exact Nests.insert hblank (Int.le_of_eq hcall.symm) h
  have hremaining : Nests remaining → Nests rest := by
    intro h
    unfold remaining at h
    cases hurl : url with
    | none =>
      rw [hurl] at h
      exact h
    | some m =>
      rw [hurl] at h
      exact nests_of_urlPattern hurl h
  simp only [List.forall_mem_append]
  refine ⟨⟨⟨⟨⟨?image, ?color⟩, ?size⟩, ?position⟩, ?repetition⟩, ?attachment⟩
  case image =>
    unfold image
    split
    case h_1 address haddress =>
      obtain ⟨m, hm, haddress⟩ := Option.bind_eq_some_iff.mp haddress
      have hcall := balanced_or_isCutCall_of_urlPattern hm haddress
      have himage : "url(" ++ str address ++ ")" = str ("url(".toList ++ address ++ [')']) := by
        rw [str, str, String.ofList_append, String.ofList_append, String.ofList_toList]
      rw [List.forall_mem_singleton, himage]
      exact isExpected_of_call (by decide) (hcall.imp_right (.imp_right hrest))
    case h_2 hgradient =>
      exact List.forall_mem_singleton.mpr (isExpected_str (exists_of_findGradient? hgradient).1)
    case h_3 => simp
  case color =>
    unfold color
    split
    case isTrue => simp
    case isFalse =>
      split
      case h_1 hcolor =>
        have hcall := balanced_or_isCutCall_of_find?_color hcolor
        exact List.forall_mem_singleton.mpr
          (isExpected_of_call (by decide) (hcall.imp_right (.imp_right (hrest ∘ hremaining))))
      case h_2 => simp
  case size => exact isExpected_of_mem_wordDeclaration (by decide) _ _
  case position =>
    unfold position
    split
    case isTrue => simp
    case isFalse =>
      refine List.forall_mem_singleton.mpr
        (isExpected_str (Chars.balanced_intercalate (by decide) ?_))
      rw [List.forall_mem_map]
      intro m hm
      have hread := reads_of_mem_findAll (List.mem_of_mem_take hm)
      exact (Chars.isFlat_lowercase_iff.mpr (isFlat_of_reads (by decide) hread)).balanced
  case repetition => exact isExpected_of_mem_wordDeclaration (by decide) _ _
  case attachment => exact isExpected_of_mem_wordDeclaration (by decide) _ _

/-! ### Fonts -/

/-- A font family is all that stands behind the first size. -/
theorem exists_of_find?_familyPattern {s family : List Char} {m : Match}
    (hm : familyPattern.find? s = some m) (hfamily : m.group? 1 = some family) :
    ∃ front, s = front ++ family := by
  -- The size, the blanks and the line height stand in front, and nothing behind.
  obtain ⟨hs, number, _, _, _, htext, -, htakes, hcaptures⟩ := takes_of_find? hm
  obtain ⟨unit, _, _, _, rfl, -, htakes, rfl⟩ := htakes
  obtain ⟨gap, _, _, _, rfl, -, htakes, rfl⟩ := htakes
  obtain ⟨height, _, _, _, rfl, -, htakes, rfl⟩ := htakes
  obtain ⟨last, _, _, _, rfl, ⟨_, -, rfl⟩, htakes, rfl⟩ := htakes
  obtain ⟨_, _, _, _, rfl, ⟨⟨rfl, hafter⟩, rfl⟩, ⟨rfl, rfl⟩, rfl⟩ := htakes
  have hlast : last = family := by
    rw [Match.group?, hcaptures] at hfamily
    exact Option.some.inj hfamily
  have hafter : m.after = [] := hafter
  refine ⟨m.before ++ (number ++ (unit ++ (gap ++ height))), ?_⟩
  rw [hs, htext, hafter, ← hlast]
  simp

theorem isExpected_of_mem_expandFont (hvalue : Balanced value) :
    ∀ p ∈ expandFont value, IsExpected value p := by
  unfold expandFont
  extract_lets family found size height front
  have hkept {i : ℕ} {s : List Char} (hs : found.bind (·.group? i) = some s) : IsFlat s := by
    obtain ⟨m, hm, hs⟩ := Option.bind_eq_some_iff.mp hs
    exact isFlat_of_find? (by decide) hm hs
  simp only [List.forall_mem_append]
  refine ⟨⟨⟨⟨?family, ?size⟩, ?height⟩, ?weight⟩, ?slant⟩
  case family =>
    unfold family
    split
    case h_1 f hf =>
      obtain ⟨m, hm, hf⟩ := Option.bind_eq_some_iff.mp hf
      obtain ⟨front, hfront⟩ := exists_of_find?_familyPattern hm hf
      dsimp only
      split
      case isTrue => simp
      case isFalse =>
        rw [List.forall_mem_singleton]
        by_cases hdepth : depth front = 0
        · rw [hfront] at hvalue
          have hback : Balanced f := hvalue.back_iff.mpr hdepth
          exact isExpected_str (Chars.balanced_trim_iff.mpr hback)
        · -- The front of a balanced text is never below zero.
          have hnonneg := hvalue.nonneg front ⟨f, hfront.symm⟩
          have hpos : 0 < depth front := by omega
          exact .inr (.family front f hfront hpos String.toList_ofList)
    case h_2 => simp
  case size =>
    unfold size
    split
    case h_1 s hs => exact List.forall_mem_singleton.mpr (isExpected_of_isFlat (hkept hs))
    case h_2 => simp
  case height =>
    unfold height
    split
    case h_1 s hs => exact List.forall_mem_singleton.mpr (isExpected_of_isFlat (hkept hs))
    case h_2 => simp
  case weight => exact isExpected_of_mem_wordDeclaration (by decide) _ _
  case slant => exact isExpected_of_mem_wordDeclaration (by decide) _ _

/-! ### Shadows -/

theorem isFlat_formatNumber (x : Binary64) : IsFlat (formatNumber x).toList := by
  have hopen : Text.isNumberChar '(' = false := by decide
  have hclose : Text.isNumberChar ')' = false := by decide
  constructor
  · intro hmem
    exact absurd (isNumberChar_of_mem_formatNumber x _ hmem) (Bool.eq_false_iff.mp hopen)
  · intro hmem
    exact absurd (isNumberChar_of_mem_formatNumber x _ hmem) (Bool.eq_false_iff.mp hclose)

theorem isExpected_of_mem_expandShadow {name : String} (hname : name ++ "-color" ∈ callNames)
    (value : List Char) (ofBox : Bool) :
    ∀ p ∈ expandShadow name value ofBox, IsExpected value p := by
  have hword {word : String} (hword : IsFlat word.toList) (name : String) :
      IsExpected value (name, word) := .inl hword.balanced
  unfold expandShadow
  split
  case isTrue => exact List.forall_mem_singleton.mpr (hword (by decide) _)
  case isFalse =>
    extract_lets item isInset shown color lengths numbers names
    have hshown : Nests shown → Nests value := by
      intro h
      have hitem : Nests item := by
        unfold shown at h
        split at h
        case isTrue => exact nests_of_removeAll (by decide) h
        case isFalse => exact h
      exact hitem.mono (Style.isInfix_firstItem value)
    simp only [List.forall_mem_append, List.forall_mem_singleton]
    refine ⟨⟨⟨hword (by decide) _, ?inset⟩, ?color⟩, ?lengths⟩
    case inset =>
      split
      · exact List.forall_mem_singleton.mpr (hword (by decide) _)
      · simp
    case color =>
      cases hcolor : color with
      | none =>
        have hdefault : Balanced defaultShadowColor.toList := by decide
        exact .inl hdefault
      | some c =>
        have hcall := balanced_or_isCutCall_of_shadowColor? hcolor
        exact isExpected_of_call hname (hcall.imp_right (.imp_right hshown))
    case lengths =>
      split
      · simp
      · rw [List.forall_mem_map]
        exact fun p _ => hword (isFlat_formatNumber _) _

/-! ### Transforms and filters -/

theorem isExpected_of_mem_expandTransform (s : List Char) :
    ∀ p ∈ expandTransform s, IsExpected value p := by
  intro p hp
  rcases exists_of_mem_expandTransform hp with rfl | ⟨part, -, x, rfl⟩
  · have hnone : Balanced "none".toList := by decide
    exact .inl hnone
  · exact .inl (isFlat_formatNumber x).balanced

/-- The arguments of a shadow are all that stands between its parentheses. -/
theorem balanced_of_dropShadow? {s arguments : List Char} (h : dropShadow? s = some arguments) :
    Balanced arguments := by
  unfold dropShadow? at h
  simp only [Option.bind_eq_bind, Option.bind_eq_some_iff, Option.pure_def,
    Option.some.injEq] at h
  obtain ⟨start, -, group, hgroup, rfl⟩ := h
  obtain ⟨inner, -, -, rfl, hinner⟩ := Style.exists_of_balancedParens? hgroup
  have hdrop : (('(' :: (inner ++ [')'])).drop 1).dropLast = inner := List.dropLast_concat
  rwa [hdrop, Chars.balanced_trim_iff]

theorem isExpected_of_mem_expandFilter (s : List Char) :
    ∀ p ∈ expandFilter s, IsExpected value p := by
  have hfunctions : ∀ f ∈ filterFunctions, (oneArgument f.1 f.2.1 f.2.2).keepsFlat = true := by
    decide
  unfold expandFilter
  split
  case isTrue =>
    have hnone : Balanced "none".toList := by decide
    exact List.forall_mem_singleton.mpr (.inl hnone)
  case isFalse =>
    rw [List.forall_mem_append]
    constructor
    · intro p hp
      obtain ⟨⟨name, signed, unit⟩, hf, hp⟩ := List.mem_filterMap.mp hp
      obtain ⟨m, hm, hp⟩ := Option.bind_eq_some_iff.mp hp
      obtain ⟨argument, hargument, rfl⟩ := Option.map_eq_some_iff.mp hp
      exact isExpected_of_isFlat (isFlat_of_find? (hfunctions _ hf) hm hargument)
    · split
      case h_1 arguments hdrop =>
        exact List.forall_mem_singleton.mpr (isExpected_str (balanced_of_dropShadow? hdrop))
      case h_2 => simp

/-! ### All properties -/

theorem isExpected_of_mem_expand {property value : String} (hvalue : Balanced value.toList) :
    ∀ p ∈ expand property value, IsExpected (Chars.trim value.toList) p := by
  rw [← Chars.balanced_trim_iff] at hvalue
  unfold expand
  dsimp only
  split
  case h_1 => exact isExpected_of_mem_expandBox hvalue
  case h_2 => exact isExpected_of_mem_expandBox hvalue
  case h_3 => exact isExpected_of_mem_expandBorder hvalue
  case h_4 => exact isExpected_of_mem_expandBox hvalue
  case h_5 => exact isExpected_of_mem_expandBox hvalue
  case h_6 => exact isExpected_of_mem_expandBox hvalue
  case h_7 => exact isExpected_of_mem_expandRadius hvalue
  case h_8 => exact isExpected_of_mem_expandBackground _
  case h_9 => exact isExpected_of_mem_expandFont hvalue
  case h_10 => exact isExpected_of_mem_expandShadow (by decide) _ true
  case h_11 => exact isExpected_of_mem_expandShadow (by decide) _ false
  case h_12 => exact isExpected_of_mem_expandTransform _
  case h_13 => exact isExpected_of_mem_expandFilter _
  case h_14 => exact List.forall_mem_singleton.mpr (isExpected_str hvalue)

/-- **The longhand values of a balanced value are balanced**, except for those cut short. -/
theorem balanced_iff_not_isCutShort {property value : String} (hvalue : Balanced value.toList)
    {p : String × String} (hp : p ∈ expand property value) :
    Balanced p.2.toList ↔ ¬IsCutShort (Chars.trim value.toList) p := by
  constructor
  · intro hbalanced hcut
    exact hcut.not_balanced (Chars.balanced_trim_iff.mpr hvalue) hbalanced
  · intro hcut
    exact (isExpected_of_mem_expand hvalue p hp).resolve_right hcut

/-- A gradient is taken with the parentheses among its arguments. -/
theorem balanced_iff_not_isCutShort_gradient :
    Balanced "linear-gradient(rgba(var(--c), 0.5), red) no-repeat".toList ∧
      ("background-image", "linear-gradient(rgba(var(--c), 0.5), red)") ∈
        expand "background" "linear-gradient(rgba(var(--c), 0.5), red) no-repeat" ∧
      ¬IsCutShort (Chars.trim "linear-gradient(rgba(var(--c), 0.5), red) no-repeat".toList)
        ("background-image", "linear-gradient(rgba(var(--c), 0.5), red)") := by
  have hvalue : Balanced "linear-gradient(rgba(var(--c), 0.5), red) no-repeat".toList := by
    decide +kernel
  have hmem : ("background-image", "linear-gradient(rgba(var(--c), 0.5), red)") ∈
      expand "background" "linear-gradient(rgba(var(--c), 0.5), red) no-repeat" := by
    decide +kernel
  exact ⟨hvalue, hmem, (balanced_iff_not_isCutShort hvalue hmem).mp (by decide +kernel)⟩

/-- A colour is taken up to the first closing parenthesis. -/
theorem not_balanced_background_color : Balanced "rgba(var(--c), 0.5)".toList ∧
    ("background-color", "rgba(var(--c)") ∈ expand "background" "rgba(var(--c), 0.5)" ∧
      ¬Balanced "rgba(var(--c)".toList := by
  decide +kernel

end Shorthand

end PageModules
