import PageModules.Proofs.Number.Characters
import PageModules.Proofs.Style.Longhands
import PageModules.Proofs.Style.Nesting
import PageModules.Proofs.Style.StyleMaps
import PageModules.Proofs.Text.Ascii
import PageModules.Proofs.Text.Matches

/-!
# Expanding twice

Expanding a shorthand gives declarations that expanding leaves alone
(`Shorthand.isSettled_of_mem_expand`).  The parts of backgrounds, fonts, shadows and filters are
found by patterns; what these read or keep is trimmed, since their words and numbers have no blank
and their functions start with a name and end with a parenthesis.

A style map that has been expanded is therefore left alone as a whole (`StyleMap.expand_expand`).
-/

namespace PageModules

open Text (isBlank)
open Text.Pattern
open Chars (IsTrimmed)

namespace Shorthand

/-! ### Words -/

/-- Words are not empty and have no blanks. -/
def AreWords (ws : List String) : Prop :=
  ∀ w ∈ ws, w.toList ≠ [] ∧ ∀ c ∈ w.toList, isBlank c = false

instance (ws : List String) : Decidable (AreWords ws) :=
  inferInstanceAs (Decidable (∀ w ∈ ws, w.toList ≠ [] ∧ ∀ c ∈ w.toList, isBlank c = false))

/-- A word in any case is trimmed. -/
theorem isTrimmed_of_reads_foldedChoice {ws : List String} (hws : AreWords ws) {s : List Char}
    (hs : (foldedChoice ws).Reads s) : IsTrimmed s ∧ s ≠ [] := by
  have hsolid := isSolid_foldedChoice fun w hw => (hws w hw).2
  refine ⟨.of_forall (hsolid.isBlank_eq_false hs), ?_⟩
  rintro rfl
  obtain ⟨w, hw, hnil⟩ := reads_foldedChoice.mp hs
  exact (hws w hw).1 hnil.symm

theorem reads_wordOf {ws : List String} {s : List Char} :
    (wordOf ws).Reads s ↔ (foldedChoice ws).Reads s := by
  constructor
  · rintro ⟨_, _, rfl, rfl, t, _, rfl, ht, _, _, rfl, rfl, rfl⟩
    simpa using ht
  · intro hs
    exact ⟨[], s, rfl, rfl, s, [], (List.append_nil s).symm, hs, [], [], rfl, rfl, rfl⟩

theorem isSettled_of_mem_wordDeclaration {name : String} (hname : IsLonghand name)
    {ws : List String} (hws : AreWords ws) (s : List Char) :
    ∀ p ∈ wordDeclaration name (wordOf ws) s, IsSettled p := by
  unfold wordDeclaration
  split
  case h_1 m hm =>
    have hread := reads_wordOf.mp (reads_of_find? hm)
    rw [List.forall_mem_singleton]
    exact isSettled_of_isLonghand hname (isTrimmed_of_reads_foldedChoice hws hread).1.lowercase
  case h_2 => simp

/-! ### Colours -/

/-- A colour function starts with its name and ends with a parenthesis. -/
theorem isTrimmed_of_reads_functionPattern {name : String} (hname : AreWords [name])
    {s : List Char} (hs : (Color.functionPattern name).Reads s) : IsTrimmed s := by
  obtain ⟨start, _, rfl, hstart, a, _, rfl, -, b, _, rfl, -, c, _, rfl, -, d, _, rfl, -, e, _, rfl,
    he, rfl⟩ := hs
  obtain rfl := reads_text.mp he
  have hstart := isTrimmed_of_reads_foldedChoice hname hstart
  have hend : IsTrimmed ")".toList := .of_forall (by decide)
  simpa using hstart.1.between hstart.2 hend (by decide) (a ++ b ++ c ++ d)

theorem isTrimmed_of_reads_functionalPattern {s : List Char}
    (hs : Color.functionalPattern.Reads s) : IsTrimmed s := by
  rcases hs with hs | hs | hs
  · refine .of_forall (IsSolid.isBlank_eq_false ?_ hs)
    exact ⟨⟨fun c hc => by rw [beq_iff_eq.mp hc]; decide, trivial⟩,
      fun c hc => Text.isBlank_of_isHexDigit hc, trivial, trivial⟩
  · exact isTrimmed_of_reads_functionPattern (by decide) hs
  · exact isTrimmed_of_reads_functionPattern (by decide) hs

theorem areWords_of_isVisible {ws : List String} (h : ws.all Text.isVisible = true) :
    AreWords ws := by
  intro w hw
  obtain ⟨hne, hbetween⟩ := Text.toList_of_isVisible (List.all_eq_true.mp h w hw)
  exact ⟨hne, fun c hc => Text.isBlank_eq_false (hbetween c hc).1 (hbetween c hc).2⟩

theorem areWords_names : AreWords Color.names := areWords_of_isVisible (by decide +kernel)

theorem isTrimmed_of_find?_color {s color : List Char} (h : Color.find? s = some color) :
    IsTrimmed color := by
  obtain ⟨m, hm, rfl⟩ := Option.map_eq_some_iff.mp h
  rcases reads_of_find? hm with hread | hread
  · exact isTrimmed_of_reads_functionalPattern hread
  · exact (isTrimmed_of_reads_foldedChoice areWords_names (reads_wordOf.mp hread)).1

theorem isTrimmed_of_isNamed {s : List Char} (h : Color.isNamed s = true) : IsTrimmed s := by
  obtain ⟨name, hname, hsame⟩ := List.any_eq_true.mp h
  refine .of_forall fun c hc => ?_
  rw [Chars.sameIgnoringCase, beq_iff_eq] at hsame
  have hlower : Text.lower c ∈ Chars.lowercase name.toList := by
    rw [hsame]
    exact List.mem_map_of_mem hc
  obtain ⟨d, hd, hdc⟩ := List.mem_map.mp hlower
  rw [← Text.isBlank_lower, ← hdc, Text.isBlank_lower]
  exact (areWords_names name hname).2 d hd

theorem isTrimmed_of_shadowColor? {s color : List Char} (h : shadowColor? s = some color) :
    IsTrimmed color := by
  rcases Option.or_eq_some_iff.mp h with h | ⟨-, h⟩
  · obtain ⟨m, hm, rfl⟩ := Option.map_eq_some_iff.mp h
    exact isTrimmed_of_reads_functionalPattern (reads_of_find? hm)
  · exact isTrimmed_of_isNamed (List.find?_some h)

/-! ### Backgrounds -/

/-- A name in front of a group of parentheses. -/
theorem isTrimmed_append_group {name : List Char} (hname : IsTrimmed name) {s group : List Char}
    (h : Style.balancedParens? s = some group) : IsTrimmed (name ++ group) := by
  obtain ⟨inner, -, -, rfl, -⟩ := Style.exists_of_balancedParens? h
  have hopen : IsTrimmed ['('] := .of_forall (by decide)
  have hclose : IsTrimmed [')'] := .of_forall (by decide)
  exact hname.append (hopen.between (by simp) hclose (by simp) inner)

theorem keepsSolid_gradientStart : gradientStart.KeepsSolid := by
  refine keepsSolid_sequence ?_
  simp only [List.forall_mem_cons]
  refine ⟨IsSolid.keepsSolid (isSolid_sequence ?_), keepsSolid_blanks,
    (isSolid_text (by decide)).keepsSolid, by simp⟩
  simp only [List.forall_mem_cons]
  exact ⟨isSolid_optional (isSolid_folded (by decide)), isSolid_foldedChoice (by decide),
    isSolid_folded (by decide), by simp⟩

theorem isTrimmed_of_findGradient? {value before gradient after : List Char}
    (h : findGradient? value = some (before, gradient, after)) : IsTrimmed gradient := by
  unfold findGradient? at h
  simp only [Option.bind_eq_bind, Option.bind_eq_some_iff, Option.pure_def, Option.some.injEq,
    Prod.mk.injEq] at h
  obtain ⟨m, hm, name, hname, group, hgroup, -, rfl, -⟩ := h
  have htrimmed := keepsSolid_gradientStart.isTrimmed_of_find? hm hname
  exact isTrimmed_append_group htrimmed.lowercase hgroup

theorem isSettled_of_mem_expandBackground (value : List Char) :
    ∀ p ∈ expandBackground value, IsSettled p := by
  unfold expandBackground
  extract_lets gradient rest url remaining image color positions position
  simp only [List.forall_mem_append]
  refine ⟨⟨⟨⟨⟨?image, ?color⟩, ?size⟩, ?position⟩, ?repetition⟩, ?attachment⟩
  case image =>
    unfold image
    split
    case h_1 address _ _ =>
      have hopen : IsTrimmed "url(".toList := .of_forall (by decide)
      have hclose : IsTrimmed ")".toList := .of_forall (by decide)
      rw [List.forall_mem_singleton]
      refine isSettled_of_isTrimmed (by decide) ?_
      rw [String.toList_append, String.toList_append]
      exact hopen.between (by decide) hclose (by decide) _
    case h_2 hgradient =>
      rw [List.forall_mem_singleton]
      exact isSettled_of_isLonghand (by decide) (isTrimmed_of_findGradient? hgradient)
    case h_3 => simp
  case color =>
    unfold color
    split
    case isTrue => simp
    case isFalse =>
      split
      case h_1 hcolor =>
        rw [List.forall_mem_singleton]
        exact isSettled_of_isLonghand (by decide) (isTrimmed_of_find?_color hcolor)
      case h_2 => simp
  case size => exact isSettled_of_mem_wordDeclaration (by decide) (by decide) _
  case position =>
    unfold position
    split
    case isTrue => simp
    case isFalse =>
      rw [List.forall_mem_singleton]
      refine isSettled_of_isLonghand (by decide) (Chars.isTrimmed_intercalate ?_)
      rw [List.forall_mem_map]
      intro m hm
      have hread := reads_wordOf.mp (reads_of_mem_findAll (List.mem_of_mem_take hm))
      have htrimmed := isTrimmed_of_reads_foldedChoice (by decide) hread
      exact ⟨htrimmed.1.lowercase, by simpa [Chars.lowercase] using htrimmed.2⟩
  case repetition => exact isSettled_of_mem_wordDeclaration (by decide) (by decide) _
  case attachment => exact isSettled_of_mem_wordDeclaration (by decide) (by decide) _

/-! ### Fonts -/

theorem isBlank_of_isNumeric {c : Char} (h : isNumeric c = true) : isBlank c = false := by
  rcases Bool.or_eq_true_iff.mp h with h | h
  · exact Text.isBlank_of_isDigit h
  · rw [beq_iff_eq.mp h]
    decide

/-- The size of a font and its line height have no blank. -/
theorem keepsSolid_sizePattern : sizePattern.KeepsSolid := by
  have hnumber : (plus isNumeric).IsSolid := fun c hc => isBlank_of_isNumeric hc
  have hslash : (text "/").KeepsSolid := (isSolid_text (by decide)).keepsSolid
  refine keepsSolid_sequence ?_
  simp only [List.forall_mem_cons]
  refine ⟨IsSolid.keepsSolid ⟨hnumber, isSolid_foldedChoice (by decide)⟩,
    keepsSolid_optional (keepsSolid_sequence ?_), by simp⟩
  simp only [List.forall_mem_cons]
  exact ⟨keepsSolid_blanks, hslash, keepsSolid_blanks,
    IsSolid.keepsSolid ⟨hnumber, isSolid_optional (isSolid_foldedChoice (by decide))⟩, by simp⟩

theorem isSettled_of_mem_expandFont (value : List Char) :
    ∀ p ∈ expandFont value, IsSettled p := by
  unfold expandFont
  extract_lets family found size height front
  have hkept {i : ℕ} {s : List Char} (hs : found.bind (·.group? i) = some s) : IsTrimmed s := by
    obtain ⟨m, hm, hs⟩ := Option.bind_eq_some_iff.mp hs
    exact keepsSolid_sizePattern.isTrimmed_of_find? hm hs
  simp only [List.forall_mem_append]
  refine ⟨⟨⟨⟨?family, ?size⟩, ?height⟩, ?weight⟩, ?slant⟩
  case family =>
    unfold family
    split
    case h_1 f _ =>
      dsimp only
      split
      case isTrue => simp
      case isFalse =>
        rw [List.forall_mem_singleton]
        exact isSettled_of_isLonghand (by decide) (Chars.isTrimmed_trim f)
    case h_2 => simp
  case size =>
    unfold size
    split
    case h_1 s hs =>
      rw [List.forall_mem_singleton]
      exact isSettled_of_isLonghand (by decide) (hkept hs)
    case h_2 => simp
  case height =>
    unfold height
    split
    case h_1 s hs =>
      rw [List.forall_mem_singleton]
      exact isSettled_of_isLonghand (by decide) (hkept hs)
    case h_2 => simp
  case weight => exact isSettled_of_mem_wordDeclaration (by decide) (by decide) _
  case slant => exact isSettled_of_mem_wordDeclaration (by decide) (by decide) _

/-! ### Numbers -/

theorem isNumberChar_of_mem_formatNumber (x : Binary64) :
    ∀ c ∈ (formatNumber x).toList, Text.isNumberChar c = true := by
  unfold formatNumber
  dsimp only
  split
  · exact isNumberChar_of_mem_toString _
  · exact Binary64.isNumberChar_of_mem_plainText _

theorem isTrimmed_formatNumber (x : Binary64) : IsTrimmed (formatNumber x).toList :=
  .of_forall fun c hc => Text.isBlank_of_isNumberChar (isNumberChar_of_mem_formatNumber x c hc)

/-! ### Shadows -/

theorem isSettled_of_mem_expandShadow {name : String} (hname : name ∈ ["box-shadow", "text-shadow"])
    (value : List Char) (ofBox : Bool) : ∀ p ∈ expandShadow name value ofBox, IsSettled p := by
  have hendings : ∀ name ∈ ["box-shadow", "text-shadow"],
      ∀ ending ∈ ["-style", "-inset", "-color"], IsLonghand (name ++ ending) := by decide
  have hlengths : ∀ name ∈ ["box-shadow", "text-shadow"],
      ∀ length ∈ ["horizontal", "vertical", "blur", "spread"],
        IsLonghand (name ++ "-" ++ length) := by decide
  replace hendings := hendings name hname
  replace hlengths := hlengths name hname
  have hword {ending word : String} (hending : ending ∈ ["-style", "-inset", "-color"])
      (hword : AreWords [word]) : IsSettled (name ++ ending, word) :=
    isSettled_of_isTrimmed (hendings ending hending) (.of_forall (hword word List.mem_cons_self).2)
  unfold expandShadow
  split
  case isTrue =>
    rw [List.forall_mem_singleton]
    exact hword (by simp) (by decide)
  case isFalse =>
    extract_lets item isInset shown color lengths numbers names
    simp only [List.forall_mem_append, List.forall_mem_singleton]
    refine ⟨⟨⟨hword (by simp) (by decide), ?inset⟩, ?color⟩, ?lengths⟩
    case inset =>
      split
      · rw [List.forall_mem_singleton]
        exact hword (by simp) (by decide)
      · simp
    case color =>
      cases hcolor : color with
      | none => exact hword (by simp) (by decide)
      | some c =>
        exact isSettled_of_isLonghand (hendings _ (by simp)) (isTrimmed_of_shadowColor? hcolor)
    case lengths =>
      split
      · simp
      · rw [List.forall_mem_map]
        intro p hp
        refine isSettled_of_isTrimmed (hlengths p.1 ?_) (isTrimmed_formatNumber _)
        have hmem : p.1 ∈ names := List.fst_mem_of_mem_zipIdx hp
        unfold names at hmem
        split at hmem
        · exact hmem
        · exact List.mem_of_mem_take (i := 3) hmem

/-! ### Transforms -/

theorem exists_of_mem_putNumber {out : Declarations} {name : String} {x : Option Binary64}
    {p : String × String} (h : p ∈ putNumber out name x) :
    p ∈ out ∨ ∃ x, p = (name, formatNumber x) := by
  unfold putNumber at h
  split at h
  case h_1 x =>
    rcases List.mem_append.mp h with h | h
    · exact .inl (List.mem_of_mem_filter h)
    · exact .inr ⟨x, List.mem_singleton.mp h⟩
  case h_2 => exact .inl h

theorem exists_of_mem_foldl_putNumber {parts : List (String × Option Binary64)}
    {out : Declarations} {p : String × String}
    (h : p ∈ parts.foldl (fun out p => putNumber out ("transform-" ++ p.1) p.2) out) :
    p ∈ out ∨ ∃ part ∈ parts.map Prod.fst, ∃ x, p = ("transform-" ++ part, formatNumber x) := by
  induction parts generalizing out with
  | nil => exact .inl h
  | cons part rest ih =>
    rcases ih h with h | ⟨name, hname, hp⟩
    · rcases exists_of_mem_putNumber h with h | hp
      · exact .inl h
      · exact .inr ⟨part.1, List.mem_cons_self, hp⟩
    · exact .inr ⟨name, List.mem_cons_of_mem _ hname, hp⟩

/-- The parts of a transformation are numbers. -/
theorem exists_of_mem_expandTransform {value : List Char} {p : String × String}
    (h : p ∈ expandTransform value) : p = ("transform", "none") ∨
      ∃ part ∈ ["scale", "scale-x", "scale-y", "scale-x", "scale-y", "rotate", "skew-x", "skew-y",
        "skew-x", "skew-y", "translate-x", "translate-y", "translate-x", "translate-y"],
        ∃ x, p = ("transform-" ++ part, formatNumber x) := by
  unfold expandTransform at h
  split at h
  case isTrue => exact .inl (List.mem_singleton.mp h)
  case isFalse => exact .inr ((exists_of_mem_foldl_putNumber h).resolve_left (by simp))

theorem isSettled_of_mem_expandTransform (value : List Char) :
    ∀ p ∈ expandTransform value, IsSettled p := by
  have hnames : ∀ part ∈ ["scale", "scale-x", "scale-y", "scale-x", "scale-y", "rotate", "skew-x",
      "skew-y", "skew-x", "skew-y", "translate-x", "translate-y", "translate-x", "translate-y"],
      IsLonghand ("transform-" ++ part) := by decide
  intro p hp
  rcases exists_of_mem_expandTransform hp with rfl | ⟨part, hpart, x, rfl⟩
  · rfl
  · exact isSettled_of_isTrimmed (hnames part hpart) (isTrimmed_formatNumber x)

/-! ### Filters -/

theorem isBlank_of_isPlainNumeric {c : Char} (h : isPlainNumeric c = true) : isBlank c = false := by
  rcases Bool.or_eq_true_iff.mp h with h | h
  · exact Text.isBlank_of_isAsciiDigit h
  · rw [beq_iff_eq.mp h]
    decide

/-- The argument of a function has no blank. -/
theorem keepsSolid_oneArgument {name unit : String} (hname : AreWords [name])
    (hunit : ∀ c ∈ unit.toList, isBlank c = false) (signed : Bool) :
    (oneArgument name signed unit).KeepsSolid := by
  have hsign : (if signed then optional (text "-") else empty).IsSolid := by
    split
    · exact isSolid_optional (isSolid_text (by decide))
    · trivial
  have hend : (if unit = "" then empty else optional (folded unit)).IsSolid := by
    split
    · trivial
    · exact isSolid_optional (isSolid_folded hunit)
  have hnumber : (plus isPlainNumeric).IsSolid := fun c hc => isBlank_of_isPlainNumeric hc
  have hargument : (argument 1 signed unit).IsSolid := ⟨⟨hsign, hnumber⟩, hend⟩
  have hopen : (text "(").IsSolid := isSolid_text (by decide)
  have hclose : (text ")").IsSolid := isSolid_text (by decide)
  have hname : (folded name).IsSolid := isSolid_folded (hname name List.mem_cons_self).2
  refine keepsSolid_sequence ?_
  simp only [List.forall_mem_cons]
  exact ⟨hname.keepsSolid, keepsSolid_blanks, hopen.keepsSolid, keepsSolid_blanks,
    hargument.keepsSolid, keepsSolid_blanks, hclose.keepsSolid, by simp⟩

theorem isSettled_of_mem_expandFilter (value : List Char) :
    ∀ p ∈ expandFilter value, IsSettled p := by
  have hfunctions : ∀ f ∈ filterFunctions, IsLonghand ("filter-" ++ f.1) ∧ AreWords [f.1] ∧
      ∀ c ∈ f.2.2.toList, isBlank c = false := by decide
  unfold expandFilter
  split
  case isTrue => rw [List.forall_mem_singleton]; rfl
  case isFalse =>
    rw [List.forall_mem_append]
    constructor
    · intro p hp
      obtain ⟨⟨name, signed, unit⟩, hf, hp⟩ := List.mem_filterMap.mp hp
      obtain ⟨hlonghand, hname, hunit⟩ := hfunctions _ hf
      obtain ⟨m, hm, hp⟩ := Option.bind_eq_some_iff.mp hp
      obtain ⟨argument, hargument, rfl⟩ := Option.map_eq_some_iff.mp hp
      have hkeeps := keepsSolid_oneArgument hname hunit signed
      exact isSettled_of_isLonghand hlonghand (hkeeps.isTrimmed_of_find? hm hargument)
    · split
      case h_1 arguments hdrop =>
        unfold dropShadow? at hdrop
        simp only [Option.bind_eq_bind, Option.bind_eq_some_iff, Option.pure_def,
          Option.some.injEq] at hdrop
        obtain ⟨start, -, group, -, rfl⟩ := hdrop
        rw [List.forall_mem_singleton]
        exact isSettled_of_isLonghand (by decide) (Chars.isTrimmed_trim _)
      case h_2 => simp

/-! ### All properties -/

/-- **Expanding a declaration gives settled declarations.** -/
theorem isSettled_of_mem_expand (property value : String) :
    ∀ p ∈ expand property value, IsSettled p := by
  by_cases h : Text.lowercase property ∈ shorthandNames
  case neg =>
    rw [expand_of_not_mem h, List.forall_mem_singleton]
    exact isSettled_of_isLonghand ⟨Text.lowercase_lowercase property, h⟩
      (Chars.isTrimmed_trim value.toList)
  case pos =>
    have hvalue := Chars.isTrimmed_trim value.toList
    unfold expand
    dsimp only
    split
    case h_1 => exact isSettled_of_mem_expandBox (by decide) hvalue
    case h_2 => exact isSettled_of_mem_expandBox (by decide) hvalue
    case h_3 => exact isSettled_of_mem_expandBorder hvalue
    case h_4 => exact isSettled_of_mem_expandBox (by decide) hvalue
    case h_5 => exact isSettled_of_mem_expandBox (by decide) hvalue
    case h_6 => exact isSettled_of_mem_expandBox (by decide) hvalue
    case h_7 => exact isSettled_of_mem_expandRadius hvalue
    case h_8 => exact isSettled_of_mem_expandBackground _
    case h_9 => exact isSettled_of_mem_expandFont _
    case h_10 => exact isSettled_of_mem_expandShadow (by simp) _ true
    case h_11 => exact isSettled_of_mem_expandShadow (by simp) _ false
    case h_12 => exact isSettled_of_mem_expandTransform _
    case h_13 => exact isSettled_of_mem_expandFilter _
    case h_14 => simp_all [shorthandNames]

end Shorthand

namespace StyleMap

open Shorthand (IsSettled)

/-- Settled properties of different names are left alone. -/
theorem expand_of_isSettled {m : StyleMap} (hsettled : ∀ p ∈ m.props, IsSettled p)
    (hnodup : (m.props.map Prod.fst).Nodup) : m.expand = m := by
  have hexpand : (m.props.flatMap fun p => Shorthand.expand p.1 p.2) = m.props := by
    rw [List.flatMap_congr hsettled, List.flatMap_singleton']
  rw [expand, hexpand, withProps_of_nodup m hnodup]

/-- **Expanding twice is expanding once.** -/
theorem expand_expand (m : StyleMap) : m.expand.expand = m.expand := by
  have hexpand := withProps_eq m (m.props.flatMap fun p => Shorthand.expand p.1 p.2)
  rw [← expand] at hexpand
  refine expand_of_isSettled (fun p hp => ?_) ?_
  · rw [hexpand] at hp
    obtain ⟨q, -, hp⟩ := List.mem_flatMap.mp ((mem_setAll hp).resolve_left (by simp))
    exact Shorthand.isSettled_of_mem_expand q.1 q.2 p hp
  · rw [hexpand]
    exact nodup_setAll (by simp) _

end StyleMap

end PageModules
