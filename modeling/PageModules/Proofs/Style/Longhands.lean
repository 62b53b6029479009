import Mathlib.Tactic.Set
import PageModules.Proofs.Text.Trimmed
import PageModules.Style.Shorthand

/-!
# Longhand declarations

A declaration is settled if expanding leaves it alone (`Shorthand.IsSettled`): it has the name of a
longhand property and a trimmed value (`Shorthand.isSettled_of_isLonghand`), or it is one of the
three forms in which a shorthand stays what it is.  Box properties, corner radii and borders are
expanded to settled declarations.
-/

namespace PageModules

open Chars (IsTrimmed)

namespace Shorthand

/-- The properties that are expanded. -/
def shorthandNames : List String :=
  ["margin", "padding", "border", "border-width", "border-style", "border-color", "border-radius",
    "background", "font", "box-shadow", "text-shadow", "transform", "filter"]

/-- A name in lowercase that is not expanded. -/
def IsLonghand (name : String) : Prop := Text.lowercase name = name ∧ name ∉ shorthandNames

instance (name : String) : Decidable (IsLonghand name) :=
  inferInstanceAs (Decidable (_ ∧ _))

/-- A declaration that expanding leaves alone. -/
def IsSettled (p : String × String) : Prop := expand p.1 p.2 = [p]

theorem expand_of_not_mem {property : String} (h : Text.lowercase property ∉ shorthandNames)
    (value : String) :
    expand property value = [(Text.lowercase property, str (Chars.trim value.toList))] := by
  unfold expand
  dsimp only
  split
  case h_14 => rfl
  all_goals
    rename_i hname
    rw [hname] at h
    exact absurd (by decide) h

/-- A trimmed value of a longhand property is left alone. -/
theorem isSettled_of_isTrimmed {name : String} (h : IsLonghand name) {value : String}
    (hvalue : IsTrimmed value.toList) : IsSettled (name, value) := by
  rw [IsSettled, expand_of_not_mem (h.1.symm ▸ h.2), h.1, Chars.trim_eq_self_iff.mpr hvalue,
    str, String.ofList_toList]

theorem isSettled_of_isLonghand {name : String} (h : IsLonghand name) {s : List Char}
    (hs : IsTrimmed s) : IsSettled (name, str s) :=
  isSettled_of_isTrimmed h (by rwa [String.toList_ofList])

/-! ### Boxes -/

theorem mem_of_fourValues? {tokens values : List (List Char)}
    (h : fourValues? tokens = some values) : ∀ v ∈ values, v ∈ tokens := by
  unfold fourValues? at h
  split at h
  · cases h
  all_goals
    obtain rfl := Option.some.inj h
    simp

theorem isSettled_of_mem_expandBox {names : List String} (hnames : ∀ n ∈ names, IsLonghand n)
    {value : List Char} (hvalue : IsTrimmed value) :
    ∀ p ∈ expandBox names value, IsSettled p := by
  unfold expandBox
  split
  case h_1 values hvalues =>
    rw [List.forall_mem_map]
    intro p hp
    have hv := mem_of_fourValues? hvalues _ (List.of_mem_zip hp).2
    exact isSettled_of_isLonghand (hnames _ (List.of_mem_zip hp).1)
      (Style.isTrimmed_of_mem_splitTokens hvalue hv).1
  case h_2 => simp

/-- A radius with two parts is left alone as it stands. -/
theorem isSettled_of_mem_expandRadius {value : List Char} (hvalue : IsTrimmed value) :
    ∀ p ∈ expandRadius value, IsSettled p := by
  unfold expandRadius
  split
  case isTrue hslash =>
    have hexpand : expand "border-radius" (str value) = expandRadius value := by
      have htrim := Chars.trim_eq_self_iff.mpr hvalue
      rw [← String.toList_ofList (l := value)] at htrim
      conv_rhs => rw [← String.toList_ofList (l := value), ← htrim]
      rfl
    rw [List.forall_mem_singleton, IsSettled, hexpand, expandRadius, if_pos hslash]
  case isFalse => exact isSettled_of_mem_expandBox (by decide) hvalue

/-! ### Borders -/

/-- All parts of a border value are as its tokens are. -/
structure BorderParts.All (P : List Char → Prop) (parts : BorderParts) : Prop where
  /-- The width. -/
  width : ∀ w ∈ parts.width, P w
  /-- The style. -/
  style : ∀ w ∈ parts.style, P w
  /-- The tokens of the colour. -/
  color : ∀ t ∈ parts.color, P t

section

variable {P : List Char → Prop} (hlower : ∀ t, P t → P (Chars.lowercase t))

include hlower

theorem BorderParts.All.add {parts : BorderParts} (h : parts.All P) {token : List Char}
    (htoken : P token) : (parts.add token).All P := by
  unfold BorderParts.add
  dsimp only
  split
  · refine { h with width := ?_ }
    rintro w hw
    obtain rfl := Option.some.inj hw
    exact htoken
  · split
    · refine { h with style := ?_ }
      rintro w hw
      obtain rfl := Option.some.inj hw
      exact hlower token htoken
    · refine { h with color := ?_ }
      rw [List.forall_mem_append, List.forall_mem_singleton]
      exact ⟨h.color, htoken⟩

theorem BorderParts.All.foldl_add {parts : BorderParts} (h : parts.All P)
    {tokens : List (List Char)} (htokens : ∀ t ∈ tokens, P t) :
    (tokens.foldl BorderParts.add parts).All P := by
  induction tokens generalizing parts with
  | nil => exact h
  | cons t rest ih =>
    obtain ⟨ht, hrest⟩ := List.forall_mem_cons.mp htokens
    exact ih (h.add hlower ht) hrest

/-- The parts of a border are tokens of its value, one of them in lowercase, and the others joined
to a colour. -/
theorem exists_of_mem_expandBorder {value : List Char}
    (htokens : ∀ t ∈ Style.splitTokens value, P t) {p : String × String}
    (hp : p ∈ expandBorder value) :
    (∃ after ∈ ["-width", "-style", "-color"], p.1 ∈ sideNames "border-" after) ∧
      ∃ v, p.2 = str v ∧ (P v ∨ ∃ tokens, (∀ t ∈ tokens, P t) ∧ v = [' '].intercalate tokens) := by
  have hparts : ((Style.splitTokens value).foldl BorderParts.add ⟨none, none, []⟩).All P :=
    BorderParts.All.foldl_add hlower ⟨by simp, by simp, by simp⟩ htokens
  unfold expandBorder at hp
  dsimp only at hp
  set parts := (Style.splitTokens value).foldl BorderParts.add ⟨none, none, []⟩
  obtain ⟨part, hpart, hp⟩ := List.mem_flatMap.mp hp
  split at hp
  case h_1 v hv =>
    obtain ⟨n, hn, rfl⟩ := List.mem_map.mp hp
    simp only [List.mem_cons, List.not_mem_nil, or_false] at hpart
    rcases hpart with rfl | rfl | rfl
    · exact ⟨⟨_, by simp, hn⟩, v, rfl, .inl (hparts.width v hv)⟩
    · exact ⟨⟨_, by simp, hn⟩, v, rfl, .inl (hparts.style v hv)⟩
    · refine ⟨⟨_, by simp, hn⟩, v, rfl, .inr ⟨parts.color, hparts.color, ?_⟩⟩
      dsimp only at hv
      split at hv
      · cases hv
      · exact (Option.some.inj hv).symm
  case h_2 => cases hp

end

theorem isSettled_of_mem_expandBorder {value : List Char} (hvalue : IsTrimmed value) :
    ∀ p ∈ expandBorder value, IsSettled p := by
  rintro ⟨name, v⟩ hp
  have hnames : ∀ after ∈ ["-width", "-style", "-color"], ∀ n ∈ sideNames "border-" after,
      IsLonghand n := by decide
  have hlower (t : List Char) (ht : IsTrimmed t ∧ t ≠ []) :
      IsTrimmed (Chars.lowercase t) ∧ Chars.lowercase t ≠ [] :=
    ⟨ht.1.lowercase, by simpa [Chars.lowercase] using ht.2⟩
  obtain ⟨⟨after, hafter, hname⟩, v, rfl, hv⟩ := exists_of_mem_expandBorder hlower
    (fun t ht => Style.isTrimmed_of_mem_splitTokens hvalue ht) hp
  refine isSettled_of_isLonghand (hnames after hafter name hname) ?_
  rcases hv with hv | ⟨tokens, htokens, rfl⟩
  · exact hv.1
  · exact Chars.isTrimmed_intercalate htokens

end Shorthand

end PageModules
