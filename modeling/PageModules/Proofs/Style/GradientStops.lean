import PageModules.Proofs.Number.Rounding
import PageModules.Style.Gradient

/-!
# The order of colour stops

A stop of a gradient stands where its percentage says; without one the first stop stands at 0 and
every other one at 100, also where further stops follow.  Percentages that lie between 0 and 100
and rise (`Gradient.Rise`) keep their order as positions, so the positions of a whole list rise
exactly if no stop without a percentage, the first one apart, stands in front of one that has a
percentage below 100 (`Gradient.pairwise_position_stopsOf_iff`).
-/

namespace PageModules.Gradient

open Text

/-! ### Percentages -/

/-- The percentage of a stop, if it has one. -/
def percentage? (piece : List Char) : Option Binary64 :=
  (stopPattern.find? piece).map fun m => ((m.group? 2).bind Binary64.ofChars?).getD .zero

/-- The percentages lie between 0 and 100 and do not decrease. -/
structure Rise (percentages : List Binary64) : Prop where
  /-- None is below 0 or above 100. -/
  bounds : ∀ x ∈ percentages, Binary64.le .zero x = true ∧ Binary64.le x (.ofInt 100) = true
  /-- None is below an earlier one. -/
  pairwise : percentages.Pairwise fun x y => Binary64.le x y = true

theorem Rise.sublist {xs ys : List Binary64} (h : Rise ys) (hsub : xs.Sublist ys) : Rise xs :=
  ⟨fun x hx => h.bounds x (hsub.subset hx), h.pairwise.sublist hsub⟩

theorem toInt64_nonneg_of_le {x : Binary64} (h : Binary64.le .zero x = true) : 0 ≤ x.toInt64 := by
  have hzero : Binary64.zero.toInt64 = 0 := by decide +kernel
  exact hzero ▸ Binary64.toInt64_le_of_le h

theorem toInt64_le_hundred_of_le {x : Binary64} (h : Binary64.le x (.ofInt 100) = true) :
    x.toInt64 ≤ 100 := by
  have hhundred : (Binary64.ofInt 100).toInt64 = 100 := by decide +kernel
  exact hhundred ▸ Binary64.toInt64_le_of_le h

/-! ### Positions -/

/-- The position of a stop without a percentage as `unmarked`. -/
def positionOf (unmarked : ℤ) (piece : List Char) : ℤ :=
  match percentage? piece with
  | some x => x.toInt64
  | none => unmarked

theorem position_stopOf (isFirst : Bool) (piece : List Char) :
    (stopOf isFirst piece).position = positionOf (if isFirst then 0 else 100) piece := by
  rw [stopOf, positionOf, percentage?]
  cases stopPattern.find? piece <;> rfl

/-- Only the first stop is read as the first one. -/
theorem map_position_zipIdx (first : List Char) (rest : List (List Char)) :
    ((first :: rest).zipIdx.map fun p => stopOf (p.2 == 0) p.1).map ColorStop.position =
      positionOf 0 first :: rest.map (positionOf 100) := by
  rw [List.zipIdx_cons, List.map_cons, List.map_cons, position_stopOf, List.map_map, Nat.zero_add]
  congr 1
  have hrest (n : ℕ) : (rest.zipIdx (n + 1)).map (fun p => (stopOf (p.2 == 0) p.1).position) =
      rest.map (positionOf 100) := by
    induction rest generalizing n with
    | nil => rfl
    | cons piece rest ih =>
      rw [List.zipIdx_cons, List.map_cons, List.map_cons, position_stopOf, ih]
      rfl
  exact hrest 0

/-- Moving the second of two stops changes nothing about their order. -/
theorem pairwise_position_spread_iff (stops : List ColorStop) :
    ((spread stops).map ColorStop.position).Pairwise (· ≤ ·) ↔
      (stops.map ColorStop.position).Pairwise (· ≤ ·) := by
  unfold spread
  split
  case h_1 a b =>
    split
    case isTrue h => simp [h.1, h.2]
    case isFalse => rfl
  case h_2 => rfl

/-- **Of two stops**, the later one, which is not the first of all, stands behind the other unless
it is below the place of one without a percentage. -/
theorem Rise.positionOf_le_positionOf_iff {p q : List Char}
    (h : Rise ([p, q].filterMap percentage?)) {unmarked : ℤ}
    (hunmarked : 0 ≤ unmarked ∧ unmarked ≤ 100) :
    positionOf unmarked p ≤ positionOf 100 q ↔
      (percentage? p = none → ∀ x ∈ percentage? q, unmarked ≤ x.toInt64) := by
  cases hp : percentage? p with
  | none =>
    cases hq : percentage? q with
    | none => simp [positionOf, hp, hq, hunmarked.2]
    | some y => simp [positionOf, hp, hq]
  | some x =>
    suffices positionOf unmarked p ≤ positionOf 100 q by simpa
    rw [positionOf, positionOf, hp]
    cases hq : percentage? q with
    | none =>
      have hx := h.bounds x (by simp [hp])
      exact toInt64_le_hundred_of_le hx.2
    | some y =>
      have hxy : Binary64.le x y = true := by simpa [hp, hq] using h.pairwise
      exact Binary64.toInt64_le_of_le hxy

/-- **The positions of rising percentages rise** exactly if a stop without a percentage stands only
in front of stops at 100; the first stop may stand in front of all. -/
theorem pairwise_position_stopsOf_iff (s : List Char)
    (h : Rise ((stopPieces s).filterMap percentage?)) :
    ((stopsOf s).map ColorStop.position).Pairwise (· ≤ ·) ↔
      (stopPieces s).tail.Pairwise fun p q =>
        percentage? p = none → ∀ x ∈ percentage? q, x.toInt64 = 100 := by
  rw [stopsOf, pairwise_position_spread_iff]
  cases hpieces : stopPieces s with
  | nil => exact ⟨fun _ => List.Pairwise.nil, fun _ => List.Pairwise.nil⟩
  | cons first rest =>
    rw [hpieces] at h
    have hpairs : (first :: rest).Pairwise fun p q => Rise ([p, q].filterMap percentage?) :=
      List.pairwise_iff_forall_sublist.mpr fun hsub => h.sublist (hsub.filterMap percentage?)
    obtain ⟨hfirst, hrest⟩ := List.pairwise_cons.mp hpairs
    have hzero : ∀ q ∈ rest, positionOf 0 first ≤ positionOf 100 q := fun q hq => by
      rw [(hfirst q hq).positionOf_le_positionOf_iff (by decide)]
      intro _ x hx
      exact toInt64_nonneg_of_le ((hfirst q hq).bounds x (by simpa using .inr hx)).1
    have hhundred : ∀ p q, Rise ([p, q].filterMap percentage?) →
        (positionOf 100 p ≤ positionOf 100 q ↔
          (percentage? p = none → ∀ x ∈ percentage? q, x.toInt64 = 100)) := by
      intro p q hpq
      rw [hpq.positionOf_le_positionOf_iff (by decide)]
      refine forall_congr' fun _ => forall₂_congr fun x hx => ?_
      have hx := toInt64_le_hundred_of_le (hpq.bounds x (by simpa using .inr hx)).2
      exact ⟨fun hge => le_antisymm hx hge, fun heq => heq.ge⟩
    rw [map_position_zipIdx, List.pairwise_cons, List.forall_mem_map, List.pairwise_map,
      List.tail_cons]
    constructor
    · exact fun hpositions => hrest.imp₂ (fun p q hpq => (hhundred p q hpq).mp) hpositions.2
    · exact fun hpieces => ⟨hzero, hrest.imp₂ (fun p q hpq => (hhundred p q hpq).mpr) hpieces⟩

/-- A stop without a percentage stands in front of the one at the end. -/
theorem pairwise_position_stopsOf_plainMiddle :
    Rise ((stopPieces "red 10%, white, blue 100%".toList).filterMap percentage?) ∧
      ((stopsOf "red 10%, white, blue 100%".toList).map ColorStop.position).Pairwise (· ≤ ·) := by
  have h : Rise ((stopPieces "red 10%, white, blue 100%".toList).filterMap percentage?) :=
    ⟨by decide +kernel, by decide +kernel⟩
  exact ⟨h, (pairwise_position_stopsOf_iff _ h).mpr (by decide +kernel)⟩

/-- A stop without a percentage stands in front of one at 50. -/
theorem not_pairwise_position_stopsOf_plainMiddle :
    Rise ((stopPieces "red, blue, green 50%".toList).filterMap percentage?) ∧
      ¬((stopsOf "red, blue, green 50%".toList).map ColorStop.position).Pairwise (· ≤ ·) :=
  ⟨⟨by decide +kernel, by decide +kernel⟩, by decide +kernel⟩

end PageModules.Gradient
