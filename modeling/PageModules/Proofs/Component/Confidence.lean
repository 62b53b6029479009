import PageModules.Proofs.Component.Recognition
import PageModules.Proofs.Lists

/-!
# Recognitions are sure

Scores are numbers of 32 bits.  `ComponentPattern.points` is what a score is without this limit, and
as long as all of these, times their weights, fit in 32 bits (`Element.ScoresFit`) the scores are
the same numbers (`ComponentPattern.toNat_weighted`).  They do unless there are more than eight
million elements below (`Element.scoresFit_of_length_le`).

A condition gives no points or at least five of them, and so does every sum of them
(`ComponentPattern.isGrade_points`).  Every pattern has a weight of at least seventy, so what is
recognized at all is recognized with the greatest confidence
(`Element.confidence_of_recognize?`).
-/

namespace PageModules

/-! ### Points -/

/-- Points that conditions give: none, or at least five. -/
def IsGrade (n : ℕ) : Prop := n = 0 ∨ 5 ≤ n

instance (n : ℕ) : Decidable (IsGrade n) := inferInstanceAs (Decidable (n = 0 ∨ 5 ≤ n))

namespace IsGrade

theorem zero : IsGrade 0 := Or.inl rfl

theorem of_le {n : ℕ} (h : 5 ≤ n) : IsGrade n := Or.inr h

theorem add {m n : ℕ} (hm : IsGrade m) (hn : IsGrade n) : IsGrade (m + n) := by
  unfold IsGrade at *
  omega

theorem ite {c : Prop} [Decidable c] {m n : ℕ} (hm : IsGrade m) (hn : IsGrade n) :
    IsGrade (if c then m else n) := by
  split
  · exact hm
  · exact hn

theorem sum_map {α : Type} {f : α → ℕ} {l : List α} (h : ∀ a ∈ l, IsGrade (f a)) :
    IsGrade (l.map f).sum := by
  induction l with
  | nil => exact zero
  | cons a rest ih =>
    obtain ⟨ha, hrest⟩ := List.forall_mem_cons.mp h
    rw [List.map_cons, List.sum_cons]
    exact ha.add (ih hrest)

end IsGrade

theorem sum_map_le {α : Type} {f : α → ℕ} {most : ℕ} (h : ∀ a, f a ≤ most) (l : List α) :
    (l.map f).sum ≤ most * l.length := by
  induction l with
  | nil => exact Nat.zero_le _
  | cons a rest ih =>
    have ha := h a
    rw [List.map_cons, List.sum_cons, List.length_cons, Nat.mul_succ]
    omega

/-- A check gives no points or from five to twenty-five of them. -/
theorem ComponentCheck.isGrade_score (e : Element) (check : ComponentCheck) :
    IsGrade (check.score e) ∧ (check.score e : ℕ) ≤ 25 := by
  cases check <;> simp only [score, points] <;> split_ifs <;> decide

namespace ChildrenRule

/-! ### Children that are counted -/

/-- What a rule counts. -/
def counted (e : Element) : ChildrenRule → List Element
  | repeated classes => e.repeatedChildren classes
  | headedItems => e.childElements.filter (·.accordionParts?.isSome)
  | pictures _ => e.descendants.filter (·.isOneOf ["img"])
  | cards => e.childElements.filter (·.isCard)

/-- How many of them a rule asks for; only that for repeated children leaves it open. -/
def required (least : ℕ) : ChildrenRule → ℕ
  | repeated _ => least
  | headedItems => 1
  | pictures least => least
  | cards => 2

/-- The points that a rule gives if there are enough children. -/
def pointsForAll : ChildrenRule → ℕ
  | repeated _ => 20
  | headedItems => 25
  | pictures _ => 20
  | cards => 15

/-- The points that a rule gives for each of the children that it counts. -/
def pointsForEach : ChildrenRule → ℕ
  | repeated _ => 3
  | headedItems => 5
  | pictures _ => 2
  | cards => 3

/-- The points that the children give, however many they are. -/
def points (e : Element) (least : ℕ) (rule : ChildrenRule) : ℕ :=
  if rule.required least ≤ (rule.counted e).length then
    rule.pointsForAll + rule.pointsForEach * (rule.counted e).length
  else 0

/-- As long as they fit, the points of the children are their score. -/
theorem toNat_score {rule : ChildrenRule} {e : Element} {least : ℕ}
    (h : rule.points e least < 2 ^ 32) : (rule.score e least).toNat = rule.points e least := by
  unfold points at h ⊢
  by_cases hle : rule.required least ≤ (rule.counted e).length
  · rw [if_pos hle] at h ⊢
    -- For each rule both sides are a sum of numerals and a multiple of one length.
    cases rule <;>
      simp only [required, counted, pointsForAll, pointsForEach, score, Element.countDescendants,
        List.countP_eq_length_filter, UInt32.le_iff_toNat_le, UInt32.toNat_ofNat',
        UInt32.reduceToNat] at hle h ⊢ <;>
      rw [if_pos (by omega), UInt32.toNat_add, UInt32.toNat_mul, UInt32.toNat_ofNat'] <;>
      simp only [UInt32.reduceToNat] <;>
      omega
  · rw [if_neg hle]
    cases rule <;>
      simp only [required, counted, score, Element.countDescendants,
        List.countP_eq_length_filter, UInt32.le_iff_toNat_le, UInt32.toNat_ofNat',
        UInt32.reduceToNat] at hle ⊢ <;>
      rw [if_neg (by omega), UInt32.toNat_zero]

/-- A rule gives points where there are as many children as it asks for. -/
theorem required_le_of_score_ne_zero {rule : ChildrenRule} {e : Element} {least : ℕ}
    (h : rule.score e least ≠ 0) : rule.required least ≤ (rule.counted e).length := by
  cases rule <;>
    simp only [score, required, counted, Element.countDescendants, List.countP_eq_length_filter,
      UInt32.le_iff_toNat_le, UInt32.toNat_ofNat', UInt32.reduceToNat, ne_eq, ite_eq_right_iff,
      not_forall] at h ⊢ <;>
    obtain ⟨hle, -⟩ := h <;>
    omega

theorem isGrade_points (e : Element) (least : ℕ) (rule : ChildrenRule) :
    IsGrade (rule.points e least) := by
  have hfive : 5 ≤ rule.pointsForAll := by cases rule <;> simp [pointsForAll]
  exact .ite (.of_le (by omega)) .zero

end ChildrenRule

/-! ### Numbers of children -/

theorem Node.length_filterMap_element?_le (ns : List Node) :
    (ns.filterMap element?).length ≤ (elementsAll ns).length := by
  induction ns with
  | nil => exact Nat.le_refl 0
  | cons n rest ih =>
    rw [elementsAll, List.length_append]
    cases n with
    | element tag children =>
      have hpos : 1 ≤ (Node.element tag children).elements.length := Nat.le_add_left 1 _
      simp only [List.filterMap_cons, element?, List.length_cons]
      omega
    | _ => exact Nat.le_trans ih (Nat.le_add_left _ _)

/-- The children of an element are some of those below. -/
theorem Element.length_childElements_le (e : Element) :
    e.childElements.length ≤ e.descendants.length :=
  Node.length_filterMap_element?_le e.children

/-- A rule counts some of the elements below. -/
theorem ChildrenRule.length_counted_le (e : Element) (rule : ChildrenRule) :
    (rule.counted e).length ≤ e.descendants.length := by
  cases rule with
  | pictures least => exact List.length_filter_le _ _
  | _ => exact (List.length_filter_le _ _).trans e.length_childElements_le

theorem ChildrenRule.points_le (e : Element) (least : ℕ) (rule : ChildrenRule) :
    rule.points e least ≤ 25 + 5 * e.descendants.length := by
  have hall : rule.pointsForAll ≤ 25 := by cases rule <;> simp [pointsForAll]
  have heach : rule.pointsForEach ≤ 5 := by cases rule <;> simp [pointsForEach]
  have hproduct : rule.pointsForEach * (rule.counted e).length ≤ 5 * e.descendants.length :=
    Nat.mul_le_mul heach (rule.length_counted_le e)
  unfold points
  split <;> omega

namespace ComponentPattern

/-! ### Scores without a limit -/

/-- The points for the tag, the classes, the attributes and what stands below. -/
def ownPoints (p : ComponentPattern) (e : Element) : ℕ :=
  (if p.tag.isSome then 20 else 0) + (p.classScore e).toNat +
    (p.attrs.map fun attr => (attrScore e attr).toNat).sum +
    (p.checks.map fun check => (check.score e).toNat).sum

/-- The points for the children. -/
def childrenPoints (p : ComponentPattern) (e : Element) : ℕ :=
  match p.children with
  | some rule => rule.points e (p.requiredChildren.getD 2)
  | none => 0

/-- What the score of a pattern is without a limit of size. -/
def points (p : ComponentPattern) (e : Element) : ℕ :=
  if p.tag.any (fun t => !e.isNamed t) ||
      (p.requiredChildren.isSome && p.children.isSome && p.childrenPoints e = 0) then 0
  else p.ownPoints e + p.childrenPoints e

/-- The score of a pattern times its weight. -/
def weighted (p : ComponentPattern) (e : Element) : UInt32 := p.weigh (p.score e)

theorem isGrade_attrScore (e : Element) (attr : String × Option String) :
    IsGrade (attrScore e attr) ∧ (attrScore e attr : ℕ) ≤ 15 := by
  obtain ⟨name, value⟩ := attr
  cases value <;> simp only [attrScore, ComponentCheck.points] <;> split_ifs <;> decide

theorem isGrade_classScore (p : ComponentPattern) (hp : p.classes.length ≤ 7) (e : Element) :
    IsGrade (p.classScore e) ∧ (p.classScore e : ℕ) ≤ 65 := by
  have hn := List.countP_le_length (p := e.classes.contains) (l := p.classes)
  have hscore : (p.classScore e).toNat =
      if 0 < p.classes.countP e.classes.contains then 30 + 5 * p.classes.countP e.classes.contains
      else 0 := by
    simp only [classScore, UInt32.lt_iff_toNat_lt, UInt32.toNat_ofNat', UInt32.reduceToNat]
    split_ifs <;>
      simp only [UInt32.toNat_add, UInt32.toNat_mul, UInt32.toNat_ofNat', UInt32.reduceToNat] <;>
      omega
  rw [hscore]
  unfold IsGrade
  split <;> omega

/-- No pattern is large: it has a weight from seventy to a hundred and a few things that speak for
it. -/
theorem bounds_of_mem_all {p : ComponentPattern} (h : p ∈ all) :
    70 ≤ (p.weight : ℕ) ∧ (p.weight : ℕ) ≤ 100 ∧ p.classes.length ≤ 7 ∧ p.attrs.length ≤ 5 ∧
      p.checks.length ≤ 3 := by
  have hall : ∀ q ∈ all, 70 ≤ (q.weight : ℕ) ∧ (q.weight : ℕ) ≤ 100 ∧ q.classes.length ≤ 7 ∧
      q.attrs.length ≤ 5 ∧ q.checks.length ≤ 3 := by decide
  exact hall p h

section

variable {p : ComponentPattern} (hp : p ∈ all) (e : Element)

include hp

theorem isGrade_ownPoints : IsGrade (p.ownPoints e) := by
  obtain ⟨-, -, hclasses, -, -⟩ := bounds_of_mem_all hp
  have htag : IsGrade (if p.tag.isSome then 20 else 0) := .ite (.of_le (by decide)) .zero
  have hattrs := IsGrade.sum_map fun attr (_ : attr ∈ p.attrs) => (isGrade_attrScore e attr).1
  have hchecks := IsGrade.sum_map fun check (_ : check ∈ p.checks) => (check.isGrade_score e).1
  exact ((htag.add (p.isGrade_classScore hclasses e).1).add hattrs).add hchecks

theorem ownPoints_le : p.ownPoints e ≤ 235 := by
  obtain ⟨-, -, hclasses, hattrs, hchecks⟩ := bounds_of_mem_all hp
  have hclassScore := (p.isGrade_classScore hclasses e).2
  have hattrScore := sum_map_le (fun attr => (isGrade_attrScore e attr).2) p.attrs
  have hcheckScore := sum_map_le (fun check => (check.isGrade_score e).2) p.checks
  unfold ownPoints
  split <;> omega

/-- **What speaks for a pattern gives nothing or at least five points.** -/
theorem isGrade_points : IsGrade (p.points e) := by
  have hchildren : IsGrade (p.childrenPoints e) := by
    unfold childrenPoints
    split
    · exact ChildrenRule.isGrade_points e _ _
    · exact .zero
  exact .ite .zero ((isGrade_ownPoints hp e).add hchildren)

theorem points_le : p.points e ≤ 260 + 5 * e.descendants.length := by
  have hown := ownPoints_le hp e
  have hchildren : p.childrenPoints e ≤ 25 + 5 * e.descendants.length := by
    unfold childrenPoints
    split
    · exact ChildrenRule.points_le e _ _
    · exact Nat.zero_le _
  unfold points
  split <;> omega

/-- A pattern without a rule for the children has few points. -/
theorem points_le_of_children_eq_none (hnone : p.children = none) : p.points e ≤ 235 := by
  have hown := ownPoints_le hp e
  have hchildren : p.childrenPoints e = 0 := by rw [childrenPoints, hnone]
  unfold points
  split <;> omega

end

/-! ### Scores that fit -/

theorem toNat_childrenScore {p : ComponentPattern} {e : Element}
    (h : p.childrenPoints e < 2 ^ 32) : (p.childrenScore e).toNat = p.childrenPoints e := by
  rw [childrenPoints] at h ⊢
  rw [childrenScore]
  cases hrule : p.children with
  | some rule =>
    rw [hrule] at h
    exact ChildrenRule.toNat_score h
  | none => rfl

/-- As long as they fit, the points of a pattern are its score. -/
theorem toNat_score {p : ComponentPattern} {e : Element} (h : p.points e < 2 ^ 32) :
    (p.score e).toNat = p.points e := by
  unfold points at h ⊢
  by_cases htag : p.tag.any (fun t => !e.isNamed t) = true
  · simp [score, isVetoed, htag]
  · rw [Bool.not_eq_true] at htag
    rw [htag, Bool.false_or] at h ⊢
    have hchildren : (p.childrenScore e).toNat = p.childrenPoints e := by
      apply toNat_childrenScore
      split at h
      case isTrue hmissing =>
        have hzero : p.childrenPoints e = 0 := by simp_all
        omega
      case isFalse => omega
    have hzero : p.childrenScore e = 0 ↔ p.childrenPoints e = 0 := by
      rw [← hchildren, ← UInt32.toNat_inj, UInt32.toNat_zero]
    have hvetoed : p.isVetoed e =
        (p.requiredChildren.isSome && p.children.isSome && p.childrenPoints e = 0) := by
      rw [isVetoed, htag, Bool.false_or]
      simp only [hzero]
    rw [score, hvetoed]
    split at h
    case isTrue hmissing => rw [if_pos hmissing, if_pos hmissing, UInt32.toNat_zero]
    case isFalse hmissing =>
      rw [if_neg hmissing, if_neg hmissing]
      unfold ownPoints at h ⊢
      -- Each sum on the way is at most the whole one, so it fits as well.
      have htag : (if p.tag.isSome then (20 : UInt32) else 0).toNat =
          if p.tag.isSome then 20 else 0 := by split <;> rfl
      have hown : ((if p.tag.isSome then (20 : UInt32) else 0) + p.classScore e).toNat =
          (if p.tag.isSome then 20 else 0) + (p.classScore e).toNat := by
        rw [UInt32.toNat_add, htag, Nat.mod_eq_of_lt (by omega)]
      have hattrs := Lists.toNat_foldl_add (f := attrScore e) (l := p.attrs)
        (n := (if p.tag.isSome then 20 else 0) + p.classScore e) (by rw [hown]; omega)
      rw [hown] at hattrs
      set withAttrs := p.attrs.foldl (fun n attr => n + attrScore e attr)
        ((if p.tag.isSome then 20 else 0) + p.classScore e)
      have hwith : (withAttrs + p.childrenScore e).toNat =
          withAttrs.toNat + p.childrenPoints e := by
        rw [UInt32.toNat_add, hchildren, Nat.mod_eq_of_lt (by omega)]
      have hchecks := Lists.toNat_foldl_add (f := (ComponentCheck.score e)) (l := p.checks)
        (n := withAttrs + p.childrenScore e) (by rw [hwith]; omega)
      dsimp only
      rw [hchecks, hwith, hattrs]
      omega

/-- As long as it fits, a weighted score is the product of the weight and the points. -/
theorem toNat_weighted {p : ComponentPattern} (hp : p ∈ all) {e : Element}
    (h : p.weight.toNat * p.points e < 2 ^ 32) :
    (p.score e).toNat = p.points e ∧ (p.weighted e).toNat = p.weight.toNat * p.points e := by
  obtain ⟨hweight, -⟩ := bounds_of_mem_all hp
  have hle : 1 * p.points e ≤ p.weight.toNat * p.points e :=
    Nat.mul_le_mul_right _ (by omega)
  have hscore := toNat_score (p := p) (e := e) (by omega)
  refine ⟨hscore, ?_⟩
  rw [weighted, weigh, UInt32.toNat_mul, hscore, Nat.mul_comm, Nat.mod_eq_of_lt h]

/-- The best pattern of an element has points. -/
theorem score_of_best? {e : Element} {c : ComponentPattern × UInt32} (h : best? e = some c) :
    c.2 = c.1.score e ∧ c.2 ≠ 0 := by
  rcases mem_of_foldl_better h with hc | hc
  · obtain ⟨hmem, hne⟩ := List.mem_filter.mp hc
    obtain ⟨p, -, rfl⟩ := List.mem_map.mp hmem
    exact ⟨rfl, of_decide_eq_true hne⟩
  · cases hc

end ComponentPattern

namespace Element

open ComponentPattern

/-- All weighted scores of an element are numbers of 32 bits. -/
def ScoresFit (e : Element) : Prop := ∀ p ∈ all, p.weight.toNat * p.points e < 2 ^ 32

/-- **Weighted scores fit in 32 bits**, unless there are more than eight million elements below. -/
theorem scoresFit_of_length_le {e : Element} (h : e.descendants.length ≤ 8000000) :
    e.ScoresFit := by
  intro p hp
  obtain ⟨-, hweight, -⟩ := bounds_of_mem_all hp
  have hpoints := points_le hp e
  calc p.weight.toNat * p.points e
    _ ≤ 100 * (260 + 5 * 8000000) := Nat.mul_le_mul hweight (by omega)
    _ < 2 ^ 32 := by decide

/-- A weighted score that fits is nothing or more than a hundred. -/
theorem hundred_le_weighted {e : Element} {p : ComponentPattern} (hp : p ∈ all)
    (h : p.weight.toNat * p.points e < 2 ^ 32) (hscore : p.score e ≠ 0) :
    100 ≤ (p.weighted e).toNat := by
  obtain ⟨hweight, -⟩ := bounds_of_mem_all hp
  obtain ⟨hpoints, hweighted⟩ := toNat_weighted hp h
  have hfive : 5 ≤ p.points e := by
    refine (isGrade_points hp e).resolve_left fun hzero => hscore ?_
    rw [← UInt32.toNat_inj, hpoints, hzero, UInt32.toNat_zero]
  have hproduct : 70 * 5 ≤ p.weight.toNat * p.points e := Nat.mul_le_mul hweight hfive
  omega

/-- **A recognition is sure**: where the scores fit, what is recognized at all has the greatest
confidence. -/
theorem confidence_of_recognize? {e : Element} (hfit : e.ScoresFit) {r : Recognition}
    (h : e.recognize? = some r) : r.confidence = 100 := by
  obtain ⟨⟨p, score⟩, hbest, rfl⟩ := Option.map_eq_some_iff.mp h
  obtain ⟨hscore, hne⟩ := score_of_best? hbest
  have hp : p ∈ all := mem_all_of_best? hbest
  obtain rfl : score = p.score e := hscore
  exact Nat.min_eq_left (hundred_le_weighted hp (hfit p hp) hne)

/-- No recognition has more than the greatest confidence. -/
theorem confidence_le_of_recognize? {e : Element} {r : Recognition}
    (h : e.recognize? = some r) : r.confidence ≤ 100 := by
  obtain ⟨c, -, rfl⟩ := Option.map_eq_some_iff.mp h
  exact Nat.min_le_left _ _

end Element

end PageModules
