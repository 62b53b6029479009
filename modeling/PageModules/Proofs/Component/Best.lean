import PageModules.Proofs.Component.Confidence

/-!
# The best pattern

The pattern that wins is the first one with the greatest weighted score, of those that have points
(`ComponentPattern.best?_eq_argmax`).  So an element is recognized as soon as one pattern has
points, and as the component of the pattern that wins (`Element.recognize?_first_greatest`).

The tag of a form is enough for the pattern of contact forms, so a form is always recognized as a
component; and since this pattern is the last one, which loses every tie, a form is a contact form
just if it outweighs all other patterns (`Element.recognize?_of_form`).
-/

namespace PageModules

namespace ComponentPattern

/-! ### Weighted scores -/

theorem weighted_of_score_eq_zero {p : ComponentPattern} {e : Element} (h : p.score e = 0) :
    p.weighted e = 0 := by
  rw [weighted, weigh, h, UInt32.zero_mul]

theorem candidates_eq (e : Element) :
    candidates e = (all.filter fun p => p.score e ≠ 0).map fun p => (p, p.score e) := by
  rw [candidates, List.filter_map]
  rfl

theorem foldl_better_map (e : Element) (ps : List ComponentPattern) :
    (ps.map fun p => (p, p.score e)).foldl better none =
      (ps.argmax fun p => (p.weighted e).toNat).map fun p => (p, p.score e) := by
  induction ps using List.reverseRecOn with
  | nil => rfl
  | append_singleton ps p ih =>
    rw [List.map_append, List.foldl_append, ih, List.argmax_concat]
    cases ps.argmax fun p => (p.weighted e).toNat with
    | none => rfl
    | some b =>
      have hbetter : better (some (b, b.score e)) (p, p.score e) =
          if b.weighted e < p.weighted e then some (p, p.score e) else some (b, b.score e) := rfl
      rw [List.map_singleton, List.foldl_cons, List.foldl_nil, Option.map_some, hbetter]
      by_cases hlt : b.weighted e < p.weighted e
      · simp only [if_pos hlt, if_pos (UInt32.lt_iff_toNat_lt.mp hlt), Option.map_some]
      · simp only [if_neg hlt, if_neg (mt UInt32.lt_iff_toNat_lt.mpr hlt), Option.map_some]

/-- **The best pattern** is the first one with the greatest weighted score, of those that have
points. -/
theorem best?_eq_argmax (e : Element) : best? e =
    ((all.filter fun p => p.score e ≠ 0).argmax fun p => (p.weighted e).toNat).map
      fun p => (p, p.score e) := by
  rw [best?, candidates_eq, foldl_better_map]

/-! ### The winner -/

/-- The pattern has points and the greatest weighted score, and it is the first one like that. -/
structure Wins (p : ComponentPattern) (e : Element) : Prop where
  /-- It has points. -/
  score_ne_zero : p.score e ≠ 0
  /-- No pattern weighs more. -/
  weighted_le : ∀ q ∈ all, q.weighted e ≤ p.weighted e
  /-- The patterns in front of it that have points weigh less. -/
  first : ∃ front back, all = front ++ p :: back ∧
    ∀ q ∈ front, q.score e ≠ 0 → q.weighted e < p.weighted e

theorem Wins.mem {p : ComponentPattern} {e : Element} (h : p.Wins e) : p ∈ all := by
  obtain ⟨front, back, hall, -⟩ := h.first
  rw [hall]
  exact List.mem_append_right _ List.mem_cons_self

theorem wins_iff_mem_argmax {p : ComponentPattern} {e : Element} :
    p.Wins e ↔ p ∈ (all.filter fun q => q.score e ≠ 0).argmax fun q => (q.weighted e).toNat := by
  rw [Lists.mem_argmax_filter_iff]
  simp only [decide_eq_true_eq, ← UInt32.lt_iff_toNat_lt, ← UInt32.le_iff_toNat_le]
  constructor
  · exact fun h => ⟨h.score_ne_zero, fun q hq _ => h.weighted_le q hq, h.first⟩
  · rintro ⟨hne, hle, hfirst⟩
    refine ⟨hne, fun q hq => ?_, hfirst⟩
    by_cases hscore : q.score e = 0
    · rw [weighted_of_score_eq_zero hscore, UInt32.le_iff_toNat_le, UInt32.toNat_zero]
      exact Nat.zero_le _
    · exact hle q hq hscore

theorem best?_eq_some_iff {e : Element} {c : ComponentPattern × UInt32} :
    best? e = some c ↔ c.1.Wins e ∧ c.2 = c.1.score e := by
  rw [best?_eq_argmax, Option.map_eq_some_iff]
  constructor
  · rintro ⟨p, hp, rfl⟩
    exact ⟨wins_iff_mem_argmax.mpr hp, rfl⟩
  · rintro ⟨hwins, hscore⟩
    exact ⟨c.1, wins_iff_mem_argmax.mp hwins, by rw [← hscore]⟩

theorem best?_eq_none_iff {e : Element} : best? e = none ↔ ∀ p ∈ all, p.score e = 0 := by
  rw [best?_eq_argmax, Option.map_eq_none_iff, List.argmax_eq_none, List.filter_eq_nil_iff]
  simp only [decide_eq_true_eq, not_not]

/-! ### Vetoes -/

/-- The tag that the pattern requires is not that of the element. -/
def MissesTag (p : ComponentPattern) (e : Element) : Prop :=
  ∃ tag, p.tag = some tag ∧ e.isNamed tag = false

/-- The children that the pattern requires give no points. -/
def MissesChildren (p : ComponentPattern) (e : Element) : Prop :=
  ∃ rule least, p.children = some rule ∧ p.requiredChildren = some least ∧ rule.score e least = 0

variable {p : ComponentPattern} {e : Element}

theorem score_of_missesTag (h : p.MissesTag e) : p.score e = 0 := by
  obtain ⟨tag, htag, hname⟩ := h
  have hvetoed : p.isVetoed e = true := by simp [isVetoed, htag, hname]
  rw [score, if_pos hvetoed]

theorem score_of_missesChildren (h : p.MissesChildren e) : p.score e = 0 := by
  obtain ⟨rule, least, hrule, hleast, hzero⟩ := h
  have hvetoed : p.isVetoed e = true := by simp [isVetoed, childrenScore, hrule, hleast, hzero]
  rw [score, if_pos hvetoed]

end ComponentPattern

namespace Element

open ComponentPattern

variable {e : Element}

/-! ### Recognized elements -/

/-- The component that is recognized is that of the pattern that wins. -/
theorem recognize?_eq_some_iff {r : Recognition} : e.recognize? = some r ↔
    ∃ p : ComponentPattern, p.Wins e ∧
      r = ⟨p.type, min 100 (p.weighted e), .ofElement e p.type⟩ := by
  rw [recognize?, Option.map_eq_some_iff]
  constructor
  · rintro ⟨⟨p, score⟩, hbest, rfl⟩
    obtain ⟨hwins, hscore⟩ := best?_eq_some_iff.mp hbest
    obtain rfl : score = p.score e := hscore
    exact ⟨p, hwins, rfl⟩
  · rintro ⟨p, hwins, rfl⟩
    exact ⟨(p, p.score e), best?_eq_some_iff.mpr ⟨hwins, rfl⟩, rfl⟩

theorem recognize?_eq_none_iff : e.recognize? = none ↔ ∀ p ∈ all, p.score e = 0 := by
  rw [recognize?, Option.map_eq_none_iff, best?_eq_none_iff]

/-- **The first of the heaviest patterns is recognized.**  An element is no component exactly if no
pattern has points.  Otherwise the pattern with the greatest weighted score is recognized, the
earliest of several, with that score up to 100 as the confidence and with the contents for its type.
A pattern whose tag or whose children are missing is never the one that is recognized.  As long as
they fit in 32 bits, the weighted scores are the products of the weights and the points. -/
theorem recognize?_first_greatest (e : Element) :
    (e.recognize? = none ↔ ∀ p ∈ all, p.score e = 0) ∧
    (∀ r, e.recognize? = some r ↔ ∃ p : ComponentPattern, p.Wins e ∧
      r = ⟨p.type, min 100 (p.weighted e), .ofElement e p.type⟩) ∧
    (∀ q ∈ all, q.MissesTag e ∨ q.MissesChildren e →
      ∀ r, e.recognize? = some r → r.type ≠ q.type) ∧
    (e.ScoresFit → ∀ p ∈ all, (p.score e).toNat = p.points e ∧
      (p.weighted e).toNat = p.weight.toNat * p.points e) := by
  refine ⟨recognize?_eq_none_iff, fun r => recognize?_eq_some_iff,
    fun q hq hmisses r hr htype => ?_, fun hfit p hp => toNat_weighted hp (hfit p hp)⟩
  obtain ⟨p, hwins, rfl⟩ := recognize?_eq_some_iff.mp hr
  have hsame : p = q := eq_of_type_eq hwins.mem hq htype
  have hzero : q.score e = 0 := hmisses.elim score_of_missesTag score_of_missesChildren
  exact hwins.score_ne_zero (hsame ▸ hzero)

/-- A pattern of the type has a greater weighted score than all patterns of other types. -/
def Outweighs (e : Element) (type : ModuleType) : Prop :=
  ∃ p ∈ all, p.type = type ∧ ∀ q ∈ all, q.type ≠ type → q.weighted e < p.weighted e

/-! ### Forms -/

/-- The pattern of contact forms is the last one, and the only one for its type. -/
theorem exists_all_eq_append_contactForm : ∃ others p, all = others ++ [p] ∧
    p.type = .contactForm ∧ (∀ q ∈ others, q.type ≠ .contactForm) ∧
    p.tag = some "form" ∧ p.children = none :=
  ⟨all.dropLast, all.getLast (by decide), (List.dropLast_append_getLast _).symm, by decide,
    by decide, by decide, by decide⟩

/-- **A form is always recognized as a component**, with the greatest confidence, and as a contact
form just if the pattern of contact forms outweighs all others. -/
theorem recognize?_of_form (hform : e.isNamed "form" = true) :
    ∃ r, e.recognize? = some r ∧ r.confidence = 100 ∧
      (r.type = .contactForm ↔ e.Outweighs .contactForm) := by
  obtain ⟨others, p, hall, htype, hothers, htag, hchildren⟩ := exists_all_eq_append_contactForm
  have hp : p ∈ all := by
    rw [hall]
    exact List.mem_append_right _ (List.mem_singleton_self p)
  -- The pattern has few points, so its weighted score fits whatever stands inside of the form.
  obtain ⟨-, hweight, -⟩ := bounds_of_mem_all hp
  have hle := points_le_of_children_eq_none hp e hchildren
  have hfits : p.weight.toNat * p.points e < 2 ^ 32 :=
    (Nat.mul_le_mul hweight hle).trans_lt (by decide)
  obtain ⟨hscore, -⟩ := toNat_weighted hp hfits
  have hpoints : p.points e ≠ 0 := by
    unfold points ownPoints
    rw [htag, hchildren]
    simp [hform]
  have hne : p.score e ≠ 0 := by
    rw [ne_eq, ← UInt32.toNat_inj, hscore]
    exact hpoints
  have hhundred := hundred_le_weighted hp hfits hne
  have hsome : e.recognize? ≠ none := fun hnone => hne (recognize?_eq_none_iff.mp hnone p hp)
  obtain ⟨r, hr⟩ := Option.ne_none_iff_exists'.mp hsome
  obtain ⟨q, hwins, rfl⟩ := recognize?_eq_some_iff.mp hr
  have hpq := UInt32.le_iff_toNat_le.mp (hwins.weighted_le p hp)
  refine ⟨_, hr, Nat.min_eq_left (by omega), fun hqtype => ?_, fun ⟨p', hp', hptype, hless⟩ => ?_⟩
  · obtain rfl : q = p := eq_of_type_eq hwins.mem hp (hqtype.trans htype.symm)
    refine ⟨q, hp, htype, fun q' hq' hne' => ?_⟩
    -- It is the last pattern, so all others stand in front of it.
    obtain ⟨front, back, hsplit, hfront⟩ := hwins.first
    by_cases hzero : q'.score e = 0
    · rw [weighted_of_score_eq_zero hzero, UInt32.lt_iff_toNat_lt, UInt32.toNat_zero]
      omega
    · have hnot : q ∉ others := fun hmem => hothers q hmem htype
      obtain ⟨rfl, -, -⟩ := (List.append_cons_inj_of_notMem hnot List.not_mem_nil).mp
        (hall.symm.trans hsplit)
      rw [hall, List.mem_append, List.mem_singleton] at hq'
      exact hfront q' (hq'.resolve_right fun h => hne' (h ▸ htype)) hzero
  · by_contra hqtype
    have hlt := UInt32.lt_iff_toNat_lt.mp (hless q hwins.mem hqtype)
    have hle := UInt32.le_iff_toNat_le.mp (hwins.weighted_le p' hp')
    omega

end Element

end PageModules
