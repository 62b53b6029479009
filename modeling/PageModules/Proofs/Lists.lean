import Mathlib.Algebra.GroupWithZero.Nat
import Mathlib.Data.List.DropRight
import Mathlib.Data.List.MinMax

/-!
# Lists

What the other modules need to know of lists in general: searches and filters of lists that are put
together of pieces, lists that are related place by place, sums of numbers of 32 bits, and the first
greatest of a list.
-/

namespace PageModules.Lists

variable {α β γ : Type}

/-! ### Pieces -/

theorem findSome?_flatMap (l : List α) (f : α → List β) (g : β → Option γ) :
    (l.flatMap f).findSome? g = l.findSome? fun a => (f a).findSome? g := by
  induction l with
  | nil => rfl
  | cons a l ih =>
    rw [List.flatMap_cons, List.findSome?_append, ih, List.findSome?_cons]
    cases (f a).findSome? g <;> rfl

/-- What gives nothing may be left out. -/
theorem flatMap_filter_of_forall (l : List α) (f : α → List β) {keep : α → Bool}
    (h : ∀ a ∈ l, keep a = false → f a = []) : (l.filter keep).flatMap f = l.flatMap f := by
  induction l with
  | nil => rfl
  | cons a l ih =>
    obtain ⟨ha, hl⟩ := List.forall_mem_cons.mp h
    rw [List.flatMap_cons, ← ih hl, List.filter_cons]
    split
    case isTrue => rw [List.flatMap_cons]
    case isFalse hkeep => rw [ha (Bool.eq_false_iff.mpr hkeep), List.nil_append]

/-- Behind the first piece stand the separator and the others. -/
theorem intercalate_cons {rest : List (List α)} (h : rest ≠ []) (a : α) (piece : List α) :
    [a].intercalate (piece :: rest) = piece ++ a :: [a].intercalate rest := by
  rw [List.intercalate_cons_of_ne_nil h, List.append_assoc, List.singleton_append]

/-- The last of several pieces stands behind the others and a separator. -/
theorem intercalate_concat {pieces : List (List α)} (h : pieces ≠ []) (separator piece : List α) :
    separator.intercalate (pieces ++ [piece]) =
      separator.intercalate pieces ++ separator ++ piece := by
  induction pieces with
  | nil => exact absurd rfl h
  | cons first rest ih =>
    cases rest with
    | nil =>
      rw [List.singleton_append, List.intercalate_cons_cons, List.intercalate_singleton,
        List.intercalate_singleton]
    | cons next rest =>
      rw [List.cons_append, List.cons_append, List.intercalate_cons_cons, ← List.cons_append,
        ih (List.cons_ne_nil next rest), List.intercalate_cons_cons]
      simp only [List.append_assoc]

/-- A piece stays if only other items are dropped in front of it. -/
theorem isInfix_dropWhile {drop : α → Bool} {piece s : List α}
    (hpiece : ∀ a ∈ piece, drop a = false) (h : piece <:+: s) : piece <:+: s.dropWhile drop := by
  induction s with
  | nil => exact h
  | cons b s ih =>
    by_cases hb : drop b = true
    · rw [List.dropWhile_cons_of_pos hb]
      rcases List.infix_cons_iff.mp h with hprefix | hpart
      · -- The piece would start with the dropped item.
        cases piece with
        | nil => exact List.nil_infix
        | cons a piece =>
          obtain rfl := (List.cons_prefix_cons.mp hprefix).1
          rw [hpiece a List.mem_cons_self] at hb
          cases hb
      · exact ih hpart
    · rw [List.dropWhile_cons_of_neg hb]
      exact h

/-- A piece without an item is in front of the item or behind it. -/
theorem infix_append_cons {piece s t : List α} {a : α} (h : piece <:+: s ++ a :: t)
    (ha : a ∉ piece) : piece <:+: s ∨ piece <:+: t := by
  rcases List.infix_append_iff.mp h with hs | ht | ⟨front, back, rfl, hfront, hback⟩
  · exact .inl hs
  · rcases List.infix_cons_iff.mp ht with hprefix | ht
    · cases piece with
      | nil => exact .inl List.nil_infix
      | cons b piece =>
        obtain rfl := (List.cons_prefix_cons.mp hprefix).1
        exact absurd List.mem_cons_self ha
    · exact .inr ht
  · cases back with
    | nil =>
      rw [List.append_nil]
      exact .inl hfront.isInfix
    | cons b back =>
      obtain rfl := (List.cons_prefix_cons.mp hback).1
      exact absurd (List.mem_append_right front List.mem_cons_self) ha

/-- A list without an item ends in front of its first place. -/
theorem length_lt_of_not_mem {a : α} {s s' t t' : List α} (ha : a ∉ s')
    (h : s ++ a :: t = s' ++ t') : t.length < t'.length := by
  rcases List.append_eq_append_iff.mp h with ⟨d, hd, ht⟩ | ⟨d, -, rfl⟩
  case inl =>
    cases d with
    | nil =>
      obtain rfl : a :: t = t' := ht
      exact Nat.lt_succ_self t.length
    | cons b d =>
      obtain ⟨rfl, -⟩ := List.cons.inj ht
      exact absurd (hd ▸ List.mem_append_right s List.mem_cons_self) ha
  case inr =>
    rw [List.length_append, List.length_cons]
    omega

/-- The longest ending that fits goes back to the last one that does not. -/
theorem rtakeWhile_append_cons {p : α → Bool} {a : α} {s : List α} (ha : ¬ p a = true)
    (hs : ∀ b ∈ s, p b = true) (l : List α) : (l ++ a :: s).rtakeWhile p = s := by
  rw [List.rtakeWhile, List.reverse_append, List.reverse_cons, List.append_assoc,
    List.singleton_append, List.takeWhile_append_of_pos (by simpa using hs),
    List.takeWhile_cons_of_neg ha, List.append_nil, List.reverse_reverse]

/-! ### Place by place -/

theorem length_eq_of_mapM {f : α → Option β} {xs : List α} {ys : List β}
    (h : xs.mapM f = some ys) : ys.length = xs.length := by
  induction xs generalizing ys with
  | nil =>
    obtain rfl := Option.some.inj h
    rfl
  | cons x xs ih =>
    rw [List.mapM_cons] at h
    obtain ⟨y, -, h⟩ := Option.bind_eq_some_iff.mp h
    obtain ⟨ys', hys, h⟩ := Option.bind_eq_some_iff.mp h
    obtain rfl := Option.some.inj h
    rw [List.length_cons, List.length_cons, ih hys]

theorem exists_mem_of_forall₂ {R : α → β → Prop} {as : List α} {bs : List β}
    (h : List.Forall₂ R as bs) {a : α} (ha : a ∈ as) : ∃ b ∈ bs, R a b := by
  induction h with
  | nil => cases ha
  | cons hab _ ih =>
    rcases List.mem_cons.mp ha with rfl | ha
    · exact ⟨_, List.mem_cons_self, hab⟩
    · obtain ⟨b, hb, hrel⟩ := ih ha
      exact ⟨b, List.mem_cons_of_mem _ hb, hrel⟩

/-! ### Folds -/

/-- A fold that keeps its value or takes an entry gives the value it started with or an entry. -/
theorem foldl_snd_mem {step : β × α → β × α → β × α}
    (hstep : ∀ best entry, (step best entry).2 = best.2 ∨ (step best entry).2 = entry.2)
    (entries : List (β × α)) (start : β × α) :
    (entries.foldl step start).2 ∈ start.2 :: entries.map Prod.snd := by
  induction entries generalizing start with
  | nil => exact List.mem_singleton_self _
  | cons entry rest ih =>
    rw [List.foldl_cons, List.map_cons]
    rcases List.mem_cons.mp (ih (step start entry)) with h | h
    · rw [h]
      rcases hstep start entry with h | h <;> simp [h]
    · exact List.mem_cons_of_mem _ (List.mem_cons_of_mem _ h)

/-- As long as it fits, a sum of numbers of 32 bits is that of the natural numbers. -/
theorem toNat_foldl_add {f : α → UInt32} {l : List α} {n : UInt32}
    (h : n.toNat + (l.map fun a => (f a).toNat).sum < 2 ^ 32) :
    (l.foldl (fun n a => n + f a) n).toNat = n.toNat + (l.map fun a => (f a).toNat).sum := by
  induction l generalizing n with
  | nil => rfl
  | cons a rest ih =>
    rw [List.map_cons, List.sum_cons] at h ⊢
    have hstep : (n + f a).toNat = n.toNat + (f a).toNat := by
      rw [UInt32.toNat_add, Nat.mod_eq_of_lt (by omega)]
    rw [List.foldl_cons, ih (by omega), hstep, Nat.add_assoc]

/-- Adding nothing but zeros changes nothing. -/
theorem foldl_add_of_forall {f : α → UInt32} {l : List α} (h : ∀ a ∈ l, f a = 0) (n : UInt32) :
    l.foldl (fun n a => n + f a) n = n := by
  induction l generalizing n with
  | nil => rfl
  | cons a rest ih =>
    obtain ⟨ha, hrest⟩ := List.forall_mem_cons.mp h
    rw [List.foldl_cons, ha, UInt32.add_zero, ih hrest]

/-! ### The first greatest -/

/-- The first greatest is greater than all in front of it and not less than those behind it. -/
theorem mem_argmax_iff_exists_append [DecidableEq α] {f : α → ℕ} {l : List α} {m : α} :
    m ∈ l.argmax f ↔ ∃ front back, l = front ++ m :: back ∧ (∀ a ∈ front, f a < f m) ∧
      ∀ a ∈ back, f a ≤ f m := by
  rw [List.mem_argmax_iff]
  constructor
  · rintro ⟨hm, hle, hfirst⟩
    obtain ⟨front, back, rfl, hfront⟩ := List.eq_append_cons_of_mem hm
    refine ⟨front, back, rfl, fun a ha => ?_, fun a ha => hle a (by simp [ha])⟩
    by_contra hlt
    -- what stands in front has a smaller index
    have hidx := hfirst a (by simp [ha]) (Nat.le_of_not_lt hlt)
    rw [List.idxOf_append_of_notMem hfront, List.idxOf_append_of_mem ha] at hidx
    have hlength := List.idxOf_lt_length_of_mem ha
    omega
  · rintro ⟨front, back, rfl, hfront, hback⟩
    have hnot {a : α} (ha : f m ≤ f a) : a ∉ front :=
      fun hmem => Nat.not_le_of_lt (hfront a hmem) ha
    refine ⟨by simp, fun a ha => ?_, fun a _ hle => ?_⟩
    · rcases List.mem_append.mp ha with ha | ha
      · exact (hfront a ha).le
      · rcases List.mem_cons.mp ha with rfl | ha
        · exact le_rfl
        · exact hback a ha
    · rw [List.idxOf_append_of_notMem (hnot le_rfl), List.idxOf_append_of_notMem (hnot hle),
        List.idxOf_cons_self]
      omega

/-- The first greatest of those that are kept is not less than any of them, and greater than those
in front of it. -/
theorem mem_argmax_filter_iff [DecidableEq α] {f : α → ℕ} {keep : α → Bool} {l : List α} {m : α} :
    m ∈ (l.filter keep).argmax f ↔ keep m = true ∧ (∀ a ∈ l, keep a = true → f a ≤ f m) ∧
      ∃ front back, l = front ++ m :: back ∧ ∀ a ∈ front, keep a = true → f a < f m := by
  rw [mem_argmax_iff_exists_append]
  constructor
  · rintro ⟨front, back, hsplit, hfront, hback⟩
    obtain ⟨l₁, l₂, rfl, rfl, hrest⟩ := List.filter_eq_append_iff.mp hsplit
    obtain ⟨l₃, l₄, rfl, hskipped, hm, rfl⟩ := List.filter_eq_cons_iff.mp hrest
    have hless : ∀ a ∈ l₁ ++ l₃, keep a = true → f a < f m := by
      intro a ha hkeep
      rcases List.mem_append.mp ha with ha | ha
      · exact hfront a (List.mem_filter.mpr ⟨ha, hkeep⟩)
      · exact absurd hkeep (hskipped a ha)
    refine ⟨hm, fun a ha hkeep => ?_, l₁ ++ l₃, l₄, by rw [List.append_assoc], hless⟩
    rw [← List.append_assoc, List.mem_append, List.mem_cons] at ha
    rcases ha with ha | rfl | ha
    · exact (hless a ha hkeep).le
    · exact le_rfl
    · exact hback a (List.mem_filter.mpr ⟨ha, hkeep⟩)
  · rintro ⟨hm, hle, front, back, rfl, hless⟩
    refine ⟨front.filter keep, back.filter keep, ?_, fun a ha => ?_, fun a ha => ?_⟩
    · rw [List.filter_append, List.filter_cons_of_pos hm]
    · exact hless a (List.mem_of_mem_filter ha) (List.of_mem_filter ha)
    · exact hle a (by simp [List.mem_of_mem_filter ha]) (List.of_mem_filter ha)

end PageModules.Lists
