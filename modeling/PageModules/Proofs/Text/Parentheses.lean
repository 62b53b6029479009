import Mathlib.Algebra.Group.Int.Defs
import Mathlib.Data.List.Infix
import PageModules.Proofs.Text.Ascii
import PageModules.Proofs.Text.Cutting

/-!
# Balanced parentheses

The depth of a text is the number of the parentheses that it opens less the number of those that it
closes.  A text is balanced (`Chars.Balanced`) if its depth is zero and no start of it closes more
than it opens.  A text between parentheses that stand around others is read with a depth to start
from, which may not go below zero (`Chars.Stays`).
-/

namespace PageModules.Chars

open Text (isBlank)

/-! ### Depth -/

/-- One for an opening parenthesis, one less than zero for a closing one. -/
def turn (c : Char) : ℤ := if c = '(' then 1 else if c = ')' then -1 else 0

/-- The parentheses that are opened less those that are closed. -/
def depth : List Char → ℤ
  | [] => 0
  | c :: s => turn c + depth s

@[simp] theorem depth_nil : depth [] = 0 := rfl

@[simp] theorem depth_cons (c : Char) (s : List Char) : depth (c :: s) = turn c + depth s := rfl

@[simp] theorem depth_append (s t : List Char) : depth (s ++ t) = depth s + depth t := by
  induction s with
  | nil => rw [List.nil_append, depth_nil, zero_add]
  | cons c s ih => rw [List.cons_append, depth_cons, depth_cons, ih, add_assoc]

theorem turn_open : turn '(' = 1 := rfl

theorem turn_close : turn ')' = -1 := rfl

theorem turn_eq_zero {c : Char} (hopen : c ≠ '(') (hclose : c ≠ ')') : turn c = 0 := by
  rw [turn, if_neg hopen, if_neg hclose]

theorem depth_eq_sub (s : List Char) : depth s = s.count '(' - s.count ')' := by
  induction s with
  | nil => rfl
  | cons c s ih =>
    rw [depth_cons, ih]
    by_cases hopen : c = '('
    · rw [hopen, turn_open, List.count_cons_self, List.count_cons_of_ne (by decide)]
      omega
    · by_cases hclose : c = ')'
      · rw [hclose, turn_close, List.count_cons_self, List.count_cons_of_ne (by decide)]
        omega
      · rw [turn_eq_zero hopen hclose, List.count_cons_of_ne hopen, List.count_cons_of_ne hclose,
          zero_add]

/-- A text without parentheses. -/
def IsFlat (s : List Char) : Prop := '(' ∉ s ∧ ')' ∉ s

instance (s : List Char) : Decidable (IsFlat s) := inferInstanceAs (Decidable (_ ∧ _))

theorem isFlat_cons_iff {c : Char} {s : List Char} :
    IsFlat (c :: s) ↔ (c ≠ '(' ∧ c ≠ ')') ∧ IsFlat s := by
  rw [IsFlat, IsFlat, List.mem_cons, List.mem_cons, not_or, not_or]
  constructor
  · exact fun ⟨⟨hopen, hs⟩, hclose, hs'⟩ => ⟨⟨Ne.symm hopen, Ne.symm hclose⟩, hs, hs'⟩
  · exact fun ⟨⟨hopen, hclose⟩, hs, hs'⟩ => ⟨⟨Ne.symm hopen, hs⟩, Ne.symm hclose, hs'⟩

theorem IsFlat.of_forall {s : List Char} (h : ∀ c ∈ s, turn c = 0) : IsFlat s := by
  constructor
  · intro hopen
    exact absurd (h _ hopen) (by decide)
  · intro hclose
    exact absurd (h _ hclose) (by decide)

theorem IsFlat.turn_eq_zero {s : List Char} (h : IsFlat s) {c : Char} (hc : c ∈ s) :
    turn c = 0 := by
  refine Chars.turn_eq_zero ?_ ?_
  · rintro rfl
    exact h.1 hc
  · rintro rfl
    exact h.2 hc

theorem IsFlat.append {s t : List Char} (hs : IsFlat s) (ht : IsFlat t) : IsFlat (s ++ t) :=
  .of_forall fun _ hc => (List.mem_append.mp hc).elim hs.turn_eq_zero ht.turn_eq_zero

theorem IsFlat.depth_eq_zero {s : List Char} (h : IsFlat s) : depth s = 0 := by
  induction s with
  | nil => rfl
  | cons c s ih =>
    rw [depth_cons, h.turn_eq_zero List.mem_cons_self, ih (isFlat_cons_iff.mp h).2, add_zero]

theorem turn_of_isBlank {c : Char} (hc : isBlank c = true) : turn c = 0 := by
  refine turn_eq_zero ?_ ?_
  · rintro rfl
    exact absurd hc (by decide)
  · rintro rfl
    exact absurd hc (by decide)

theorem isFlat_of_isBlank {s : List Char} (h : ∀ c ∈ s, isBlank c = true) : IsFlat s :=
  .of_forall fun c hc => turn_of_isBlank (h c hc)

theorem isFlat_of_bytes {s : String} (hascii : Text.isAscii s = true)
    (h : ((Text.bytes s).all fun b => b != 40 && b != 41) = true) : IsFlat s.toList := by
  have hbytes : ∀ c ∈ s.toList, c.toNat ≠ 40 ∧ c.toNat ≠ 41 := by
    intro c hc
    obtain ⟨b, hb, hbc⟩ := Text.mem_bytes_of_mem hascii hc
    have hb := List.all_eq_true.mp h b hb
    rw [Bool.and_eq_true, bne_iff_ne, bne_iff_ne, ne_eq, ne_eq, ← UInt8.toNat_inj,
      ← UInt8.toNat_inj, hbc] at hb
    exact hb
  constructor
  · exact fun hopen => (hbytes _ hopen).1 rfl
  · exact fun hclose => (hbytes _ hclose).2 rfl

/-- A text that opens parentheses and closes none is not at depth zero. -/
theorem depth_pos {s : List Char} (hopen : '(' ∈ s) (hclose : ')' ∉ s) : 0 < depth s := by
  induction s with
  | nil => cases hopen
  | cons c s ih =>
    rw [List.mem_cons, not_or] at hclose
    rw [depth_cons]
    by_cases hs : '(' ∈ s
    · have hpos := ih hs hclose.2
      have hturn : 0 ≤ turn c := by
        rw [turn, if_neg (Ne.symm hclose.1)]
        split <;> omega
      omega
    · obtain rfl := (List.mem_cons.mp hopen).resolve_right hs
      rw [IsFlat.depth_eq_zero ⟨hs, hclose.2⟩]
      decide

theorem depth_nonneg {s : List Char} (hclose : ')' ∉ s) : 0 ≤ depth s := by
  by_cases hopen : '(' ∈ s
  · exact Int.le_of_lt (depth_pos hopen hclose)
  · exact Int.le_of_eq (IsFlat.depth_eq_zero ⟨hopen, hclose⟩).symm

/-! ### Nested characters -/

/-- All characters of a kind stand between parentheses. -/
def AllNested (kind : Char → Bool) (s : List Char) : Prop :=
  ∀ front c back, s = front ++ c :: back → kind c = true → depth front ≠ 0

section

variable {kind : Char → Bool}

theorem allNested_nil : AllNested kind [] := fun _ _ _ h => absurd h (by simp)

theorem allNested_concat_iff {s : List Char} {c : Char} :
    AllNested kind (s ++ [c]) ↔ AllNested kind s ∧ (kind c = true → depth s ≠ 0) := by
  constructor
  · intro h
    exact ⟨fun front d back hs => h front d (back ++ [c]) (by simp [hs]), h s c [] rfl⟩
  · rintro ⟨hs, hc⟩ front d back h
    rcases List.eq_nil_or_concat' back with rfl | ⟨back, e, rfl⟩
    · obtain ⟨rfl, hlast⟩ := List.append_inj' h rfl
      obtain rfl := (List.cons.inj hlast).1
      exact hc
    · have happend : s ++ [c] = (front ++ d :: back) ++ [e] := by simpa using h
      obtain ⟨rfl, -⟩ := List.append_inj' happend rfl
      exact hs front d back rfl

end

/-! ### Reading at a depth -/

/-- Read from a depth on, a text never closes more parentheses than are open. -/
def Stays (d : ℤ) : List Char → Prop
  | [] => 0 ≤ d
  | c :: s => 0 ≤ d ∧ Stays (d + turn c) s

theorem stays_append_iff {d : ℤ} {s t : List Char} :
    Stays d (s ++ t) ↔ Stays d s ∧ Stays (d + depth s) t := by
  induction s generalizing d with
  | nil =>
    rw [List.nil_append, depth_nil, add_zero, Stays]
    refine ⟨fun h => ⟨?_, h⟩, fun h => h.2⟩
    cases t with
    | nil => exact h
    | cons c t => exact h.1
  | cons c s ih =>
    rw [List.cons_append, Stays, Stays, ih, depth_cons, add_assoc, and_assoc]

theorem Stays.nonneg {d : ℤ} {s : List Char} (h : Stays d s) : 0 ≤ d := by
  cases s with
  | nil => exact h
  | cons c s => exact h.1

theorem Stays.nonneg_end {d : ℤ} {s : List Char} (h : Stays d s) : 0 ≤ d + depth s := by
  have happend : Stays d (s ++ []) := by rwa [List.append_nil]
  exact (stays_append_iff.mp happend).2

theorem stays_concat_iff {d : ℤ} {s : List Char} {c : Char} :
    Stays d (s ++ [c]) ↔ Stays d s ∧ 0 ≤ d + depth s + turn c := by
  rw [stays_append_iff]
  constructor
  · rintro ⟨hs, -, hc⟩
    exact ⟨hs, hc⟩
  · rintro ⟨hs, hc⟩
    exact ⟨hs, hs.nonneg_end, hc⟩

/-- No start of the text takes the depth below zero. -/
theorem stays_iff {d : ℤ} {s : List Char} :
    Stays d s ↔ ∀ front, front <+: s → 0 ≤ d + depth front := by
  constructor
  · rintro h front ⟨back, rfl⟩
    exact (stays_append_iff.mp h).1.nonneg_end
  · intro h
    induction s generalizing d with
    | nil =>
      have hnil := h [] (List.prefix_refl [])
      rwa [depth_nil, add_zero] at hnil
    | cons c s ih =>
      have hnil := h [] List.nil_prefix
      rw [depth_nil, add_zero] at hnil
      refine ⟨hnil, ih fun front hfront => ?_⟩
      have hcons := h (c :: front) (List.cons_prefix_cons.mpr ⟨rfl, hfront⟩)
      rwa [depth_cons, ← add_assoc] at hcons

theorem IsFlat.stays {s : List Char} (h : IsFlat s) {d : ℤ} (hd : 0 ≤ d) : Stays d s := by
  induction s with
  | nil => exact hd
  | cons c s ih =>
    refine ⟨hd, ?_⟩
    rw [h.turn_eq_zero List.mem_cons_self, add_zero]
    exact ih (isFlat_cons_iff.mp h).2

/-! ### Balanced texts -/

/-- A text opens and closes the same parentheses. -/
structure Balanced (s : List Char) : Prop where
  /-- It closes as many as it opens. -/
  depth : depth s = 0
  /-- No start of it closes more than it opens. -/
  nonneg : ∀ front, front <+: s → 0 ≤ Chars.depth front

theorem balanced_iff {s : List Char} : Balanced s ↔ Stays 0 s ∧ depth s = 0 := by
  rw [stays_iff]
  simp only [zero_add]
  exact ⟨fun h => ⟨h.nonneg, h.depth⟩, fun h => ⟨h.2, h.1⟩⟩

instance (s : List Char) : Decidable (Balanced s) :=
  decidable_of_iff (depth s = 0 ∧ ∀ front ∈ s.inits, 0 ≤ depth front)
    ⟨fun h => ⟨h.1, fun front hfront => h.2 front ((List.mem_inits front s).mpr hfront)⟩,
      fun h => ⟨h.depth, fun front hfront => h.nonneg front ((List.mem_inits front s).mp hfront)⟩⟩

theorem IsFlat.balanced {s : List Char} (h : IsFlat s) : Balanced s :=
  balanced_iff.mpr ⟨h.stays (Int.le_refl 0), h.depth_eq_zero⟩

/-- Behind a balanced text it goes on as at the start. -/
theorem Balanced.append_iff {s t : List Char} (h : Balanced s) :
    Balanced (s ++ t) ↔ Balanced t := by
  obtain ⟨hstays, hdepth⟩ := balanced_iff.mp h
  rw [balanced_iff, balanced_iff, stays_append_iff, depth_append, hdepth, add_zero, zero_add]
  exact ⟨fun ht => ⟨ht.1.2, ht.2⟩, fun ht => ⟨⟨hstays, ht.1⟩, ht.2⟩⟩

theorem Balanced.append {s t : List Char} (hs : Balanced s) (ht : Balanced t) :
    Balanced (s ++ t) :=
  hs.append_iff.mpr ht

/-- What closes no more than it opens at any place is balanced as a whole if its rest is. -/
theorem balanced_append_flat_iff {s t : List Char} (ht : IsFlat t) :
    Balanced (s ++ t) ↔ Balanced s := by
  rw [balanced_iff, balanced_iff, stays_append_iff, depth_append, ht.depth_eq_zero, add_zero,
    zero_add]
  exact ⟨fun hs => ⟨hs.1.1, hs.2⟩, fun hs => ⟨⟨hs.1, ht.stays (by omega)⟩, hs.2⟩⟩

/-- Behind its start a balanced text is balanced if nothing is open there. -/
theorem Balanced.back_iff {s t : List Char} (h : Balanced (s ++ t)) :
    Balanced t ↔ Chars.depth s = 0 := by
  have hdepth := h.depth
  rw [depth_append] at hdepth
  constructor
  · intro ht
    rwa [ht.depth, add_zero] at hdepth
  · intro hs
    have hfront : Balanced s :=
      ⟨hs, fun front hfront => h.nonneg front (hfront.trans (List.prefix_append s t))⟩
    exact hfront.append_iff.mp h

theorem balanced_trim_iff {s : List Char} : Balanced (trim s) ↔ Balanced s := by
  obtain ⟨before, after, hblank, hs⟩ := exists_eq_append_trim s
  obtain ⟨hbefore, hafter⟩ := List.forall_mem_append.mp hblank
  conv_rhs => rw [hs]
  rw [balanced_append_flat_iff (isFlat_of_isBlank hafter),
    (isFlat_of_isBlank hbefore).balanced.append_iff]

/-- A group of parentheses around a balanced text is balanced. -/
theorem Balanced.group {s : List Char} (h : Balanced s) : Balanced ('(' :: (s ++ [')'])) := by
  obtain ⟨hstays, hdepth⟩ := balanced_iff.mp h
  -- What is never below zero on its own is never below one inside of the group.
  have hinside : Stays 1 s := by
    rw [stays_iff] at hstays ⊢
    intro front hfront
    have hfront := hstays front hfront
    omega
  rw [balanced_iff, Stays, turn_open, zero_add, stays_concat_iff, depth_cons, depth_append, hdepth]
  exact ⟨⟨Int.le_refl 0, hinside, by decide⟩, by decide⟩

theorem balanced_intercalate {separator : List Char} (hseparator : IsFlat separator)
    {pieces : List (List Char)} (h : ∀ piece ∈ pieces, Balanced piece) :
    Balanced (separator.intercalate pieces) := by
  induction pieces with
  | nil => exact IsFlat.balanced (s := []) (by decide)
  | cons piece rest ih =>
    obtain ⟨hpiece, hrest⟩ := List.forall_mem_cons.mp h
    cases rest with
    | nil => rwa [List.intercalate_singleton]
    | cons next rest =>
      rw [List.intercalate_cons_cons, List.append_assoc]
      exact hpiece.append (hseparator.balanced.append (ih hrest))

/-! ### Parentheses in others -/

/-- A part of the text opens two parentheses more than it closes. -/
def Nests (s : List Char) : Prop := ∃ part, part <:+: s ∧ 2 ≤ depth part

theorem IsFlat.sublist {s t : List Char} (ht : IsFlat t) (h : s.Sublist t) : IsFlat s :=
  .of_forall fun _ hc => ht.turn_eq_zero (h.subset hc)

theorem Nests.mono {s t : List Char} (h : Nests s) (hst : s <:+: t) : Nests t := by
  obtain ⟨part, hpart, hdepth⟩ := h
  exact ⟨part, hpart.trans hst, hdepth⟩

theorem nests_cons_open {s : List Char} (hopen : '(' ∈ s) (hclose : ')' ∉ s) :
    Nests ('(' :: s) := by
  refine ⟨'(' :: s, List.infix_rfl, ?_⟩
  have hpos := depth_pos hopen hclose
  rw [depth_cons, turn_open]
  omega

/-- Parentheses stay in others where a text is put in that does not close any of them. -/
theorem Nests.insert {front gap back t : List Char} (hgap : IsFlat gap) (ht : 0 ≤ depth t)
    (h : Nests (front ++ (gap ++ back))) : Nests (front ++ (t ++ back)) := by
  have hback : back <:+: front ++ (t ++ back) := by
    rw [← List.append_assoc]
    exact (List.suffix_append _ _).isInfix
  obtain ⟨part, hpart, hdepth⟩ := h
  rw [List.infix_append_iff_ne_nil] at hpart
  rcases hpart with hfront | hbehind | ⟨left, right, -, -, rfl, hleft, hright⟩
  · exact ⟨part, hfront.trans (List.prefix_append _ _).isInfix, hdepth⟩
  · rw [List.infix_append_iff_ne_nil] at hbehind
    rcases hbehind with hinside | hbehind | ⟨left, right, -, -, rfl, hleft, hright⟩
    · rw [(hgap.sublist hinside.sublist).depth_eq_zero] at hdepth
      omega
    · exact ⟨part, hbehind.trans hback, hdepth⟩
    · rw [depth_append, (hgap.sublist hleft.sublist).depth_eq_zero, zero_add] at hdepth
      exact ⟨right, hright.isInfix.trans hback, hdepth⟩
  · rw [depth_append] at hdepth
    obtain ⟨after, hright⟩ := hright
    rcases List.append_eq_append_iff.mp hright with ⟨rest, hinside, -⟩ | ⟨rest, rfl, hrest⟩
    · -- The part ends in the gap, so what is in front of it is enough.
      have hflat : IsFlat right := hgap.sublist (hinside ▸ List.sublist_append_left right rest)
      rw [hflat.depth_eq_zero, add_zero] at hdepth
      exact ⟨left, hleft.isInfix.trans (List.prefix_append _ _).isInfix, hdepth⟩
    · -- The part goes on behind the gap, so it takes in the whole text that is put there.
      obtain ⟨before, rfl⟩ := hleft
      refine ⟨left ++ (t ++ rest), ⟨before, after, by simp [hrest]⟩, ?_⟩
      rw [depth_append, hgap.depth_eq_zero, zero_add] at hdepth
      rw [depth_append, depth_append]
      omega

/-! ### Case -/

theorem turn_lower (c : Char) : turn (Text.lower c) = turn c := by
  unfold Text.lower
  split
  case isTrue h =>
    rw [Bool.and_eq_true, decide_eq_true_eq, decide_eq_true_eq] at h
    have hlow : 65 ≤ c.toNat := h.1
    have hhigh : c.toNat ≤ 90 := h.2
    have hletter : ∀ n < 26, turn (Char.ofNat (65 + n + 32)) = turn (Char.ofNat (65 + n)) := by
      decide
    have hc : 65 + (c.toNat - 65) = c.toNat := by omega
    have hturn := hletter (c.toNat - 65) (by omega)
    rwa [hc, Char.ofNat_toNat] at hturn
  case isFalse => rfl

theorem turn_foldCase (c : Char) : turn (Text.foldCase c) = turn c := by
  unfold Text.foldCase
  split
  case isTrue hc =>
    obtain rfl : c = '\u017F' := Char.toNat_inj.mp hc
    rfl
  case isFalse =>
    split
    case isTrue hc =>
      obtain rfl : c = '\u212A' := Char.toNat_inj.mp hc
      rfl
    case isFalse => exact turn_lower c

theorem depth_lowercase (s : List Char) : depth (lowercase s) = depth s := by
  induction s with
  | nil => rfl
  | cons c s ih =>
    have hcons : lowercase (c :: s) = Text.lower c :: lowercase s := rfl
    rw [hcons, depth_cons, depth_cons, turn_lower, ih]

theorem isFlat_lowercase_iff {s : List Char} : IsFlat (lowercase s) ↔ IsFlat s := by
  constructor
  · intro h
    refine .of_forall fun c hc => ?_
    rw [← turn_lower]
    exact h.turn_eq_zero (List.mem_map_of_mem hc)
  · intro h
    refine .of_forall fun d hd => ?_
    obtain ⟨c, hc, rfl⟩ := List.mem_map.mp hd
    rw [turn_lower]
    exact h.turn_eq_zero hc

theorem balanced_lowercase_iff {s : List Char} : Balanced (lowercase s) ↔ Balanced s := by
  have hstays (d : ℤ) : Stays d (lowercase s) ↔ Stays d s := by
    induction s generalizing d with
    | nil => rfl
    | cons c s ih =>
      have hcons : lowercase (c :: s) = Text.lower c :: lowercase s := rfl
      rw [hcons, Stays, Stays, turn_lower, ih]
  rw [balanced_iff, balanced_iff, hstays, depth_lowercase]

end PageModules.Chars
