import PageModules.Proofs.Style.Nesting

/-!
# Groups of parentheses

A text is level if it is not empty and opens as many parentheses as it closes (`Style.IsLevel`).
The group that a text starts with is its shortest level start, and a text that starts with an
opening parenthesis has a group if it has any level start (`Style.balancedParens?_eq_some_iff`).

The group is found by counting the parentheses that are open (`Style.countGroup`).  The count is an
integer here, so that it could go below zero; it does not, as it is positive wherever the reading
goes on (`Style.nonneg_of_mem_counts`).
-/

namespace PageModules.Style

open Chars (depth depth_append depth_cons depth_nil depth_eq_sub turn turn_open turn_close
  turn_eq_zero Stays stays_iff)

/-! ### Level texts -/

/-- A text with as many opening as closing parentheses that is not empty. -/
structure IsLevel (s : List Char) : Prop where
  /-- It has a character. -/
  ne_nil : s ≠ []
  /-- It opens as many parentheses as it closes. -/
  count_eq : s.count '(' = s.count ')'

theorem isLevel_iff {s : List Char} : IsLevel s ↔ s ≠ [] ∧ depth s = 0 := by
  rw [depth_eq_sub, Int.sub_eq_zero, Int.natCast_inj]
  exact ⟨fun h => ⟨h.ne_nil, h.count_eq⟩, fun h => ⟨h.1, h.2⟩⟩

/-- The shortest level start of a text. -/
structure IsShortestLevel (s group : List Char) : Prop where
  /-- It is a start of the text. -/
  isPrefix : group <+: s
  /-- It is level. -/
  isLevel : IsLevel group
  /-- No level start is shorter. -/
  shortest : ∀ start, start <+: s → IsLevel start → group.length ≤ start.length

theorem IsShortestLevel.unique {s group group' : List Char} (h : IsShortestLevel s group)
    (h' : IsShortestLevel s group') : group = group' := by
  have hle : group.length ≤ group'.length := h.shortest group' h'.isPrefix h'.isLevel
  have hge : group'.length ≤ group.length := h'.shortest group h.isPrefix h.isLevel
  exact (List.prefix_of_prefix_length_le h.isPrefix h'.isPrefix hle).eq_of_length
    (Nat.le_antisymm hle hge)

/-! ### Groups -/

/-- A group is the shortest level start of the text. -/
theorem isShortestLevel_of_balancedParens? {s group : List Char}
    (h : balancedParens? s = some group) : s.head? = some '(' ∧ IsShortestLevel s group := by
  obtain ⟨inner, rest, rfl, rfl, hinner⟩ := exists_of_balancedParens? h
  refine ⟨rfl, ⟨rest, by simp⟩, isLevel_iff.mpr ⟨List.cons_ne_nil _ _, ?_⟩, ?_⟩
  · rw [depth_cons, depth_append, hinner.depth]
    rfl
  · intro start hstart hlevel
    by_contra hlength
    obtain ⟨hne, hdepth⟩ := isLevel_iff.mp hlevel
    -- A shorter start ends in front of the last parenthesis, where the first one is still open.
    have hshort : start <+: '(' :: inner := by
      refine List.prefix_of_prefix_length_le hstart ⟨')' :: rest, rfl⟩ ?_
      simp only [List.length_cons, List.length_append, List.length_nil] at hlength ⊢
      omega
    rcases List.prefix_cons_iff.mp hshort with rfl | ⟨front, rfl, hfront⟩
    · exact hne rfl
    · have hnonneg := hinner.nonneg front hfront
      rw [depth_cons, turn_open] at hdepth
      omega

/-- Without a group, a text that opens a parenthesis has no level start. -/
theorem not_isLevel_of_balancedParens?_eq_none {s start : List Char}
    (h : balancedParens? s = none) (hopen : s.head? = some '(') (hstart : start <+: s) :
    ¬IsLevel start := by
  obtain ⟨s, rfl⟩ := List.head?_eq_some_iff.mp hopen
  rw [balancedParens?, if_pos rfl, Option.map_eq_none_iff, closeGroup?_eq_none_iff, stays_iff] at h
  rw [isLevel_iff, not_and]
  intro hne hdepth
  rcases List.prefix_cons_iff.mp hstart with rfl | ⟨front, rfl, hfront⟩
  · exact hne rfl
  · have hnonneg := h front hfront
    rw [depth_cons, turn_open] at hdepth
    omega

/-! ### Counting -/

/-- What counting the open parentheses of a text gives. -/
structure GroupCount where
  /-- The counts behind the characters that are read. -/
  counts : List ℤ
  /-- The text up to the closing parenthesis that leaves none open. -/
  group : Option (List Char)
deriving DecidableEq

/-- Counts on where `count` parentheses are open. -/
def countGroupFrom (count : ℤ) : List Char → GroupCount
  | [] => ⟨[], none⟩
  | c :: s =>
    let count' := count + turn c
    if c = ')' ∧ count' = 0 then ⟨[count'], some [c]⟩
    else
      let read := countGroupFrom count' s
      ⟨count' :: read.counts, read.group.map (c :: ·)⟩

/-- Counts the open parentheses of a text that starts with one. -/
def countGroup : List Char → GroupCount
  | [] => ⟨[], none⟩
  | c :: s => if c = '(' then countGroupFrom 0 (c :: s) else ⟨[], none⟩

/-- The reading goes on behind a character that does not end the group. -/
theorem countGroupFrom_cons {count k : ℤ} {c : Char} (hturn : count + turn c = k)
    (h : ¬(c = ')' ∧ k = 0)) (s : List Char) : countGroupFrom count (c :: s) =
      ⟨k :: (countGroupFrom k s).counts, (countGroupFrom k s).group.map (c :: ·)⟩ := by
  subst hturn
  exact if_neg h

/-- The count is one more than the number of groups that are open inside. -/
theorem group_countGroupFrom (d : ℕ) (s : List Char) :
    (countGroupFrom (d + 1) s).group = closeGroup? d s := by
  induction s generalizing d with
  | nil => rfl
  | cons c s ih =>
    rcases closes_or_exists_depth d c with ⟨rfl, rfl⟩ | ⟨k, hturn⟩
    · rfl
    · have hcount : (d : ℤ) + 1 + turn c = k + 1 := by omega
      rw [closeGroup?_cons hturn, countGroupFrom_cons hcount (by omega), ih]

theorem group_countGroup (s : List Char) : (countGroup s).group = balancedParens? s := by
  fun_cases balancedParens? s with
  | case1 => rfl
  | case2 s =>
    have hgroup := group_countGroupFrom 0 s
    rw [← hgroup]
    rfl
  | case3 c s hopen => rw [countGroup, if_neg hopen]

/-- Where parentheses are open and the group does not end, some are still open. -/
theorem pos_of_not_end {count : ℤ} (h : 0 < count) {c : Char}
    (hend : ¬(c = ')' ∧ count + turn c = 0)) : 0 < count + turn c := by
  by_cases hclose : c = ')'
  · have hne : count + turn c ≠ 0 := fun hzero => hend ⟨hclose, hzero⟩
    rw [hclose, turn_close] at hne ⊢
    omega
  · have hturn : 0 ≤ turn c := by
      rw [turn, if_neg hclose]
      split <;> decide
    omega

/-- Where parentheses are open, the count is never below zero up to the end of the reading. -/
theorem nonneg_of_mem_counts_countGroupFrom {count : ℤ} (h : 0 < count) {s : List Char} {n : ℤ}
    (hn : n ∈ (countGroupFrom count s).counts) : 0 ≤ n := by
  fun_induction countGroupFrom count s with
  | case1 count => cases hn
  | case2 count c s count' hend =>
    obtain rfl := List.mem_singleton.mp hn
    exact Int.le_of_eq hend.2.symm
  | case3 count c s count' hend read ih =>
    have hpos : 0 < count' := pos_of_not_end h hend
    rcases List.mem_cons.mp hn with rfl | hn
    · exact Int.le_of_lt hpos
    · exact ih hpos hn

/-- The count begins with the parenthesis that opens the group. -/
theorem nonneg_of_mem_counts {s : List Char} {n : ℤ} (hn : n ∈ (countGroup s).counts) :
    0 ≤ n := by
  cases s with
  | nil => cases hn
  | cons c s =>
    rw [countGroup] at hn
    split at hn
    case isTrue hopen =>
      rw [hopen, countGroupFrom_cons (k := 1) rfl (by decide)] at hn
      rcases List.mem_cons.mp hn with rfl | hn
      · decide
      · exact nonneg_of_mem_counts_countGroupFrom Int.one_pos hn
    case isFalse => cases hn

/-- **The group that a text starts with is its shortest level start**, and a text that starts with
an opening parenthesis has a group if it has any level start.  Counting finds the group, and the
count of open parentheses is never below zero. -/
theorem balancedParens?_eq_some_iff (s : List Char) :
    (∀ group, balancedParens? s = some group ↔ s.head? = some '(' ∧ IsShortestLevel s group) ∧
      (balancedParens? s = none ↔
        ¬(s.head? = some '(' ∧ ∃ start, start <+: s ∧ IsLevel start)) ∧
      balancedParens? s = (countGroup s).group ∧ ∀ n ∈ (countGroup s).counts, 0 ≤ n := by
  have hnone : balancedParens? s = none ↔
      ¬(s.head? = some '(' ∧ ∃ start, start <+: s ∧ IsLevel start) := by
    constructor
    · rintro hnone ⟨hopen, start, hstart, hlevel⟩
      exact not_isLevel_of_balancedParens?_eq_none hnone hopen hstart hlevel
    · intro hstart
      rw [Option.eq_none_iff_forall_ne_some]
      intro group hgroup
      obtain ⟨hopen, hshortest⟩ := isShortestLevel_of_balancedParens? hgroup
      exact hstart ⟨hopen, group, hshortest.isPrefix, hshortest.isLevel⟩
  refine ⟨fun group => ⟨isShortestLevel_of_balancedParens?, ?_⟩, hnone,
    (group_countGroup s).symm, fun n hn => nonneg_of_mem_counts hn⟩
  rintro ⟨hopen, hshortest⟩
  cases hfound : balancedParens? s with
  | none => exact absurd ⟨hopen, group, hshortest.isPrefix, hshortest.isLevel⟩ (hnone.mp hfound)
  | some found => rw [(isShortestLevel_of_balancedParens? hfound).2.unique hshortest]

example : countGroup "(a(b))c)".toList = ⟨[1, 1, 2, 2, 1, 0], some "(a(b))".toList⟩ := by decide

end PageModules.Style
