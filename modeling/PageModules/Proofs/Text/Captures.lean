import PageModules.Proofs.Text.Ways

/-!
# What a match is made of

`Pattern.Takes` says which text a pattern takes between what stands in front of it and behind it,
and what it keeps of the text, all groups with their places in it.  A search gives such a text
(`Pattern.takes_of_find?`).  So the text of a match falls into the texts of the parts of its
pattern, and the kept groups are some of these.
-/

namespace PageModules.Text.Pattern

/-! ### Texts that are taken -/

/-- The pattern takes a text with a character behind it and a rest, and keeps captured texts, the
latest first. -/
def Takes : Pattern → Option Char → List Char → List Char → Captures → Prop
  | empty, _, s, _, kept => s = [] ∧ kept = []
  | char holds, _, s, _, kept => (∃ c, holds c = true ∧ s = [c]) ∧ kept = []
  | many least _ _ holds, _, s, _, kept =>
    ((∀ c ∈ s, holds c = true) ∧ least ≤ s.length) ∧ kept = []
  | seq first second, behind, s, rest, kept => ∃ a b k l, s = a ++ b ∧
      first.Takes behind a (b ++ rest) k ∧ second.Takes (a.getLast?.or behind) b rest l ∧
      kept = l ++ k
  | alt first second, behind, s, rest, kept =>
    first.Takes behind s rest kept ∨ second.Takes behind s rest kept
  | capture index inner, behind, s, rest, kept =>
    ∃ k, inner.Takes behind s rest k ∧ kept = (index, s) :: k
  | wordBoundary, behind, s, rest, kept =>
    (s = [] ∧ Place.isWordBoundary ⟨behind, rest⟩ = true) ∧ kept = []
  | textStart, behind, s, _, kept => (s = [] ∧ behind = none) ∧ kept = []
  | textEnd, _, s, rest, kept => (s = [] ∧ rest = []) ∧ kept = []

theorem exists_behind_of_mem_waysMany {least : ℕ} {most : Option ℕ} {lazy : Bool}
    {holds : Char → Bool} {behind : Option Char} {s : List Char} {q : Place}
    (h : q ∈ waysMany least most lazy holds behind s) : ∃ t, s = t ++ q.rest ∧
      q.behind = t.getLast?.or behind ∧ (∀ c ∈ t, holds c = true) ∧ least ≤ t.length := by
  induction s generalizing least most behind with
  | nil =>
    rw [waysMany] at h
    split at h
    case isTrue hleast =>
      obtain rfl := List.mem_singleton.mp h
      exact ⟨[], rfl, rfl, by simp, Nat.le_of_eq hleast⟩
    case isFalse => cases h
  | cons c s ih =>
    have hboth : q ∈ (if least = 0 then [⟨behind, c :: s⟩] else []) ∨
        q ∈ (if holds c && most != some 0 then
          waysMany (least - 1) (most.map (· - 1)) lazy holds (some c) s else []) := by
      rw [waysMany] at h
      split at h
      · exact List.mem_append.mp h
      · exact (List.mem_append.mp h).symm
    rcases hboth with hhere | hlonger
    · split at hhere
      case isTrue hleast =>
        obtain rfl := List.mem_singleton.mp hhere
        exact ⟨[], rfl, rfl, by simp, Nat.le_of_eq hleast⟩
      case isFalse => cases hhere
    · split at hlonger
      case isTrue hc =>
        obtain ⟨t, rfl, hbehind, ht, hlength⟩ := ih hlonger
        refine ⟨c :: t, rfl, ?_, List.forall_mem_cons.mpr ⟨(Bool.and_eq_true_iff.mp hc).1, ht⟩, ?_⟩
        · rw [hbehind, List.getLast?_cons]
          cases t.getLast? <;> rfl
        · rw [List.length_cons]
          omega
      case isFalse => cases hlonger

/-- Every way takes the text up to its end. -/
theorem exists_takes_of_mem_ways {p : Pattern} {place : Place} {captures : Captures} {w : Way}
    (h : w ∈ p.ways place captures) : ∃ s kept, place.rest = s ++ w.1.rest ∧
      w.1.behind = s.getLast?.or place.behind ∧ p.Takes place.behind s w.1.rest kept ∧
      w.2 = kept ++ captures := by
  induction p generalizing place captures w with
  | empty =>
    obtain rfl := List.mem_singleton.mp h
    exact ⟨[], [], rfl, rfl, ⟨rfl, rfl⟩, rfl⟩
  | char holds =>
    obtain ⟨behind, rest⟩ := place
    cases rest with
    | nil => cases h
    | cons c s =>
      rw [ways_char_cons] at h
      split at h
      case isTrue hc =>
        obtain rfl := List.mem_singleton.mp h
        exact ⟨[c], [], rfl, rfl, ⟨⟨c, hc, rfl⟩, rfl⟩, rfl⟩
      case isFalse => cases h
  | many least most lazy holds =>
    obtain ⟨q, hq, rfl⟩ := List.mem_map.mp h
    obtain ⟨t, hrest, hbehind, ht, hlength⟩ := exists_behind_of_mem_waysMany hq
    exact ⟨t, [], hrest, hbehind, ⟨⟨ht, hlength⟩, rfl⟩, rfl⟩
  | seq first second ihFirst ihSecond =>
    obtain ⟨v, hv, hw⟩ := List.mem_flatMap.mp h
    obtain ⟨a, k, hrest, hbehind, ha, hk⟩ := ihFirst hv
    obtain ⟨b, l, hrest', hbehind', hb, hl⟩ := ihSecond hw
    -- The texts of the second part are kept later, so they stand in front.
    refine ⟨a ++ b, l ++ k, ?_, ?_, ⟨a, b, k, l, rfl, ?_, ?_, rfl⟩, ?_⟩
    · rw [hrest, hrest', List.append_assoc]
    · rw [hbehind', hbehind, List.getLast?_append, Option.or_assoc]
    · rwa [← hrest']
    · rwa [← hbehind]
    · rw [hl, hk, List.append_assoc]
  | alt first second ihFirst ihSecond =>
    rcases List.mem_append.mp h with h | h
    · obtain ⟨s, kept, hrest, hbehind, hs, hkept⟩ := ihFirst h
      exact ⟨s, kept, hrest, hbehind, .inl hs, hkept⟩
    · obtain ⟨s, kept, hrest, hbehind, hs, hkept⟩ := ihSecond h
      exact ⟨s, kept, hrest, hbehind, .inr hs, hkept⟩
  | capture index inner ih =>
    obtain ⟨v, hv, rfl⟩ := List.mem_map.mp h
    obtain ⟨s, kept, hrest, hbehind, hs, hkept⟩ := ih hv
    refine ⟨s, (index, s) :: kept, hrest, hbehind, ⟨kept, hs, rfl⟩, ?_⟩
    dsimp only
    rw [Place.textUpTo_eq hrest, hkept, List.cons_append]
  | wordBoundary =>
    rw [ways] at h
    split at h
    case isTrue hboundary =>
      obtain rfl := List.mem_singleton.mp h
      exact ⟨[], [], rfl, rfl, ⟨⟨rfl, hboundary⟩, rfl⟩, rfl⟩
    case isFalse => cases h
  | textStart =>
    rw [ways] at h
    split at h
    case isTrue hstart =>
      obtain rfl := List.mem_singleton.mp h
      exact ⟨[], [], rfl, rfl, ⟨⟨rfl, Option.isNone_iff_eq_none.mp hstart⟩, rfl⟩, rfl⟩
    case isFalse => cases h
  | textEnd =>
    rw [ways] at h
    split at h
    case isTrue hend =>
      obtain rfl := List.mem_singleton.mp h
      exact ⟨[], [], rfl, rfl, ⟨⟨rfl, List.isEmpty_iff.mp hend⟩, rfl⟩, rfl⟩
    case isFalse => cases h

theorem takes_of_findFrom? {p : Pattern} {behind : Option Char} {s : List Char} {m : Match}
    (h : p.findFrom? behind s = some m) : s = m.before ++ (m.text ++ m.after) ∧
      p.Takes (m.before.getLast?.or behind) m.text m.after m.captures := by
  -- A match at the start of what is left, with nothing in front.
  have hhere {behind : Option Char} {s : List Char} {m : Match}
      (h : p.matchAt? ⟨behind, s⟩ = some m) : s = m.before ++ (m.text ++ m.after) ∧
        p.Takes (m.before.getLast?.or behind) m.text m.after m.captures := by
    rw [matchAt?_eq_head?] at h
    obtain ⟨w, hw, rfl⟩ := Option.map_eq_some_iff.mp h
    obtain ⟨t, kept, hrest, -, ht, hkept⟩ := exists_takes_of_mem_ways (List.mem_of_head? hw)
    rw [List.append_nil] at hkept
    rw [matchOf, Place.textUpTo_eq hrest, hkept]
    exact ⟨hrest, ht⟩
  induction s generalizing behind m with
  | nil => exact hhere h
  | cons c s ih =>
    rw [findFrom?] at h
    split at h
    case h_1 m' hm =>
      obtain rfl := Option.some.inj h
      exact hhere hm
    case h_2 =>
      obtain ⟨m', hm', rfl⟩ := Option.map_eq_some_iff.mp h
      obtain ⟨hs, htakes⟩ := ih hm'
      have hlast : (c :: m'.before).getLast?.or behind = m'.before.getLast?.or (some c) := by
        rw [List.getLast?_cons]
        cases m'.before.getLast? <;> rfl
      refine ⟨congrArg (c :: ·) hs, ?_⟩
      dsimp only
      rwa [hlast]

/-- **The text of a match is one that the pattern takes**, and its groups are those that are kept.
-/
theorem takes_of_find? {p : Pattern} {s : List Char} {m : Match} (h : p.find? s = some m) :
    s = m.before ++ (m.text ++ m.after) ∧ p.Takes m.before.getLast? m.text m.after m.captures := by
  have hfrom := takes_of_findFrom? h
  rwa [Option.or_none] at hfrom

/-- A pattern at the start of the text takes the text from its start on. -/
theorem takes_of_find?_textStart {p : Pattern} {s : List Char} {m : Match}
    (h : (seq textStart p).find? s = some m) :
    s = m.text ++ m.after ∧ p.Takes none m.text m.after m.captures := by
  obtain ⟨hs, _, t, k, l, htext, ⟨⟨rfl, hbehind⟩, rfl⟩, htakes, hcaptures⟩ := takes_of_find? h
  have hbefore : m.before = [] := List.getLast?_eq_none_iff.mp hbehind
  rw [hbefore] at hs htakes
  rw [List.nil_append] at htext
  rw [List.append_nil] at hcaptures
  refine ⟨hs, ?_⟩
  rw [htext, hcaptures]
  exact htakes

/-! ### Parts without groups -/

/-- Whether the pattern keeps nothing. -/
def isBare : Pattern → Bool
  | seq first second => first.isBare && second.isBare
  | alt first second => first.isBare && second.isBare
  | capture _ _ => false
  | _ => true

theorem Takes.reads {p : Pattern} {behind : Option Char} {s rest : List Char} {kept : Captures}
    (h : p.Takes behind s rest kept) : p.Reads s := by
  induction p generalizing behind s rest kept with
  | seq first second ihFirst ihSecond =>
    obtain ⟨a, b, k, l, rfl, ha, hb, -⟩ := h
    exact ⟨a, b, rfl, ihFirst ha, ihSecond hb⟩
  | alt first second ihFirst ihSecond => exact h.imp ihFirst ihSecond
  | capture index inner ih =>
    obtain ⟨k, hk, -⟩ := h
    exact ih hk
  | empty | char | many => exact h.1
  | wordBoundary | textStart | textEnd => exact h.1.1

theorem Takes.eq_nil {p : Pattern} (hp : p.isBare = true) {behind : Option Char}
    {s rest : List Char} {kept : Captures} (h : p.Takes behind s rest kept) : kept = [] := by
  induction p generalizing behind s rest kept with
  | seq first second ihFirst ihSecond =>
    obtain ⟨hfirst, hsecond⟩ := Bool.and_eq_true_iff.mp hp
    obtain ⟨a, b, k, l, rfl, ha, hb, rfl⟩ := h
    rw [ihFirst hfirst ha, ihSecond hsecond hb, List.append_nil]
  | alt first second ihFirst ihSecond =>
    obtain ⟨hfirst, hsecond⟩ := Bool.and_eq_true_iff.mp hp
    exact h.elim (ihFirst hfirst) (ihSecond hsecond)
  | capture index inner ih => cases hp
  | _ => exact h.2

/-! ### Characters that are not kept -/

/-- Whether the character is in none of the classes of the captured parts. -/
def keepsNo (c : Char) : Pattern → Bool
  | seq first second => first.keepsNo c && second.keepsNo c
  | alt first second => first.keepsNo c && second.keepsNo c
  | capture _ inner => inner.excludes c
  | _ => true

theorem keepsNo_of_excludes {p : Pattern} {c : Char} (h : p.excludes c = true) :
    p.keepsNo c = true := by
  induction p with
  | seq first second ihFirst ihSecond =>
    obtain ⟨hfirst, hsecond⟩ := Bool.and_eq_true_iff.mp h
    exact Bool.and_eq_true_iff.mpr ⟨ihFirst hfirst, ihSecond hsecond⟩
  | alt first second ihFirst ihSecond =>
    obtain ⟨hfirst, hsecond⟩ := Bool.and_eq_true_iff.mp h
    exact Bool.and_eq_true_iff.mpr ⟨ihFirst hfirst, ihSecond hsecond⟩
  | capture index inner ih => exact h
  | _ => rfl

theorem not_mem_of_keeps {p : Pattern} {c : Char} (hp : p.keepsNo c = true) {i : ℕ}
    {s : List Char} (hs : p.Keeps i s) : c ∉ s := by
  induction p with
  | seq first second ihFirst ihSecond =>
    obtain ⟨hfirst, hsecond⟩ := Bool.and_eq_true_iff.mp hp
    exact hs.elim (ihFirst hfirst) (ihSecond hsecond)
  | alt first second ihFirst ihSecond =>
    obtain ⟨hfirst, hsecond⟩ := Bool.and_eq_true_iff.mp hp
    exact hs.elim (ihFirst hfirst) (ihSecond hsecond)
  | capture index inner ih =>
    rcases hs with ⟨-, hs⟩ | hs
    · exact not_mem_of_reads hp hs
    · exact ih (keepsNo_of_excludes hp) hs
  | _ => exact hs.elim

/-! ### Patterns at the start of a text -/

/-- A plain pattern at the start is in a text that starts with something it reads. -/
theorem isIn_textStart_iff {p : Pattern} (hp : p.isPlain = true) {s : List Char} :
    (seq textStart p).isIn s = true ↔ ∃ t, t <+: s ∧ p.Reads t := by
  constructor
  · intro h
    obtain ⟨m, hm⟩ := Option.isSome_iff_exists.mp h
    obtain ⟨hs, htakes⟩ := takes_of_find?_textStart hm
    exact ⟨m.text, ⟨m.after, hs.symm⟩, htakes.reads⟩
  · rintro ⟨t, ⟨rest, rfl⟩, ht⟩
    rw [isIn_iff]
    exact ⟨[], t ++ rest, _, rfl, Place.start (t ++ rest), ⟨rfl, rfl⟩, leads_of_reads hp ht _ rfl⟩

end PageModules.Text.Pattern
