import Mathlib.Data.List.Basic
import PageModules.Proofs.Text.Trimmed
import PageModules.Text.Pattern

/-!
# What patterns match

`Pattern.Reads` says which texts a pattern may read, whatever stands around them, and
`Pattern.Keeps` which texts it may keep under a number.  A search finds nothing else
(`Pattern.reads_of_find?`, `Pattern.keeps_of_find?`).  The lemmas on the ways to build patterns say
what the built patterns read; a pattern without blanks (`Pattern.IsSolid`) reads no blank.
-/

namespace PageModules.Text.Pattern

/-! ### What is read -/

/-- A text that the pattern may read. -/
def Reads : Pattern → List Char → Prop
  | empty, s => s = []
  | char holds, s => ∃ c, holds c = true ∧ s = [c]
  | many least _ _ holds, s => (∀ c ∈ s, holds c = true) ∧ least ≤ s.length
  | seq first second, s => ∃ a b, s = a ++ b ∧ first.Reads a ∧ second.Reads b
  | alt first second, s => first.Reads s ∨ second.Reads s
  | capture _ inner, s => inner.Reads s
  | wordBoundary, s => s = []
  | textStart, s => s = []
  | textEnd, s => s = []

/-- A text that the pattern may keep under a number. -/
def Keeps : Pattern → ℕ → List Char → Prop
  | seq first second, i, s => first.Keeps i s ∨ second.Keeps i s
  | alt first second, i, s => first.Keeps i s ∨ second.Keeps i s
  | capture index inner, i, s => (i = index ∧ inner.Reads s) ∨ inner.Keeps i s
  | _, _, _ => False

/-! ### Searches -/

/-- A repetition hands on to a place behind some characters of its class. -/
theorem exists_of_runMany {α : Type} {least : ℕ} {most : Option ℕ} {lazy : Bool}
    {holds : Char → Bool} {behind : Option Char} {rest : List Char} {next : Place → Option α}
    {x : α} (h : runMany least most lazy holds behind rest next = some x) :
    ∃ t q, rest = t ++ q.rest ∧ (∀ c ∈ t, holds c = true) ∧ least ≤ t.length ∧
      next q = some x := by
  induction rest generalizing least most behind with
  | nil =>
    rw [runMany] at h
    split at h
    case isTrue hleast => exact ⟨[], _, rfl, by simp, Nat.le_of_eq hleast, h⟩
    case isFalse => cases h
  | cons c s ih =>
    rw [runMany] at h
    split at h
    case isTrue hc =>
      rw [Bool.and_eq_true] at hc
      have hlonger
          (h : runMany (least - 1) (most.map (· - 1)) lazy holds (some c) s next = some x) :
          ∃ t q, c :: s = t ++ q.rest ∧ (∀ d ∈ t, holds d = true) ∧ least ≤ t.length ∧
            next q = some x := by
        obtain ⟨t, q, hq, ht, hlength, hnext⟩ := ih h
        refine ⟨c :: t, q, by rw [hq, List.cons_append], ?_, ?_, hnext⟩
        · exact List.forall_mem_cons.mpr ⟨hc.1, ht⟩
        · rw [List.length_cons]
          omega
      dsimp only at h
      split at h
      case isTrue hleast =>
        split at h
        · rw [Option.orElse_eq_or, Option.or_eq_some_iff] at h
          rcases h with h | ⟨-, h⟩
          · exact ⟨[], _, rfl, by simp, Nat.le_of_eq hleast, h⟩
          · exact hlonger h
        · rw [Option.orElse_eq_or, Option.or_eq_some_iff] at h
          rcases h with h | ⟨-, h⟩
          · exact hlonger h
          · exact ⟨[], _, rfl, by simp, Nat.le_of_eq hleast, h⟩
      case isFalse => exact hlonger h
    case isFalse =>
      split at h
      case isTrue hleast => exact ⟨[], _, rfl, by simp, Nat.le_of_eq hleast, h⟩
      case isFalse => cases h

/-- A pattern hands on to a place behind a text that it may read, with texts that it may keep. -/
theorem exists_of_run {α : Type} (p : Pattern) {place : Place} {captures : Captures}
    {next : Place → Captures → Option α} {x : α} (h : p.run place captures next = some x) :
    ∃ t q captures', place.rest = t ++ q.rest ∧ p.Reads t ∧
      (∀ e ∈ captures', e ∈ captures ∨ p.Keeps e.1 e.2) ∧ next q captures' = some x := by
  induction p generalizing place captures next with
  | empty => exact ⟨[], place, captures, rfl, rfl, fun e he => .inl he, h⟩
  | char holds =>
    rw [run] at h
    split at h
    · cases h
    case h_2 c s hrest =>
      split at h
      case isTrue hc =>
        exact ⟨[c], ⟨some c, s⟩, captures, hrest, ⟨c, hc, rfl⟩, fun e he => .inl he, h⟩
      case isFalse => cases h
  | many least most lazy holds =>
    rw [run] at h
    obtain ⟨t, q, hrest, hholds, hleast, hnext⟩ := exists_of_runMany h
    exact ⟨t, q, captures, hrest, ⟨hholds, hleast⟩, fun e he => .inl he, hnext⟩
  | seq first second ihFirst ihSecond =>
    rw [run] at h
    obtain ⟨a, q, captures', hq, ha, hcaptures', h⟩ := ihFirst h
    obtain ⟨b, r, captures'', hr, hb, hcaptures'', h⟩ := ihSecond h
    refine ⟨a ++ b, r, captures'', ?_, ⟨a, b, rfl, ha, hb⟩, fun e he => ?_, h⟩
    · rw [hq, hr, List.append_assoc]
    · rcases hcaptures'' e he with he | he
      · exact (hcaptures' e he).imp_right Or.inl
      · exact .inr (.inr he)
  | alt first second ihFirst ihSecond =>
    rw [run, Option.orElse_eq_or, Option.or_eq_some_iff] at h
    rcases h with h | ⟨-, h⟩
    · obtain ⟨t, q, captures', hq, ht, hcaptures', h⟩ := ihFirst h
      exact ⟨t, q, captures', hq, .inl ht, fun e he => (hcaptures' e he).imp_right .inl, h⟩
    · obtain ⟨t, q, captures', hq, ht, hcaptures', h⟩ := ihSecond h
      exact ⟨t, q, captures', hq, .inr ht, fun e he => (hcaptures' e he).imp_right .inr, h⟩
  | capture index inner ih =>
    rw [run] at h
    obtain ⟨t, q, captures', hq, ht, hcaptures', h⟩ := ih h
    -- What is kept is cut out between the two places, so it is what was read.
    have htext : place.textUpTo q = t := by
      rw [Place.textUpTo, hq, List.length_append, Nat.add_sub_cancel, List.take_left]
    refine ⟨t, q, _, hq, ht, ?_, h⟩
    rw [List.forall_mem_cons]
    refine ⟨.inr (.inl ⟨rfl, ?_⟩), fun e he => (hcaptures' e he).imp_right Or.inr⟩
    rwa [htext]
  | wordBoundary =>
    rw [run] at h
    split at h
    · exact ⟨[], place, captures, rfl, rfl, fun e he => .inl he, h⟩
    · cases h
  | textStart =>
    rw [run] at h
    split at h
    · exact ⟨[], place, captures, rfl, rfl, fun e he => .inl he, h⟩
    · cases h
  | textEnd =>
    rw [run] at h
    split at h
    · exact ⟨[], place, captures, rfl, rfl, fun e he => .inl he, h⟩
    · cases h

theorem reads_of_matchAt? {p : Pattern} {place : Place} {m : Match}
    (h : p.matchAt? place = some m) :
    p.Reads m.text ∧ ∀ e ∈ m.captures, p.Keeps e.1 e.2 := by
  obtain ⟨t, q, captures, hq, ht, hcaptures, h⟩ := exists_of_run p h
  obtain rfl := Option.some.inj h
  have htext : place.textUpTo q = t := by
    rw [Place.textUpTo, hq, List.length_append, Nat.add_sub_cancel, List.take_left]
  constructor
  · rwa [htext]
  · exact fun e he => (hcaptures e he).resolve_left (by simp)

theorem reads_of_findFrom? {p : Pattern} {behind : Option Char} {s : List Char} {m : Match}
    (h : p.findFrom? behind s = some m) :
    p.Reads m.text ∧ ∀ e ∈ m.captures, p.Keeps e.1 e.2 := by
  induction s generalizing behind m with
  | nil => exact reads_of_matchAt? h
  | cons c s ih =>
    rw [findFrom?] at h
    split at h
    case h_1 m' hm =>
      obtain rfl := Option.some.inj h
      exact reads_of_matchAt? hm
    case h_2 =>
      obtain ⟨m', hm', rfl⟩ := Option.map_eq_some_iff.mp h
      have hread := ih hm'
      exact hread

/-- **A search finds what the pattern reads.** -/
theorem reads_of_find? {p : Pattern} {s : List Char} {m : Match} (h : p.find? s = some m) :
    p.Reads m.text :=
  (reads_of_findFrom? h).1

/-- **A search keeps what the pattern keeps.** -/
theorem keeps_of_find? {p : Pattern} {s t : List Char} {m : Match} {i : ℕ}
    (h : p.find? s = some m) (ht : m.group? i = some t) : p.Keeps i t := by
  obtain ⟨earlier, later, hcaptures, -⟩ := List.lookup_eq_some_iff.mp ht
  refine (reads_of_findFrom? h).2 (i, t) ?_
  rw [hcaptures]
  exact List.mem_append_right _ List.mem_cons_self

theorem reads_of_mem_findAll {p : Pattern} {s : List Char} {m : Match} (h : m ∈ p.findAll s) :
    p.Reads m.text := by
  have key (behind : Option Char) (s : List Char) :
      ∀ m ∈ p.findAllFrom behind s, p.Reads m.text := by
    induction behind, s using findAllFrom.induct p with
    | case1 behind s hnone => simp [findAllFrom, hnone]
    | case2 behind s m hm hlength ih =>
      rw [findAllFrom]
      simp only [hm, hlength, dite_true]
      exact List.forall_mem_cons.mpr ⟨(reads_of_findFrom? hm).1, ih⟩
    | case3 behind s m hm hlength =>
      rw [findAllFrom]
      simp only [hm, hlength, dite_false]
      exact List.forall_mem_singleton.mpr (reads_of_findFrom? hm).1
  exact key none s m h

/-! ### Building patterns -/

theorem reads_text {w : String} {s : List Char} : (text w).Reads s ↔ s = w.toList := by
  unfold text
  induction w.toList generalizing s with
  | nil => rfl
  | cons c w ih =>
    rw [List.foldr_cons, Reads]
    simp only [ih]
    constructor
    · rintro ⟨_, _, rfl, ⟨d, hd, rfl⟩, rfl⟩
      rw [beq_iff_eq.mp hd]
      rfl
    · rintro rfl
      exact ⟨[c], w, rfl, ⟨c, beq_self_eq_true c, rfl⟩, rfl⟩

theorem reads_folded {w : String} {s : List Char} :
    (folded w).Reads s ↔ s.map foldCase = w.toList := by
  unfold folded
  induction w.toList generalizing s with
  | nil => exact List.map_eq_nil_iff.symm
  | cons c w ih =>
    rw [List.foldr_cons, Reads]
    simp only [ih]
    constructor
    · rintro ⟨_, t, rfl, ⟨d, hd, rfl⟩, rfl⟩
      rw [List.map_append, List.map_singleton, beq_iff_eq.mp hd]
      rfl
    · intro h
      obtain ⟨d, t, rfl, hd, ht⟩ := List.map_eq_cons_iff.mp h
      exact ⟨[d], t, rfl, ⟨d, beq_iff_eq.mpr hd, rfl⟩, ht⟩

theorem reads_choice {ps : List Pattern} {s : List Char} :
    (choice ps).Reads s ↔ ∃ p ∈ ps, p.Reads s := by
  induction ps using choice.induct with
  | case1 => simp [choice, Reads]
  | case2 p => simp [choice]
  | case3 p ps hne ih =>
    rw [choice, Reads, ih, List.exists_mem_cons_iff]
    exact hne

theorem reads_foldedChoice {ws : List String} {s : List Char} :
    (foldedChoice ws).Reads s ↔ ∃ w ∈ ws, s.map foldCase = w.toList := by
  rw [foldedChoice, reads_choice]
  simp only [List.mem_map, exists_exists_and_eq_and, reads_folded]

/-! ### Patterns without blanks -/

/-- The pattern has no blank in any of its classes. -/
def IsSolid : Pattern → Prop
  | char holds => ∀ c, holds c = true → isBlank c = false
  | many _ _ _ holds => ∀ c, holds c = true → isBlank c = false
  | seq first second => first.IsSolid ∧ second.IsSolid
  | alt first second => first.IsSolid ∧ second.IsSolid
  | capture _ inner => inner.IsSolid
  | _ => True

theorem IsSolid.isBlank_eq_false {p : Pattern} (h : p.IsSolid) {s : List Char} (hs : p.Reads s) :
    ∀ c ∈ s, isBlank c = false := by
  induction p generalizing s with
  | char holds =>
    obtain ⟨c, hc, rfl⟩ := hs
    exact List.forall_mem_singleton.mpr (h c hc)
  | many least most lazy holds => exact fun c hc => h c (hs.1 c hc)
  | seq first second ihFirst ihSecond =>
    obtain ⟨a, b, rfl, ha, hb⟩ := hs
    exact List.forall_mem_append.mpr ⟨ihFirst h.1 ha, ihSecond h.2 hb⟩
  | alt first second ihFirst ihSecond => exact hs.elim (ihFirst h.1) (ihSecond h.2)
  | capture index inner ih => exact ih h hs
  | _ =>
    obtain rfl : s = [] := hs
    simp

/-- Folding the case makes no blank of another character. -/
theorem isBlank_eq_false_of_foldCase {c : Char} (h : isBlank (foldCase c) = false) :
    isBlank c = false := by
  unfold foldCase at h
  split at h
  case isTrue hc =>
    obtain rfl : c = '\u017F' := Char.toNat_inj.mp hc
    decide
  case isFalse =>
    split at h
    case isTrue hc =>
      obtain rfl : c = '\u212A' := Char.toNat_inj.mp hc
      decide
    case isFalse => rwa [isBlank_lower] at h

theorem isSolid_text {w : String} (h : ∀ c ∈ w.toList, isBlank c = false) : (text w).IsSolid := by
  unfold text
  generalize w.toList = cs at h ⊢
  induction cs with
  | nil => trivial
  | cons c cs ih =>
    obtain ⟨hc, hcs⟩ := List.forall_mem_cons.mp h
    exact ⟨fun d hd => by rwa [beq_iff_eq.mp hd], ih hcs⟩

theorem isSolid_folded {w : String} (h : ∀ c ∈ w.toList, isBlank c = false) :
    (folded w).IsSolid := by
  unfold folded
  generalize w.toList = cs at h ⊢
  induction cs with
  | nil => trivial
  | cons c cs ih =>
    obtain ⟨hc, hcs⟩ := List.forall_mem_cons.mp h
    refine ⟨fun d hd => isBlank_eq_false_of_foldCase ?_, ih hcs⟩
    rwa [beq_iff_eq.mp hd]

theorem isSolid_choice {ps : List Pattern} (h : ∀ p ∈ ps, p.IsSolid) : (choice ps).IsSolid := by
  induction ps using choice.induct with
  | case1 => exact fun c hc => absurd hc Bool.false_ne_true
  | case2 p => exact h p List.mem_cons_self
  | case3 p ps hne ih =>
    obtain ⟨hp, hps⟩ := List.forall_mem_cons.mp h
    rw [choice]
    · exact ⟨hp, ih hps⟩
    · exact hne

theorem isSolid_foldedChoice {ws : List String}
    (h : ∀ w ∈ ws, ∀ c ∈ w.toList, isBlank c = false) : (foldedChoice ws).IsSolid := by
  refine isSolid_choice ?_
  rw [List.forall_mem_map]
  exact fun w hw => isSolid_folded (h w hw)

theorem isSolid_sequence {ps : List Pattern} (h : ∀ p ∈ ps, p.IsSolid) :
    (sequence ps).IsSolid := by
  induction ps with
  | nil => trivial
  | cons p ps ih =>
    obtain ⟨hp, hps⟩ := List.forall_mem_cons.mp h
    exact ⟨hp, ih hps⟩

theorem isSolid_optional {p : Pattern} (h : p.IsSolid) : (optional p).IsSolid := ⟨h, trivial⟩

/-! ### Captures without blanks -/

/-- What the pattern keeps has no blank, though it may read blanks around it. -/
def KeepsSolid (p : Pattern) : Prop := ∀ i s, p.Keeps i s → ∀ c ∈ s, isBlank c = false

theorem IsSolid.keepsSolid {p : Pattern} (h : p.IsSolid) : p.KeepsSolid := by
  induction p with
  | seq first second ihFirst ihSecond =>
    exact fun i s hs => hs.elim (ihFirst h.1 i s) (ihSecond h.2 i s)
  | alt first second ihFirst ihSecond =>
    exact fun i s hs => hs.elim (ihFirst h.1 i s) (ihSecond h.2 i s)
  | capture index inner ih =>
    exact fun i s hs => hs.elim (fun hread => IsSolid.isBlank_eq_false h hread.2) (ih h i s)
  | _ => exact fun i s hs => absurd hs id

theorem keepsSolid_blanks : blanks.KeepsSolid := fun _ _ hs => absurd hs id

theorem keepsSolid_optional {p : Pattern} (h : p.KeepsSolid) : (optional p).KeepsSolid :=
  fun i s hs => hs.elim (h i s) False.elim

theorem keepsSolid_sequence {ps : List Pattern} (h : ∀ p ∈ ps, p.KeepsSolid) :
    (sequence ps).KeepsSolid := by
  induction ps with
  | nil => exact fun i s hs => absurd hs id
  | cons p ps ih =>
    obtain ⟨hp, hps⟩ := List.forall_mem_cons.mp h
    exact fun i s hs => hs.elim (hp i s) (ih hps i s)

/-- A search keeps no blanks under a number then. -/
theorem KeepsSolid.isTrimmed_of_find? {p : Pattern} (h : p.KeepsSolid) {s t : List Char} {m : Match}
    {i : ℕ} (hm : p.find? s = some m) (ht : m.group? i = some t) : Chars.IsTrimmed t :=
  .of_forall (h i t (keeps_of_find? hm ht))

end PageModules.Text.Pattern
