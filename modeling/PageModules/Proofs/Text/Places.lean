import PageModules.Proofs.Text.Matches

/-!
# Where patterns match

`Pattern.Leads` says from which places of a text to which later ones a pattern leads; unlike what a
pattern may read (`Pattern.Reads`) it knows what stands around the match. A run goes through exactly
these places (`Pattern.isSome_run_iff`), so a pattern is in a text exactly if it leads from some
place of the text to some other (`Pattern.isIn_iff`).
-/

namespace PageModules.Text

/-- The place behind some text that follows a place. -/
def Place.after (p : Place) (t rest : List Char) : Place := ⟨t.getLast?.or p.behind, rest⟩

theorem Place.after_cons (p : Place) (c : Char) (t rest : List Char) :
    p.after (c :: t) rest = Place.after ⟨some c, t ++ rest⟩ t rest := by
  rw [Place.after, Place.after, List.getLast?_cons]
  cases t.getLast? <;> rfl

namespace Pattern

/-- The pattern leads from a place to another, behind the text that it reads. -/
def Leads : Pattern → Place → Place → Prop
  | empty, p, q => q = p
  | char holds, p, q => ∃ c s, p.rest = c :: s ∧ holds c = true ∧ q = ⟨some c, s⟩
  | many least most _ holds, p, q => ∃ t s, p.rest = t ++ s ∧ (∀ c ∈ t, holds c = true) ∧
      least ≤ t.length ∧ (∀ n, most = some n → t.length ≤ n) ∧ q = p.after t s
  | seq first second, p, q => ∃ r, first.Leads p r ∧ second.Leads r q
  | alt first second, p, q => first.Leads p q ∨ second.Leads p q
  | capture _ inner, p, q => inner.Leads p q
  | wordBoundary, p, q => p.isWordBoundary = true ∧ q = p
  | textStart, p, q => p.behind = none ∧ q = p
  | textEnd, p, q => p.rest = [] ∧ q = p

/-! ### Runs -/

variable {least : ℕ} {most : Option ℕ} {lazy : Bool} {holds : Char → Bool}

theorem leads_many_nil_iff {behind : Option Char} {q : Place} :
    (many least most lazy holds).Leads ⟨behind, []⟩ q ↔ least = 0 ∧ q = ⟨behind, []⟩ := by
  constructor
  · rintro ⟨t, s, hrest, -, hleast, -, rfl⟩
    obtain ⟨rfl, rfl⟩ := List.append_eq_nil_iff.mp hrest.symm
    exact ⟨Nat.le_zero.mp hleast, rfl⟩
  · rintro ⟨rfl, rfl⟩
    exact ⟨[], [], rfl, by simp, Nat.le_refl 0, by simp, rfl⟩

/-- A repetition reads nothing, or one character of its class and then fewer of them. -/
theorem leads_many_cons_iff {behind : Option Char} {c : Char} {s : List Char} {q : Place} :
    (many least most lazy holds).Leads ⟨behind, c :: s⟩ q ↔
      (least = 0 ∧ q = ⟨behind, c :: s⟩) ∨
        (holds c = true ∧ most ≠ some 0 ∧
          (many (least - 1) (most.map (· - 1)) lazy holds).Leads ⟨some c, s⟩ q) := by
  constructor
  · rintro ⟨t, rest, hrest, hholds, hleast, hmost, rfl⟩
    cases t with
    | nil =>
      obtain rfl := hrest
      exact Or.inl ⟨Nat.le_zero.mp hleast, rfl⟩
    | cons d t =>
      obtain ⟨rfl, rfl⟩ := List.cons.inj hrest
      obtain ⟨hd, ht⟩ := List.forall_mem_cons.mp hholds
      rw [List.length_cons] at hleast hmost
      refine Or.inr ⟨hd, ?_, t, rest, rfl, ht, by omega, ?_, Place.after_cons _ _ _ _⟩
      · intro hzero
        exact absurd (hmost 0 hzero) (by omega)
      · intro n hn
        obtain ⟨m, hm, rfl⟩ := Option.map_eq_some_iff.mp hn
        have := hmost m hm
        omega
  · rintro (⟨rfl, rfl⟩ | ⟨hc, hzero, t, rest, hrest, hholds, hleast, hmost, rfl⟩)
    · exact ⟨[], c :: s, rfl, by simp, Nat.le_refl 0, by simp, rfl⟩
    · obtain rfl : s = t ++ rest := hrest
      refine ⟨c :: t, rest, rfl, List.forall_mem_cons.mpr ⟨hc, hholds⟩, ?_, ?_,
        (Place.after_cons ⟨behind, _⟩ _ _ _).symm⟩
      · rw [List.length_cons]
        omega
      · intro n hn
        have hpos : n ≠ 0 := fun h => hzero (h ▸ hn)
        have := hmost (n - 1) (by rw [hn]; rfl)
        rw [List.length_cons]
        omega

/-- A repetition hands on to every place behind as many characters of its class as it may read. -/
theorem isSome_runMany_iff {α : Type} {behind : Option Char} {rest : List Char}
    {next : Place → Option α} :
    (runMany least most lazy holds behind rest next).isSome = true ↔
      ∃ q, (many least most lazy holds).Leads ⟨behind, rest⟩ q ∧ (next q).isSome = true := by
  induction rest generalizing least most behind with
  | nil =>
    rw [runMany]
    simp only [leads_many_nil_iff]
    split
    case isTrue hleast => simp [hleast]
    case isFalse hleast => simp [hleast]
  | cons c s ih =>
    rw [runMany]
    simp only [leads_many_cons_iff, or_and_right, exists_or]
    by_cases hmore : holds c = true ∧ most ≠ some 0
    · have hlonger : (runMany (least - 1) (most.map (· - 1)) lazy holds (some c) s next).isSome =
          true ↔ ∃ q, (many (least - 1) (most.map (· - 1)) lazy holds).Leads ⟨some c, s⟩ q ∧
            (next q).isSome = true := ih
      simp only [hmore.1, ne_eq, hmore.2, not_false_eq_true, true_and, ← hlonger]
      rw [if_pos (by simpa using hmore.2)]
      generalize runMany (least - 1) (most.map (· - 1)) lazy holds (some c) s next = longer
      split
      case isTrue hleast => cases lazy <;> simp [hleast, Option.orElse_eq_or, or_comm]
      case isFalse hleast => simp [hleast]
    · have hnone (q : Place) : ¬(holds c = true ∧ most ≠ some 0 ∧
          (many (least - 1) (most.map (· - 1)) lazy holds).Leads ⟨some c, s⟩ q) :=
        fun h => hmore ⟨h.1, h.2.1⟩
      rw [if_neg (by simpa using hmore)]
      simp only [hnone, false_and, exists_false, or_false]
      split
      case isTrue hleast => simp [hleast]
      case isFalse hleast => simp [hleast]

/-- **A run goes where the pattern leads**: it hands on to a place that is accepted exactly if the
pattern leads to one. -/
theorem isSome_run_iff {α : Type} (p : Pattern) {accepts : Place → Prop} {place : Place}
    {captures : Captures} {next : Place → Captures → Option α}
    (hnext : ∀ q captures, (next q captures).isSome = true ↔ accepts q) :
    (p.run place captures next).isSome = true ↔ ∃ q, p.Leads place q ∧ accepts q := by
  induction p generalizing place captures next accepts with
  | empty =>
    rw [run, hnext]
    simp [Leads]
  | char holds =>
    rw [run]
    cases hrest : place.rest with
    | nil => simp [Leads, hrest]
    | cons c s =>
      dsimp only
      split
      case isTrue hc => simp [Leads, hrest, hc, hnext]
      case isFalse hc => simp [Leads, hrest, hc]
  | many least most lazy holds =>
    rw [run, isSome_runMany_iff]
    simp only [hnext]
  | seq first second ihFirst ihSecond =>
    -- The first part is asked for a place from which the second one leads to an accepted one.
    have hsecond (r : Place) (captures : Captures) :
        (second.run r captures next).isSome = true ↔ ∃ q, second.Leads r q ∧ accepts q :=
      ihSecond hnext
    rw [run, ihFirst hsecond]
    constructor
    · rintro ⟨r, hr, q, hq, haccepts⟩
      exact ⟨q, ⟨r, hr, hq⟩, haccepts⟩
    · rintro ⟨q, ⟨r, hr, hq⟩, haccepts⟩
      exact ⟨r, hr, q, hq, haccepts⟩
  | alt first second ihFirst ihSecond =>
    rw [run, Option.orElse_eq_or, Option.isSome_or, Bool.or_eq_true, ihFirst hnext,
      ihSecond hnext]
    simp only [Leads, or_and_right, exists_or]
  | capture index inner ih => exact ih fun q captures => hnext q _
  | wordBoundary =>
    rw [run]
    split
    case isTrue h => simp [Leads, h, hnext]
    case isFalse h => simp [Leads, h]
  | textStart =>
    rw [run]
    cases hbehind : place.behind with
    | none => simp [Leads, hbehind, hnext]
    | some c => simp [Leads, hbehind]
  | textEnd =>
    rw [run]
    cases hrest : place.rest with
    | nil => simp [Leads, hrest, hnext]
    | cons c s => simp [Leads, hrest]

/-! ### Searches -/

theorem isSome_matchAt?_iff {p : Pattern} {place : Place} :
    (p.matchAt? place).isSome = true ↔ ∃ q, p.Leads place q := by
  have hnext (q : Place) (captures : Captures) :
      (some (Match.mk [] (place.textUpTo q) q.rest captures)).isSome = true ↔ True := by simp
  rw [matchAt?, isSome_run_iff p hnext]
  simp only [and_true]

theorem isSome_findFrom?_iff {p : Pattern} {behind : Option Char} {s : List Char} :
    (p.findFrom? behind s).isSome = true ↔
      ∃ before after q, s = before ++ after ∧ p.Leads ⟨before.getLast?.or behind, after⟩ q := by
  induction s generalizing behind with
  | nil =>
    rw [findFrom?, isSome_matchAt?_iff]
    constructor
    · rintro ⟨q, hq⟩
      exact ⟨[], [], q, rfl, hq⟩
    · rintro ⟨before, after, q, hs, hq⟩
      obtain ⟨rfl, rfl⟩ := List.append_eq_nil_iff.mp hs.symm
      exact ⟨q, hq⟩
  | cons c s ih =>
    have hsplit : (p.findFrom? behind (c :: s)).isSome = true ↔
        (p.matchAt? ⟨behind, c :: s⟩).isSome = true ∨ (p.findFrom? (some c) s).isSome = true := by
      rw [findFrom?]
      cases p.matchAt? ⟨behind, c :: s⟩ with
      | none => simp
      | some m => simp
    have hlast (before : List Char) :
        (c :: before).getLast?.or behind = before.getLast?.or (some c) := by
      rw [List.getLast?_cons]
      cases before.getLast? <;> rfl
    rw [hsplit, isSome_matchAt?_iff, ih]
    constructor
    · rintro (⟨q, hq⟩ | ⟨before, after, q, rfl, hq⟩)
      · exact ⟨[], c :: s, q, rfl, hq⟩
      · exact ⟨c :: before, after, q, rfl, by rwa [hlast]⟩
    · rintro ⟨before, after, q, hs, hq⟩
      cases before with
      | nil =>
        obtain rfl : c :: s = after := hs
        exact Or.inl ⟨q, hq⟩
      | cons d before =>
        obtain ⟨rfl, rfl⟩ := List.cons.inj hs
        exact Or.inr ⟨before, after, q, rfl, by rwa [hlast] at hq⟩

/-- **A pattern is in a text** exactly if it leads from some place of the text to another. -/
theorem isIn_iff {p : Pattern} {s : List Char} :
    p.isIn s = true ↔
      ∃ before after q, s = before ++ after ∧ p.Leads ⟨before.getLast?, after⟩ q := by
  rw [isIn, find?, isSome_findFrom?_iff]
  simp only [Option.or_none]

/-! ### Building patterns -/

/-- A text leads behind itself. -/
theorem leads_text_iff {w : String} {p q : Place} :
    (text w).Leads p q ↔ ∃ s, p.rest = w.toList ++ s ∧ q = p.after w.toList s := by
  unfold text
  induction w.toList generalizing p with
  | nil =>
    constructor
    · rintro rfl
      exact ⟨q.rest, rfl, rfl⟩
    · rintro ⟨s, rfl, rfl⟩
      rfl
  | cons c w ih =>
    rw [List.foldr_cons, Leads]
    simp only [ih]
    constructor
    · rintro ⟨_, ⟨d, s, hrest, hd, rfl⟩, t, rfl, rfl⟩
      obtain rfl := beq_iff_eq.mp hd
      exact ⟨t, hrest, (Place.after_cons p d w t).symm⟩
    · rintro ⟨t, hrest, rfl⟩
      exact ⟨⟨some c, w ++ t⟩, ⟨c, w ++ t, hrest, beq_self_eq_true c, rfl⟩, t, rfl,
        Place.after_cons p c w t⟩

end Pattern

end PageModules.Text
