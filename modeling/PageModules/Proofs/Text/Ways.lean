import PageModules.Proofs.Lists
import PageModules.Proofs.Text.Places

/-!
# The ways of matching

`Pattern.ways` lists the ways in which a pattern matches at a place, in the order in which they are
tried, each with the place where it ends and the captured texts.  A run takes the first way that is
accepted (`Pattern.run_eq_findSome?`), a search the first way of all
(`Pattern.matchAt?_eq_head?`).  A greedy repetition takes as much as lets the rest match
(`Pattern.findSome?_waysMany_append`).

A plain pattern looks at nothing but the text that it reads (`Pattern.isPlain`).  So on a longer
text it has the same ways, and others only behind the border (`Pattern.filter_ways_append`); if it
reads only texts that end with a character which stands nowhere behind the border, the longer text
has the same first match (`Pattern.find?_append_of_closing`).
-/

namespace PageModules.Text

theorem Place.textUpTo_eq {p q : Place} {t : List Char} (h : p.rest = t ++ q.rest) :
    p.textUpTo q = t := by
  rw [Place.textUpTo, h, List.length_append, Nat.add_sub_cancel, List.take_left]

namespace Pattern

/-! ### Ways -/

/-- A way of matching: the place where it ends and the captured texts. -/
abbrev Way := Place × Captures

/-- The places behind `least` to `most` characters of a class, in the order of the tries. -/
def waysMany (least : ℕ) (most : Option ℕ) (lazy : Bool) (holds : Char → Bool)
    (behind : Option Char) : List Char → List Place
  | [] => if least = 0 then [⟨behind, []⟩] else []
  | c :: s =>
    let here : List Place := if least = 0 then [⟨behind, c :: s⟩] else []
    let longer := if holds c && most != some 0 then
      waysMany (least - 1) (most.map (· - 1)) lazy holds (some c) s else []
    if lazy then here ++ longer else longer ++ here

/-- The ways in which a pattern matches at a place, in the order of the tries. -/
def ways : Pattern → Place → Captures → List Way
  | empty, place, captures => [(place, captures)]
  | char holds, place, captures =>
    match place.rest with
    | [] => []
    | c :: s => if holds c then [(⟨some c, s⟩, captures)] else []
  | many least most lazy holds, place, captures =>
    (waysMany least most lazy holds place.behind place.rest).map fun q => (q, captures)
  | seq first second, place, captures =>
    (first.ways place captures).flatMap fun w => second.ways w.1 w.2
  | alt first second, place, captures => first.ways place captures ++ second.ways place captures
  | capture index inner, place, captures =>
    (inner.ways place captures).map fun w => (w.1, (index, place.textUpTo w.1) :: w.2)
  | wordBoundary, place, captures => if place.isWordBoundary then [(place, captures)] else []
  | textStart, place, captures => if place.behind.isNone then [(place, captures)] else []
  | textEnd, place, captures => if place.rest.isEmpty then [(place, captures)] else []

theorem ways_char_cons (holds : Char → Bool) (behind : Option Char) (c : Char) (s : List Char)
    (captures : Captures) : (char holds).ways ⟨behind, c :: s⟩ captures =
      if holds c then [(⟨some c, s⟩, captures)] else [] := rfl

/-! ### Runs and searches -/

theorem runMany_eq_findSome? {α : Type} (least : ℕ) (most : Option ℕ) (lazy : Bool)
    (holds : Char → Bool) (behind : Option Char) (rest : List Char) (next : Place → Option α) :
    runMany least most lazy holds behind rest next =
      (waysMany least most lazy holds behind rest).findSome? next := by
  induction rest generalizing least most behind with
  | nil =>
    rw [runMany, waysMany]
    split <;> simp
  | cons c s ih =>
    rw [runMany, waysMany]
    simp only [ih, Option.orElse_eq_or]
    by_cases hmore : (holds c && most != some 0) = true <;> by_cases hleast : least = 0 <;>
      cases lazy <;> cases hnext : next ⟨behind, c :: s⟩ <;>
        simp [hmore, hleast, hnext, List.findSome?_append]

/-- **A run takes the first way that is accepted.** -/
theorem run_eq_findSome? {α : Type} (p : Pattern) (place : Place) (captures : Captures)
    (next : Place → Captures → Option α) :
    p.run place captures next = (p.ways place captures).findSome? fun w => next w.1 w.2 := by
  induction p generalizing place captures next with
  | empty => simp [run, ways]
  | char holds =>
    rw [run, ways]
    cases place.rest with
    | nil => rfl
    | cons c s => dsimp only; split <;> simp
  | many least most lazy holds =>
    rw [run, ways, runMany_eq_findSome?, List.findSome?_map]
    rfl
  | seq first second ihFirst ihSecond =>
    rw [run, ways, ihFirst, Lists.findSome?_flatMap]
    simp only [ihSecond]
  | alt first second ihFirst ihSecond =>
    rw [run, ways, ihFirst, ihSecond, Option.orElse_eq_or, List.findSome?_append]
  | capture index inner ih =>
    rw [run, ways, ih, List.findSome?_map]
    rfl
  | wordBoundary => rw [run, ways]; split <;> simp
  | textStart => rw [run, ways]; split <;> simp
  | textEnd => rw [run, ways]; split <;> simp

/-- The match that a way gives. -/
def matchOf (place : Place) (w : Way) : Match := ⟨[], place.textUpTo w.1, w.1.rest, w.2⟩

theorem matchAt?_eq_head? (p : Pattern) (place : Place) :
    p.matchAt? place = (p.ways place []).head?.map (matchOf place) := by
  rw [matchAt?, run_eq_findSome?]
  cases p.ways place [] <;> rfl

/-- A match at the start of a text is the first one. -/
theorem find?_of_matchAt? {p : Pattern} {s : List Char} {m : Match}
    (h : p.matchAt? (Place.start s) = some m) : p.find? s = some m := by
  cases s with
  | nil => exact h
  | cons c s =>
    rw [Place.start] at h
    rw [find?, findFrom?, h]

/-- A way ends behind a text that the pattern may read. -/
theorem exists_of_mem_ways {p : Pattern} {place : Place} {captures : Captures} {w : Way}
    (h : w ∈ p.ways place captures) : ∃ t, place.rest = t ++ w.1.rest ∧ p.Reads t := by
  classical
  have hrun : (p.run place captures fun q caps => if (q, caps) = w then some () else none).isSome =
      true := by
    rw [run_eq_findSome?, List.findSome?_isSome_iff]
    exact ⟨w, h, by simp⟩
  obtain ⟨u, hu⟩ := Option.isSome_iff_exists.mp hrun
  obtain ⟨t, q, captures', hrest, ht, -, hnext⟩ := exists_of_run p hu
  split at hnext
  case isTrue hw => exact ⟨t, hw ▸ hrest, ht⟩
  case isFalse => cases hnext

theorem exists_of_mem_waysMany {least : ℕ} {most : Option ℕ} {lazy : Bool} {holds : Char → Bool}
    {behind : Option Char} {s : List Char} {q : Place}
    (h : q ∈ waysMany least most lazy holds behind s) : ∃ t, s = t ++ q.rest := by
  have hway : (q, ([] : Captures)) ∈ (many least most lazy holds).ways ⟨behind, s⟩ [] :=
    List.mem_map.mpr ⟨q, h, rfl⟩
  obtain ⟨t, hrest, -⟩ := exists_of_mem_ways hway
  exact ⟨t, hrest⟩

/-- **A greedy repetition takes as much as is accepted.** -/
theorem findSome?_waysMany_append {α : Type} {least : ℕ} {holds : Char → Bool}
    {behind : Option Char} {u w : List Char} {next : Place → Option α} {x : α}
    (hu : ∀ c ∈ u, holds c = true) (hleast : least ≤ u.length)
    (hlater : ∀ b c a s, w = c :: a ++ s → next ⟨b, s⟩ = none)
    (hnext : next (Place.after ⟨behind, u ++ w⟩ u w) = some x) :
    (waysMany least none false holds behind (u ++ w)).findSome? next = some x := by
  induction u generalizing least behind with
  | nil =>
    obtain rfl : least = 0 := Nat.le_zero.mp hleast
    have hnext : next ⟨behind, w⟩ = some x := hnext
    cases w with
    | nil => simpa [waysMany] using hnext
    | cons c w =>
      have hlonger (least : ℕ) (most : Option ℕ) :
          (waysMany least most false holds (some c) w).findSome? next = none := by
        refine List.findSome?_eq_none_iff.mpr fun q hq => ?_
        obtain ⟨a, ha⟩ := exists_of_mem_waysMany hq
        exact hlater q.behind c a q.rest (by rw [ha, List.cons_append])
      rw [List.nil_append, waysMany, if_neg Bool.false_ne_true, List.findSome?_append]
      split <;> simpa [hlonger] using hnext
  | cons d u ih =>
    obtain ⟨hd, hu⟩ := List.forall_mem_cons.mp hu
    rw [Place.after_cons] at hnext
    rw [List.length_cons] at hleast
    rw [List.cons_append, waysMany, if_neg Bool.false_ne_true, List.findSome?_append,
      if_pos (by simp [hd]), Option.map_none, ih hu (by omega) hnext]
    rfl

/-! ### Sequences -/

theorem ways_sequence_append (ps qs : List Pattern) (place : Place) (captures : Captures) :
    (sequence (ps ++ qs)).ways place captures =
      ((sequence ps).ways place captures).flatMap fun w => (sequence qs).ways w.1 w.2 := by
  unfold sequence
  induction ps generalizing place captures with
  | nil => simp [ways]
  | cons p ps ih =>
    rw [List.cons_append, List.foldr_cons, List.foldr_cons, ways, ways, List.flatMap_assoc]
    simp only [ih]

theorem reads_sequence_append {ps qs : List Pattern} {s : List Char} :
    (sequence (ps ++ qs)).Reads s ↔
      ∃ a b, s = a ++ b ∧ (sequence ps).Reads a ∧ (sequence qs).Reads b := by
  unfold sequence
  induction ps generalizing s with
  | nil => simp [Reads]
  | cons p ps ih =>
    rw [List.cons_append, List.foldr_cons, List.foldr_cons]
    constructor
    · rintro ⟨a, b, rfl, ha, hb⟩
      obtain ⟨b, d, rfl, hb, hd⟩ := ih.mp hb
      exact ⟨a ++ b, d, (List.append_assoc a b d).symm, ⟨a, b, rfl, ha, hb⟩, hd⟩
    · rintro ⟨_, d, rfl, ⟨a, b, rfl, ha, hb⟩, hd⟩
      exact ⟨a, b ++ d, List.append_assoc a b d, ha, ih.mpr ⟨b, d, rfl, hb, hd⟩⟩

/-! ### Characters that a pattern does not read -/

/-- Whether the character is in none of the classes of the pattern. -/
def excludes (c : Char) : Pattern → Bool
  | char holds => !holds c
  | many _ _ _ holds => !holds c
  | seq first second => first.excludes c && second.excludes c
  | alt first second => first.excludes c && second.excludes c
  | capture _ inner => inner.excludes c
  | _ => true

theorem not_mem_of_reads {p : Pattern} {c : Char} (hp : p.excludes c = true) {s : List Char}
    (hs : p.Reads s) : c ∉ s := by
  induction p generalizing s with
  | char holds =>
    obtain ⟨d, hd, rfl⟩ := hs
    rw [List.mem_singleton]
    rintro rfl
    simp [excludes, hd] at hp
  | many least most lazy holds =>
    intro hc
    simp [excludes, hs.1 c hc] at hp
  | seq first second ihFirst ihSecond =>
    obtain ⟨a, b, rfl, ha, hb⟩ := hs
    obtain ⟨hfirst, hsecond⟩ := Bool.and_eq_true_iff.mp hp
    rw [List.mem_append, not_or]
    exact ⟨ihFirst hfirst ha, ihSecond hsecond hb⟩
  | alt first second ihFirst ihSecond =>
    obtain ⟨hfirst, hsecond⟩ := Bool.and_eq_true_iff.mp hp
    exact hs.elim (ihFirst hfirst) (ihSecond hsecond)
  | capture index inner ih => exact ih hp hs
  | _ =>
    obtain rfl : s = [] := hs
    exact List.not_mem_nil

/-! ### Plain patterns -/

/-- Whether the pattern looks at nothing but the text that it reads, and reads as much of it as
there is. -/
def isPlain : Pattern → Bool
  | empty => true
  | char _ => true
  | many _ most _ _ => most.isNone
  | seq first second => first.isPlain && second.isPlain
  | alt first second => first.isPlain && second.isPlain
  | capture _ inner => inner.isPlain
  | wordBoundary => false
  | textStart => false
  | textEnd => false

/-- A plain pattern leads behind each text that it may read. -/
theorem leads_of_reads {p : Pattern} (hp : p.isPlain = true) {t : List Char} (ht : p.Reads t)
    (place : Place) {s : List Char} (hrest : place.rest = t ++ s) :
    p.Leads place (place.after t s) := by
  induction p generalizing place t s with
  | empty =>
    obtain rfl : t = [] := ht
    rw [Leads, Place.after, ← show place.rest = s from hrest]
    rfl
  | char holds =>
    obtain ⟨c, hc, rfl⟩ := ht
    exact ⟨c, s, hrest, hc, rfl⟩
  | many least most lazy holds =>
    refine ⟨t, s, hrest, ht.1, ht.2, fun n hn => ?_, rfl⟩
    rw [isPlain, hn] at hp
    cases hp
  | seq first second ihFirst ihSecond =>
    obtain ⟨a, b, rfl, ha, hb⟩ := ht
    obtain ⟨hfirst, hsecond⟩ := Bool.and_eq_true_iff.mp hp
    rw [List.append_assoc] at hrest
    refine ⟨place.after a (b ++ s), ihFirst hfirst ha place hrest, ?_⟩
    have hlast : place.after (a ++ b) s = (place.after a (b ++ s)).after b s := by
      rw [Place.after, Place.after, Place.after, List.getLast?_append, Option.or_assoc]
    rw [hlast]
    exact ihSecond hsecond hb _ rfl
  | alt first second ihFirst ihSecond =>
    obtain ⟨hfirst, hsecond⟩ := Bool.and_eq_true_iff.mp hp
    exact ht.imp (fun h => ihFirst hfirst h place hrest) fun h => ihSecond hsecond h place hrest
  | capture index inner ih => exact ih hp ht place hrest
  | _ => cases hp

/-- So it has a way at a place where such a text follows. -/
theorem ways_ne_nil_of_reads {p : Pattern} (hp : p.isPlain = true) {t : List Char}
    (ht : p.Reads t) (place : Place) {s : List Char} (hrest : place.rest = t ++ s) :
    p.ways place [] ≠ [] := by
  intro hnil
  have hmatch := isSome_matchAt?_iff.mpr ⟨_, leads_of_reads hp ht place hrest⟩
  rw [matchAt?_eq_head?, hnil] at hmatch
  cases hmatch

/-! ### Longer texts -/

/-- A way with more text behind its end. -/
def extendWay (t : List Char) (w : Way) : Way := (⟨w.1.behind, w.1.rest ++ t⟩, w.2)

/-- Whether a way ends in front of the given text or at its start. -/
def isWithin (t : List Char) (w : Way) : Bool := t.length ≤ w.1.rest.length

/-- A way never ends in front of its start. -/
theorem isWithin_of_mem_ways {p : Pattern} {t : List Char} {v w : Way}
    (h : w ∈ p.ways v.1 v.2) (hw : isWithin t w = true) : isWithin t v = true := by
  obtain ⟨u, hrest, -⟩ := exists_of_mem_ways h
  rw [isWithin, decide_eq_true_eq] at hw ⊢
  rw [hrest, List.length_append]
  omega

/-- A way reads the same text with more text behind its end. -/
theorem textUpTo_extendWay {p : Pattern} {behind : Option Char} {r : List Char}
    {captures : Captures} {w : Way} (h : w ∈ p.ways ⟨behind, r⟩ captures) (t : List Char) :
    Place.textUpTo ⟨behind, r ++ t⟩ (extendWay t w).1 = Place.textUpTo ⟨behind, r⟩ w.1 := by
  obtain ⟨u, hrest, -⟩ := exists_of_mem_ways h
  have hlong : r ++ t = u ++ (w.1.rest ++ t) := by
    rw [← List.append_assoc]
    exact congrArg (· ++ t) hrest
  exact (Place.textUpTo_eq hlong).trans (Place.textUpTo_eq hrest).symm

theorem filter_waysMany_append (least : ℕ) (most : Option ℕ) (lazy : Bool) (holds : Char → Bool)
    (behind : Option Char) (r t : List Char) :
    (waysMany least most lazy holds behind (r ++ t)).filter (fun q => t.length ≤ q.rest.length) =
      (waysMany least most lazy holds behind r).map fun q => ⟨q.behind, q.rest ++ t⟩ := by
  induction r generalizing least most behind with
  | nil =>
    rw [List.nil_append, waysMany]
    cases t with
    | nil => rw [waysMany]; split <;> simp
    | cons c t =>
      have hlonger : ((if (holds c && most != some 0) = true then
          waysMany (least - 1) (most.map (· - 1)) lazy holds (some c) t else []).filter
            fun q : Place => (c :: t).length ≤ q.rest.length) = [] := by
        refine List.filter_eq_nil_iff.mpr fun q hq hle => ?_
        split at hq
        case isTrue =>
          obtain ⟨u, hrest⟩ := exists_of_mem_waysMany hq
          have hlength := congrArg List.length hrest
          rw [List.length_append] at hlength
          rw [decide_eq_true_eq, List.length_cons] at hle
          omega
        case isFalse => cases hq
      rw [waysMany]
      split <;> rw [List.filter_append, hlonger] <;> split <;> simp
  | cons c r ih =>
    have hlength : t.length ≤ r.length + t.length + 1 := by omega
    rw [List.cons_append, waysMany, waysMany]
    split <;> rw [List.filter_append, List.map_append] <;> congr 1 <;> split <;>
      simp [ih, hlength]

/-- **On a longer text a plain pattern has the same ways**, and others only behind the border. -/
theorem filter_ways_append {p : Pattern} (hp : p.isPlain = true) (behind : Option Char)
    (r t : List Char) (captures : Captures) :
    (p.ways ⟨behind, r ++ t⟩ captures).filter (isWithin t) =
      (p.ways ⟨behind, r⟩ captures).map (extendWay t) := by
  induction p generalizing behind r captures with
  | empty => simp [ways, isWithin, extendWay]
  | char holds =>
    cases r with
    | nil =>
      cases t with
      | nil => rfl
      | cons c t =>
        rw [List.nil_append, ways_char_cons]
        split <;> simp [isWithin, ways]
    | cons c r =>
      rw [List.cons_append, ways_char_cons, ways_char_cons]
      split <;> simp [isWithin, extendWay]
  | many least most lazy holds =>
    have hmany := filter_waysMany_append least most lazy holds behind r t
    rw [ways, ways, List.filter_map, List.map_map]
    exact (congrArg (List.map fun q => (q, captures)) hmany).trans List.map_map
  | seq first second ihFirst ihSecond =>
    obtain ⟨hfirst, hsecond⟩ := Bool.and_eq_true_iff.mp hp
    -- What the first part reads beyond the border, the second one does not take back.
    have hbehind : ∀ v ∈ first.ways ⟨behind, r ++ t⟩ captures, isWithin t v = false →
        (second.ways v.1 v.2).filter (isWithin t) = [] := by
      intro v _ hv
      refine List.filter_eq_nil_iff.mpr fun w hw hwithin => ?_
      exact absurd (isWithin_of_mem_ways hw hwithin) (Bool.eq_false_iff.mp hv)
    rw [ways, ways, List.filter_flatMap, ← Lists.flatMap_filter_of_forall _ _ hbehind,
      ihFirst hfirst, List.flatMap_map, List.map_flatMap]
    exact List.flatMap_congr fun v _ => ihSecond hsecond v.1.behind v.1.rest v.2
  | alt first second ihFirst ihSecond =>
    obtain ⟨hfirst, hsecond⟩ := Bool.and_eq_true_iff.mp hp
    rw [ways, ways, List.filter_append, ihFirst hfirst, ihSecond hsecond, List.map_append]
  | capture index inner ih =>
    rw [ways, ways, List.filter_map, List.map_map]
    have hkeep : (inner.ways ⟨behind, r ++ t⟩ captures).filter (isWithin t ∘
        fun w => (w.1, (index, Place.textUpTo ⟨behind, r ++ t⟩ w.1) :: w.2)) =
          (inner.ways ⟨behind, r⟩ captures).map (extendWay t) := ih hp behind r captures
    rw [hkeep, List.map_map]
    refine List.map_congr_left fun w hw => ?_
    rw [Function.comp_apply, Function.comp_apply, textUpTo_extendWay hw]
    rfl
  | _ => cases hp

/-- If it cannot read beyond the border, it has just the same ways. -/
theorem ways_append {p : Pattern} (hp : p.isPlain = true) (behind : Option Char)
    (captures : Captures) {r t : List Char}
    (hreach : ∀ u s, p.Reads u → r ++ t = u ++ s → t.length ≤ s.length) :
    p.ways ⟨behind, r ++ t⟩ captures = (p.ways ⟨behind, r⟩ captures).map (extendWay t) := by
  rw [← filter_ways_append hp, eq_comm, List.filter_eq_self]
  intro w hw
  obtain ⟨u, hrest, hu⟩ := exists_of_mem_ways hw
  exact decide_eq_true (hreach u w.1.rest hu hrest)

/-- A match with more text behind it. -/
def Match.extend (t : List Char) (m : Match) : Match := { m with after := m.after ++ t }

theorem matchAt?_append {p : Pattern} (hp : p.isPlain = true) (behind : Option Char)
    {r t : List Char} (hreach : ∀ u s, p.Reads u → r ++ t = u ++ s → t.length ≤ s.length) :
    p.matchAt? ⟨behind, r ++ t⟩ = (p.matchAt? ⟨behind, r⟩).map (Match.extend t) := by
  rw [matchAt?_eq_head?, matchAt?_eq_head?, ways_append hp behind [] hreach, List.head?_map,
    Option.map_map, Option.map_map]
  cases hhead : (p.ways ⟨behind, r⟩ []).head? with
  | none => rfl
  | some w =>
    rw [Option.map_some, Option.map_some, Function.comp_apply, Function.comp_apply, matchOf,
      matchOf, textUpTo_extendWay (List.mem_of_head? hhead)]
    rfl

section Closing

variable {p : Pattern} {c : Char} (hp : p.isPlain = true)
  (hend : ∀ u, p.Reads u → ∃ v, u = v ++ [c]) {t : List Char} (ht : c ∉ t)

include hend ht

/-- Such a pattern matches nowhere in a text without its last character. -/
theorem findFrom?_eq_none_of_closing (behind : Option Char) : p.findFrom? behind t = none := by
  rw [← Option.not_isSome_iff_eq_none, isSome_findFrom?_iff]
  rintro ⟨before, after, q, rfl, hleads⟩
  have hsome := isSome_matchAt?_iff.mpr ⟨q, hleads⟩
  obtain ⟨m, hm⟩ := Option.isSome_iff_exists.mp hsome
  rw [matchAt?_eq_head?] at hm
  obtain ⟨w, hw, -⟩ := Option.map_eq_some_iff.mp hm
  obtain ⟨u, hrest, hu⟩ := exists_of_mem_ways (List.mem_of_head? hw)
  obtain ⟨v, rfl⟩ := hend u hu
  have hrest : after = v ++ [c] ++ w.1.rest := hrest
  exact ht (by simp [hrest])

include hp

theorem findFrom?_append_of_closing (behind : Option Char) (r : List Char) :
    p.findFrom? behind (r ++ t) = (p.findFrom? behind r).map (Match.extend t) := by
  have hreach (r u s : List Char) (hu : p.Reads u) (hrest : r ++ t = u ++ s) :
      t.length ≤ s.length := by
    obtain ⟨v, rfl⟩ := hend u hu
    rw [List.append_assoc, List.singleton_append] at hrest
    rcases List.append_eq_append_iff.mp hrest with ⟨b, -, hs⟩ | ⟨b, -, hs⟩
    case inl => exact absurd (hs ▸ List.mem_append_right b List.mem_cons_self) ht
    case inr =>
      cases b with
      | nil =>
        obtain rfl : c :: s = t := hs
        exact absurd List.mem_cons_self ht
      | cons d b =>
        obtain ⟨-, rfl⟩ := List.cons.inj hs
        exact (List.sublist_append_right b t).length_le
  induction r generalizing behind with
  | nil =>
    rw [List.nil_append, findFrom?_eq_none_of_closing hend ht,
      findFrom?_eq_none_of_closing hend List.not_mem_nil]
    rfl
  | cons d r ih =>
    have hhere := matchAt?_append hp behind (hreach (d :: r))
    rw [List.cons_append] at hhere ⊢
    rw [findFrom?, findFrom?, hhere, ih]
    cases p.matchAt? ⟨behind, d :: r⟩ with
    | none => rw [Option.map_none, Option.map_map, Option.map_map]; rfl
    | some m => rfl

/-- **What stands behind the last closing character does not count.** -/
theorem find?_append_of_closing (r : List Char) :
    p.find? (r ++ t) = (p.find? r).map (Match.extend t) :=
  findFrom?_append_of_closing hp hend ht none r

end Closing

end Pattern

end PageModules.Text
