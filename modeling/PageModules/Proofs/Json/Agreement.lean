import Mathlib.Data.List.Forall2
import PageModules.Json.Value

/-!
# Attributes that agree

An `Accord` says where two lists of attributes have to agree: under some keys both or neither have a
value, under others the values are equal.  Each way to put attributes together keeps an accord:
merging (`Attributes.Agree.merge`), setting a key (`Attributes.Agree.insert`), dropping keys
(`Attributes.Agree.filter`) and making attributes of a draft (`Attributes.Agree.ofDraft`).
-/

namespace PageModules

/-- Where attributes have to agree. -/
structure Accord where
  /-- The keys under which both or neither have a value. -/
  keys : String → Prop
  /-- The keys under which they have the same value or none. -/
  values : String → Prop

namespace Accord

variable {c : Accord} {k : String} {x y z w : Option Json}

/-- Two values under a key agree as far as it is asked for. -/
def Holds (c : Accord) (k : String) (x y : Option Json) : Prop :=
  (c.keys k → x.isSome = y.isSome) ∧ (c.values k → x = y)

/-- Everywhere the same keys, whatever the values are. -/
def sameKeys : Accord where
  keys _ := True
  values _ := False

theorem Holds.refl (c : Accord) (k : String) (x : Option Json) : c.Holds k x x :=
  ⟨fun _ => rfl, fun _ => rfl⟩

theorem Holds.or (h : c.Holds k x y) (h' : c.Holds k z w) : c.Holds k (x.or z) (y.or w) := by
  constructor
  · intro hk
    rw [Option.isSome_or, Option.isSome_or, h.1 hk, h'.1 hk]
  · intro hk
    rw [h.2 hk, h'.2 hk]

/-- Values that agree with a third one agree. -/
theorem Holds.of_common (h : c.Holds k x z) (h' : c.Holds k y z) : c.Holds k x y :=
  ⟨fun hk => (h.1 hk).trans (h'.1 hk).symm, fun hk => (h.2 hk).trans (h'.2 hk).symm⟩

end Accord

/-! ### Drafts -/

namespace AttributeDraft

/-- Two drafts name the same keys in the same order, with values that agree. -/
def Agree (c : Accord) (a b : AttributeDraft) : Prop :=
  List.Forall₂ (fun e e' => e.1 = e'.1 ∧ c.Holds e.1 e.2 e'.2) a b

variable {c : Accord} {a b a' b' : AttributeDraft}

theorem Agree.refl (c : Accord) (a : AttributeDraft) : Agree c a a :=
  List.forall₂_same.mpr fun e _ => ⟨rfl, Accord.Holds.refl c e.1 e.2⟩

theorem Agree.append (h : Agree c a b) (h' : Agree c a' b') : Agree c (a ++ a') (b ++ b') :=
  List.rel_append h h'

theorem Agree.cons {k : String} {x y : Option Json} (h : c.Holds k x y) (h' : Agree c a b) :
    Agree c ((k, x) :: a) ((k, y) :: b) :=
  List.Forall₂.cons ⟨rfl, h⟩ h'

/-- The entries of a table agree if they agree one by one. -/
theorem Agree.map {α : Type} {l : List α} {key : α → String} {f g : α → Option Json}
    (h : ∀ e ∈ l, c.Holds (key e) (f e) (g e)) :
    Agree c (l.map fun e => (key e, f e)) (l.map fun e => (key e, g e)) := by
  unfold Agree
  rw [List.forall₂_map_left_iff, List.forall₂_map_right_iff, List.forall₂_same]
  exact fun e he => ⟨rfl, h e he⟩

/-- What is put together entry by entry agrees if it does for each entry. -/
theorem Agree.flatMap {α : Type} {l : List α} {f g : α → AttributeDraft}
    (h : ∀ e ∈ l, Agree c (f e) (g e)) : Agree c (l.flatMap f) (l.flatMap g) := by
  induction l with
  | nil => exact .nil
  | cons e rest ih =>
    obtain ⟨he, hrest⟩ := List.forall_mem_cons.mp h
    rw [List.flatMap_cons, List.flatMap_cons]
    exact he.append (ih hrest)

/-- The keys of a draft, each with whether it has a value. -/
def presence (d : AttributeDraft) : List (String × Bool) := d.map fun e => (e.1, e.2.isSome)

theorem presence_append (d d' : AttributeDraft) :
    presence (d ++ d') = presence d ++ presence d' := List.map_append

/-- Where the values do not count, drafts agree if they have values under the same keys. -/
theorem Agree.of_presence (h : presence a = presence b) : Agree .sameKeys a b := by
  rw [presence, presence, ← List.forall₂_eq_eq_eq, List.forall₂_map_left_iff,
    List.forall₂_map_right_iff] at h
  refine h.imp fun e e' he => ?_
  rw [Prod.mk.injEq] at he
  exact ⟨he.1, fun _ => he.2, False.elim⟩

end AttributeDraft

/-! ### Attributes -/

namespace Attributes

/-- The entry in front counts unless a later one of its name has a value. -/
theorem find?_ofDraft_cons (e : String × Option Json) (draft : AttributeDraft) (k : String) :
    (ofDraft (e :: draft)).find? k =
      ((ofDraft draft).find? k).or (if e.1 = k then e.2 else none) := by
  obtain ⟨name, value⟩ := e
  unfold ofDraft
  rw [KeyMap.find?_ofList, KeyMap.find?_ofList]
  cases value with
  | none => rw [List.filterMap_cons_none rfl, ite_self, Option.or_none]
  | some v =>
    have hcons : ((name, some v) :: draft).filterMap (fun e => e.2.map fun v => (e.1, v)) =
        (name, v) :: draft.filterMap fun e => e.2.map fun v => (e.1, v) := rfl
    rw [hcons, List.reverse_cons, List.lookup_append, Entries.lookup_cons]
    rfl

theorem find?_ofDraft_of_not_mem {draft : AttributeDraft} {k : String}
    (h : k ∉ draft.map Prod.fst) : (ofDraft draft).find? k = none := by
  induction draft with
  | nil => rfl
  | cons e draft ih =>
    rw [List.map_cons, List.mem_cons, not_or] at h
    rw [find?_ofDraft_cons, ih h.2, if_neg (Ne.symm h.1), Option.or_none]

/-- Two lists of attributes agree. -/
def Agree (c : Accord) (a b : Attributes) : Prop := ∀ k, c.Holds k (a.find? k) (b.find? k)

variable {c : Accord} {a b a' b' : Attributes}

theorem Agree.refl (c : Accord) (a : Attributes) : Agree c a a := fun k => Accord.Holds.refl c k _

theorem Agree.of_eq (h : a = b) : Agree c a b := h ▸ Agree.refl c a

theorem Agree.of_common (h : Agree c a a') (h' : Agree c b a') : Agree c a b :=
  fun k => (h k).of_common (h' k)

/-- An accord that asks for less holds as well. -/
theorem Agree.mono {c' : Accord} (h : Agree c a b) (hkeys : ∀ k, c'.keys k → c.keys k)
    (hvalues : ∀ k, c'.values k → c.values k) : Agree c' a b :=
  fun k => ⟨fun hk => (h k).1 (hkeys k hk), fun hk => (h k).2 (hvalues k hk)⟩

theorem Agree.merge (h : Agree c a b) (h' : Agree c a' b') :
    Agree c (a.merge a') (b.merge b') := by
  intro k
  rw [KeyMap.find?_merge, KeyMap.find?_merge]
  exact (h' k).or (h k)

theorem Agree.insert {key : String} {v w : Json} (h : Agree c a b)
    (hkey : c.Holds key (some v) (some w)) : Agree c (a.insert key v) (b.insert key w) := by
  intro k
  rw [KeyMap.find?_insert, KeyMap.find?_insert]
  split
  case isTrue hk => exact hk ▸ hkey
  case isFalse => exact h k

/-- Dropping keys keeps an accord. -/
theorem Agree.filter (h : Agree c a b) (keep : String → Bool) :
    Agree c (a.filter fun k _ => keep k) (b.filter fun k _ => keep k) := by
  intro k
  rw [KeyMap.find?_filter, KeyMap.find?_filter]
  cases keep k with
  | true =>
    have hall (x : Option Json) : x.filter (fun _ => true) = x := by cases x <;> rfl
    rw [hall, hall]
    exact h k
  | false =>
    have hnone (x : Option Json) : x.filter (fun _ => false) = none := by cases x <;> rfl
    rw [hnone, hnone]
    exact Accord.Holds.refl c k none

/-- The attributes of drafts that agree, agree. -/
theorem Agree.ofDraft {d d' : AttributeDraft} (h : AttributeDraft.Agree c d d') :
    Agree c (Attributes.ofDraft d) (Attributes.ofDraft d') := by
  intro k
  induction h with
  | nil => exact Accord.Holds.refl c k none
  | @cons e e' draft draft' he hrest ih =>
    obtain ⟨hname, hvalue⟩ := he
    have hhead : c.Holds k (if e.1 = k then e.2 else none) (if e'.1 = k then e'.2 else none) := by
      rw [← hname]
      split
      case isTrue hk => exact hk ▸ hvalue
      case isFalse => exact Accord.Holds.refl c k none
    rw [find?_ofDraft_cons, find?_ofDraft_cons]
    exact ih.or hhead

end Attributes

end PageModules
