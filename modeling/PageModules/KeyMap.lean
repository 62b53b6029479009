import PageModules.Text.Basic

/-!
# Maps from names to values

A `KeyMap` holds each name once, in the order of the names, so two maps with the same look-ups are
equal (`KeyMap.ext_find?`).  `Entries` puts values into bare sorted lists, which nested types use,
and `List.lookup` looks them up; the lemmas say what each operation does to a look-up.
-/

namespace PageModules

/-! ### Sorted lists of entries -/

namespace Entries

variable {α : Type}

/-- Puts a value under a name, in the place that the order of names gives it. -/
def insert (key : String) (value : α) : List (String × α) → List (String × α)
  | [] => [(key, value)]
  | entry :: rest =>
    if key < entry.1 then (key, value) :: entry :: rest
    else if key = entry.1 then (key, value) :: rest
    else entry :: insert key value rest

/-- The names stand in order, each once. -/
def Ordered (entries : List (String × α)) : Prop := entries.Pairwise fun a b => a.1 < b.1

theorem lookup_cons (k : String) (entry : String × α) (rest : List (String × α)) :
    List.lookup k (entry :: rest) = if entry.1 = k then some entry.2 else List.lookup k rest := by
  rw [List.lookup_cons]
  by_cases hk : entry.1 = k
  · rw [if_pos hk, beq_iff_eq.mpr hk.symm]
  · rw [if_neg hk, beq_eq_false_iff_ne.mpr (Ne.symm hk)]

theorem mem_insert {key : String} {value : α} {entries : List (String × α)} {e : String × α}
    (h : e ∈ insert key value entries) : e = (key, value) ∨ e ∈ entries := by
  induction entries with
  | nil => simpa [insert] using h
  | cons entry rest ih =>
    simp only [insert] at h
    split at h
    · simpa using h
    · split at h
      · rcases List.mem_cons.1 h with h | h
        · exact .inl h
        · exact .inr (List.mem_cons_of_mem _ h)
      · rcases List.mem_cons.1 h with h | h
        · exact .inr (h ▸ List.mem_cons_self)
        · exact (ih h).imp_right (List.mem_cons_of_mem _)

theorem Ordered.insert {entries : List (String × α)} (h : Ordered entries) (key : String)
    (value : α) : Ordered (insert key value entries) := by
  induction entries with
  | nil => simp [Ordered, Entries.insert]
  | cons entry rest ih =>
    have hc := List.pairwise_cons.1 h
    simp only [Entries.insert]
    split
    case isTrue hlt =>
      refine List.pairwise_cons.2 ⟨fun e he => ?_, h⟩
      rcases List.mem_cons.1 he with he | he
      · exact he ▸ hlt
      · exact String.lt_trans hlt (hc.1 e he)
    case isFalse hlt =>
      split
      case isTrue heq =>
        exact List.pairwise_cons.2 ⟨fun e he => heq ▸ hc.1 e he, hc.2⟩
      case isFalse hne =>
        refine List.pairwise_cons.2 ⟨fun e he => ?_, ih hc.2⟩
        rcases mem_insert he with he | he
        · subst he; grind
        · exact hc.1 e he

theorem lookup_insert (key k : String) (value : α) (entries : List (String × α)) :
    List.lookup k (insert key value entries) =
      if key = k then some value else List.lookup k entries := by
  induction entries with
  | nil => simp [insert, lookup_cons]
  | cons entry rest ih =>
    simp only [insert]
    split
    case isTrue => simp [lookup_cons]
    case isFalse =>
      split
      case isTrue heq => by_cases hk : key = k <;> simp [lookup_cons, ← heq, hk]
      case isFalse hne => grind [lookup_cons]

theorem lookup_eq_none_of_lt {k : String} {entries : List (String × α)}
    (h : ∀ e ∈ entries, k < e.1) : List.lookup k entries = none := by
  refine List.lookup_eq_none_iff.mpr fun e he => bne_iff_ne.mpr ?_
  rintro rfl
  exact String.lt_irrefl e.1 (h e he)

theorem eq_of_lookup {a b : List (String × α)} (ha : Ordered a) (hb : Ordered b)
    (h : ∀ k, List.lookup k a = List.lookup k b) : a = b := by
  induction a generalizing b with
  | nil =>
    cases b with
    | nil => rfl
    | cons e b => simpa [lookup_cons] using h e.1
  | cons d a ih =>
    cases b with
    | nil => simpa [lookup_cons] using h d.1
    | cons e b =>
      have hda := List.pairwise_cons.1 ha
      have heb := List.pairwise_cons.1 hb
      have hk : d.1 = e.1 := by
        rcases Classical.em (d.1 < e.1) with hlt | hlt
        · have hnone : List.lookup d.1 (e :: b) = none := lookup_eq_none_of_lt fun x hx => by
            rcases List.mem_cons.1 hx with hx | hx
            · exact hx ▸ hlt
            · exact String.lt_trans hlt (heb.1 x hx)
          simpa [lookup_cons] using (h d.1).trans hnone
        · rcases Classical.em (d.1 = e.1) with heq | hne
          · exact heq
          · have hgt : e.1 < d.1 := by grind
            have hnone : List.lookup e.1 (d :: a) = none := lookup_eq_none_of_lt fun x hx => by
              rcases List.mem_cons.1 hx with hx | hx
              · exact hx ▸ hgt
              · exact String.lt_trans hgt (hda.1 x hx)
            simpa [lookup_cons] using (h e.1).symm.trans hnone
      have hv : d.2 = e.2 := by
        have := h d.1
        simpa [lookup_cons, hk] using this
      have hde : d = e := Prod.ext hk hv
      refine hde ▸ congrArg (d :: ·) (ih hda.2 heb.2 fun k => ?_)
      by_cases hdk : d.1 = k
      · rw [lookup_eq_none_of_lt fun x hx => hdk ▸ hda.1 x hx,
          lookup_eq_none_of_lt fun x hx => hdk ▸ hk ▸ heb.1 x hx]
      · have hek : e.1 ≠ k := fun he => hdk (hk.trans he)
        simpa [lookup_cons, hdk, hek] using h k

theorem mem_of_lookup_eq_some {k : String} {value : α} {entries : List (String × α)}
    (h : List.lookup k entries = some value) : (k, value) ∈ entries := by
  obtain ⟨front, back, rfl, -⟩ := List.lookup_eq_some_iff.mp h
  exact List.mem_append_right front List.mem_cons_self

theorem exists_lookup_of_mem {k : String} {value : α} {entries : List (String × α)}
    (h : (k, value) ∈ entries) : ∃ v, List.lookup k entries = some v :=
  Option.isSome_iff_exists.mp (List.lookup_isSome_iff.mpr ⟨_, h, beq_self_eq_true k⟩)

/-- In order each name stands once, so its first entry is also its last one. -/
theorem Ordered.lookup_reverse {entries : List (String × α)} (h : Ordered entries) (k : String) :
    List.lookup k entries.reverse = List.lookup k entries := by
  induction entries with
  | nil => rfl
  | cons entry rest ih =>
    obtain ⟨hlt, hrest⟩ := List.pairwise_cons.1 h
    rw [List.reverse_cons, List.lookup_append, ih hrest, lookup_cons, lookup_cons, List.lookup_nil]
    split
    case isTrue hk => rw [lookup_eq_none_of_lt (hk ▸ hlt), Option.none_or]
    case isFalse => rw [Option.or_none]

theorem Ordered.lookup_filter {entries : List (String × α)} (h : Ordered entries)
    (keep : String → α → Bool) (k : String) :
    List.lookup k (entries.filter fun e => keep e.1 e.2) =
      (List.lookup k entries).filter (keep k) := by
  induction entries with
  | nil => rfl
  | cons entry rest ih =>
    obtain ⟨hlt, hrest⟩ := List.pairwise_cons.1 h
    have ih := ih hrest
    rw [List.filter_cons, lookup_cons]
    by_cases hk : entry.1 = k
    · subst hk
      rw [lookup_eq_none_of_lt hlt] at ih
      rw [if_pos rfl, Option.filter_some]
      split
      · rw [lookup_cons, if_pos rfl]
      · exact ih
    · rw [if_neg hk]
      split
      · rw [lookup_cons, if_neg hk, ih]
      · exact ih

/-- An injective change of the names goes along with a look-up. -/
theorem lookup_map {f : String → String} (hf : Function.Injective f) (k : String)
    (entries : List (String × α)) :
    List.lookup (f k) (entries.map fun e => (f e.1, e.2)) = List.lookup k entries := by
  induction entries with
  | nil => rfl
  | cons entry rest ih =>
    rw [List.map_cons, lookup_cons, lookup_cons, ih]
    simp only [hf.eq_iff]

end Entries

/-! ### Maps -/

/-- A map from names to values: the entries in the order of their names. -/
structure KeyMap (α : Type) where
  /-- The names with their values. -/
  entries : List (String × α)
  /-- The names stand in order, each once. -/
  ordered : Entries.Ordered entries

namespace KeyMap

variable {α : Type}

/-- The map without entries. -/
def empty : KeyMap α := ⟨[], .nil⟩

instance : EmptyCollection (KeyMap α) := ⟨empty⟩
instance : Inhabited (KeyMap α) := ⟨empty⟩

/-- Puts a value under a name, in place of the one that stood there. -/
def insert (m : KeyMap α) (key : String) (value : α) : KeyMap α :=
  ⟨Entries.insert key value m.entries, m.ordered.insert key value⟩

/-- The value under a name. -/
def find? (m : KeyMap α) (key : String) : Option α := List.lookup key m.entries

/-- Whether a name has a value. -/
def contains (m : KeyMap α) (key : String) : Bool := (m.find? key).isSome

/-- Keeps the entries whose name and value fit. -/
def filter (m : KeyMap α) (keep : String → α → Bool) : KeyMap α :=
  ⟨m.entries.filter fun e => keep e.1 e.2, m.ordered.filter _⟩

/-- The map of a list of entries; of two entries of one name the later counts. -/
def ofList (entries : List (String × α)) : KeyMap α :=
  entries.foldl (fun m e => m.insert e.1 e.2) empty

/-- Puts the entries of `other` over those of `m`. -/
def merge (m other : KeyMap α) : KeyMap α :=
  other.entries.foldl (fun m e => m.insert e.1 e.2) m

/-- The names in order. -/
def keys (m : KeyMap α) : List String := m.entries.map (·.1)

/-- Whether the map has no entries. -/
def isEmpty (m : KeyMap α) : Bool := m.entries.isEmpty

@[simp] theorem find?_empty (k : String) : (empty : KeyMap α).find? k = none := rfl

@[simp] theorem find?_insert (m : KeyMap α) (key k : String) (value : α) :
    (m.insert key value).find? k = if key = k then some value else m.find? k :=
  Entries.lookup_insert key k value m.entries

theorem find?_foldl_insert (entries : List (String × α)) (m : KeyMap α) (k : String) :
    (entries.foldl (fun m e => m.insert e.1 e.2) m).find? k =
      (List.lookup k entries.reverse).or (m.find? k) := by
  induction entries generalizing m with
  | nil => rfl
  | cons e rest ih =>
    rw [List.foldl_cons, ih, find?_insert, List.reverse_cons, List.lookup_append, Option.or_assoc]
    simp only [Entries.lookup_cons, List.lookup_nil]
    split <;> simp

/-- Of the entries of a name the last one counts. -/
theorem find?_ofList (entries : List (String × α)) (k : String) :
    (ofList entries).find? k = List.lookup k entries.reverse := by
  rw [ofList, find?_foldl_insert, find?_empty, Option.or_none]

/-- The entries of `other` win. -/
@[simp] theorem find?_merge (m other : KeyMap α) (k : String) :
    (m.merge other).find? k = (other.find? k).or (m.find? k) := by
  rw [merge, find?_foldl_insert, other.ordered.lookup_reverse]
  rfl

@[simp] theorem find?_filter (m : KeyMap α) (keep : String → α → Bool) (k : String) :
    (m.filter keep).find? k = (m.find? k).filter (keep k) :=
  m.ordered.lookup_filter keep k

/-- Maps are determined by their look-ups. -/
theorem ext_find? {m n : KeyMap α} (h : ∀ k, m.find? k = n.find? k) : m = n := by
  obtain ⟨a, ha⟩ := m
  obtain ⟨b, hb⟩ := n
  have : a = b := Entries.eq_of_lookup ha hb h
  subst this
  rfl

end KeyMap

end PageModules
