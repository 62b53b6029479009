import Mathlib.Data.Int.Notation
import Mathlib.Data.List.Basic
import PageModules.Page.Record

/-!
# The order of fields

`Json.ordered` puts the fields of all objects of a value in the order of their names, as they are
where a value is kept as data and not written field by field.  A value with its fields in order
(`Json.IsOrdered`) stays as it is (`Json.IsOrdered.ordered_eq`).
-/

namespace PageModules

/-! ### Sorted lists of entries -/

/-- Entries that stand in order are those of the map that is built of them. -/
theorem KeyMap.entries_ofList {α : Type} {entries : List (String × α)}
    (h : Entries.Ordered entries) : (ofList entries).entries = entries :=
  Entries.eq_of_lookup (ofList entries).ordered h fun k =>
    (find?_ofList entries k).trans (h.lookup_reverse k)

@[simp] theorem KeyMap.ofList_entries {α : Type} (m : KeyMap α) : ofList m.entries = m :=
  ext_find? fun k => congrArg (List.lookup k) (entries_ofList m.ordered)

theorem KeyMap.mem_of_mem_ofList {α : Type} {entries : List (String × α)} {e : String × α}
    (h : e ∈ (ofList entries).entries) : e ∈ entries := by
  have hfold (entries : List (String × α)) (m : KeyMap α)
      (h : e ∈ (entries.foldl (fun m e => m.insert e.1 e.2) m).entries) :
      e ∈ entries ∨ e ∈ m.entries := by
    induction entries generalizing m with
    | nil => exact Or.inr h
    | cons e' rest ih =>
      rcases ih (m.insert e'.1 e'.2) h with h | h
      · exact Or.inl (List.mem_cons_of_mem _ h)
      · rcases Entries.mem_insert h with rfl | h
        · exact Or.inl List.mem_cons_self
        · exact Or.inr h
  exact (hfold entries .empty h).resolve_right (by simp [KeyMap.empty])

namespace Json

theorem ofFields_eq (fields : List (String × Json)) :
    ofFields fields = object (KeyMap.ofList fields).entries := by
  have hentries (m : KeyMap Json) :
      fields.foldl (fun entries e => Entries.insert e.1 e.2 entries) m.entries =
        (fields.foldl (fun m e => m.insert e.1 e.2) m).entries := by
    induction fields generalizing m with
    | nil => rfl
    | cons e rest ih => exact ih (m.insert e.1 e.2)
  exact congrArg object (hentries .empty)

/-- An object is determined by what is under each name. -/
theorem ofFields_eq_of_lookup {written fields : List (String × Json)} (h : Entries.Ordered fields)
    (hfind : ∀ k, List.lookup k written.reverse = List.lookup k fields) :
    ofFields written = object fields := by
  rw [ofFields_eq]
  congr 1
  refine Entries.eq_of_lookup (KeyMap.ofList written).ordered h fun k => ?_
  exact (KeyMap.find?_ofList written k).trans (hfind k)

/-! ### Values in order -/

mutual

/-- The value with the fields of its objects in the order of their names; of two fields of one name
the later counts. -/
def ordered : Json → Json
  | null => null
  | bool b => bool b
  | integer n => integer n
  | float x => float x
  | text s => text s
  | array items => array (orderedAll items)
  | object fields => ofFields (orderedFields fields)

/-- The values with the fields of their objects in order. -/
def orderedAll : List Json → List Json
  | [] => []
  | v :: rest => ordered v :: orderedAll rest

/-- The fields, each with its value in order. -/
def orderedFields : List (String × Json) → List (String × Json)
  | [] => []
  | (name, v) :: rest => (name, ordered v) :: orderedFields rest

end

theorem orderedAll_eq_map (items : List Json) : orderedAll items = items.map ordered := by
  induction items with
  | nil => rfl
  | cons v rest ih => rw [orderedAll, ih, List.map_cons]

theorem orderedFields_eq_map (fields : List (String × Json)) :
    orderedFields fields = fields.map fun e => (e.1, e.2.ordered) := by
  induction fields with
  | nil => rfl
  | cons e rest ih => rw [orderedFields, ih, List.map_cons]

/-- The fields of all objects of the value stand in the order of their names, each once. -/
inductive IsOrdered : Json → Prop where
  | null : IsOrdered null
  | bool (b : Bool) : IsOrdered (bool b)
  | integer (n : ℤ) : IsOrdered (integer n)
  | float (x : Binary64) : IsOrdered (float x)
  | text (s : String) : IsOrdered (text s)
  | array {items : List Json} (inside : ∀ v ∈ items, IsOrdered v) : IsOrdered (array items)
  | object {fields : List (String × Json)} (names : Entries.Ordered fields)
      (inside : ∀ e ∈ fields, IsOrdered e.2) : IsOrdered (object fields)

theorem IsOrdered.ordered_eq {v : Json} (h : v.IsOrdered) : v.ordered = v := by
  induction h with
  | array _ ih => rw [ordered, orderedAll_eq_map, List.map_congr_left ih, List.map_id']
  | @object fields hnames _ ih =>
    have hfield : ∀ e ∈ fields, (e.1, e.2.ordered) = e := fun e he => Prod.ext rfl (ih e he)
    have hsame : orderedFields fields = fields := by
      rw [orderedFields_eq_map, List.map_congr_left hfield, List.map_id']
    rw [ordered, hsame]
    exact ofFields_eq_of_lookup hnames hnames.lookup_reverse
  | _ => rfl

mutual

theorem isOrdered_ordered (v : Json) : v.ordered.IsOrdered := by
  cases v with
  | null => exact .null
  | bool b => exact .bool b
  | integer n => exact .integer n
  | float x => exact .float x
  | text s => exact .text s
  | array items =>
    rw [ordered]
    exact .array (isOrdered_of_mem_orderedAll items)
  | object fields =>
    rw [ordered, ofFields_eq]
    refine .object (KeyMap.ofList _).ordered fun e he => ?_
    exact isOrdered_of_mem_orderedFields fields e (KeyMap.mem_of_mem_ofList he)

theorem isOrdered_of_mem_orderedAll (items : List Json) : ∀ v ∈ orderedAll items, v.IsOrdered := by
  cases items with
  | nil => simp [orderedAll]
  | cons v rest =>
    rw [orderedAll, List.forall_mem_cons]
    exact ⟨isOrdered_ordered v, isOrdered_of_mem_orderedAll rest⟩

theorem isOrdered_of_mem_orderedFields (fields : List (String × Json)) :
    ∀ e ∈ orderedFields fields, e.2.IsOrdered := by
  cases fields with
  | nil => simp [orderedFields]
  | cons e rest =>
    rw [orderedFields, List.forall_mem_cons]
    exact ⟨isOrdered_ordered e.2, isOrdered_of_mem_orderedFields rest⟩

end

/-! ### Depth -/

theorem depth_le_depthAll {v : Json} {items : List Json} (h : v ∈ items) :
    v.depth ≤ depthAll items := by
  induction items with
  | nil => cases h
  | cons w rest ih =>
    rw [depthAll]
    rcases List.mem_cons.mp h with rfl | h
    · exact Nat.le_max_left _ _
    · exact Nat.le_trans (ih h) (Nat.le_max_right _ _)

theorem depth_le_depthFields {name : String} {v : Json} {fields : List (String × Json)}
    (h : (name, v) ∈ fields) : v.depth ≤ depthFields fields := by
  induction fields with
  | nil => cases h
  | cons e rest ih =>
    rw [depthFields]
    rcases List.mem_cons.mp h with rfl | h
    · exact Nat.le_max_left _ _
    · exact Nat.le_trans (ih h) (Nat.le_max_right _ _)

end Json

end PageModules
