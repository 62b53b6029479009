import Mathlib.Algebra.GroupWithZero.Nat
import Mathlib.Data.List.Induction
import Mathlib.Data.List.Nodup
import PageModules.Proofs.Json.Agreement

/-!
# Maps without a common key

Merging maps of which no two have a key in common loses nothing: what each of them has under a key
is what the result has there (`KeyMap.find?_foldl_merge_eq_some_iff`), and the result has as many
entries as they have together (`KeyMap.length_foldl_merge`).
-/

namespace PageModules

namespace KeyMap

variable {α : Type}

/-! ### Keys -/

theorem mem_keys_iff {m : KeyMap α} {k : String} : k ∈ m.keys ↔ ∃ v, m.find? k = some v := by
  constructor
  · intro h
    obtain ⟨entry, hentry, rfl⟩ := List.mem_map.mp h
    exact Entries.exists_lookup_of_mem hentry
  · rintro ⟨v, hv⟩
    exact List.mem_map_of_mem (f := Prod.fst) (Entries.mem_of_lookup_eq_some hv)

theorem nodup_keys (m : KeyMap α) : m.keys.Nodup := by
  rw [keys, List.nodup_iff_pairwise_ne, List.pairwise_map]
  refine m.ordered.imp fun {a b} hlt heq => ?_
  rw [heq] at hlt
  exact String.lt_irrefl _ hlt

theorem mem_keys_ofList {entries : List (String × α)} {k : String} :
    k ∈ (ofList entries).keys ↔ k ∈ entries.map Prod.fst := by
  rw [mem_keys_iff, find?_ofList]
  constructor
  · rintro ⟨v, hv⟩
    have hmem := List.mem_reverse.mp (Entries.mem_of_lookup_eq_some hv)
    exact List.mem_map_of_mem (f := Prod.fst) hmem
  · intro h
    obtain ⟨entry, hentry, rfl⟩ := List.mem_map.mp h
    exact Entries.exists_lookup_of_mem (List.mem_reverse.mpr hentry)

/-- Entries of different names are all there. -/
theorem length_ofList {entries : List (String × α)} (h : (entries.map Prod.fst).Nodup) :
    (ofList entries).entries.length = entries.length := by
  have hperm : (ofList entries).keys.Perm (entries.map Prod.fst) :=
    (List.perm_ext_iff_of_nodup (nodup_keys _) h).mpr fun k => mem_keys_ofList
  have hlength := hperm.length_eq
  rwa [keys, List.length_map, List.length_map] at hlength

/-- A value that is the only one under its key is what the key has. -/
theorem find?_ofList_of_unique {entries : List (String × α)} {k : String} {v : α}
    (hmem : (k, v) ∈ entries) (hunique : ∀ w, (k, w) ∈ entries → w = v) :
    (ofList entries).find? k = some v := by
  obtain ⟨w, hw⟩ := Entries.exists_lookup_of_mem (List.mem_reverse.mpr hmem)
  rw [find?_ofList, hw]
  rw [hunique w (List.mem_reverse.mp (Entries.mem_of_lookup_eq_some hw))]

/-- Two maps have no key in common. -/
def Disjoint (m n : KeyMap α) : Prop := ∀ k ∈ m.keys, k ∉ n.keys

theorem Disjoint.find?_eq_none {m n : KeyMap α} (h : m.Disjoint n) {k : String} {v : α}
    (hv : m.find? k = some v) : n.find? k = none := by
  rw [Option.eq_none_iff_forall_ne_some]
  intro w hw
  exact h k (mem_keys_iff.mpr ⟨v, hv⟩) (mem_keys_iff.mpr ⟨w, hw⟩)

/-! ### Merging -/

variable {maps : List (KeyMap α)}

/-- **Disjoint maps keep their values** when they are merged, and nothing else comes in. -/
theorem find?_foldl_merge_eq_some_iff (h : maps.Pairwise Disjoint) {k : String} {v : α} :
    (maps.foldl merge empty).find? k = some v ↔ ∃ m ∈ maps, m.find? k = some v := by
  induction maps using List.reverseRecOn with
  | nil => simp
  | append_singleton maps last ih =>
    obtain ⟨hmaps, -, hlast⟩ := List.pairwise_append.mp h
    rw [List.foldl_append, List.foldl_cons, List.foldl_nil, find?_merge]
    constructor
    · intro hv
      rcases Option.or_eq_some_iff.mp hv with hv | ⟨-, hv⟩
      · exact ⟨last, List.mem_append_right _ (List.mem_singleton_self last), hv⟩
      · obtain ⟨m, hm, hmv⟩ := (ih hmaps).mp hv
        exact ⟨m, List.mem_append_left _ hm, hmv⟩
    · rintro ⟨m, hm, hmv⟩
      rcases List.mem_append.mp hm with hm | hm
      · have hnone := (hlast m hm last (List.mem_singleton_self last)).find?_eq_none hmv
        rw [hnone, Option.none_or]
        exact (ih hmaps).mpr ⟨m, hm, hmv⟩
      · rw [List.mem_singleton.mp hm] at hmv
        rw [hmv, Option.some_or]

/-- The keys of disjoint maps are those of the merged map, each once. -/
theorem perm_keys_foldl_merge (h : maps.Pairwise Disjoint) :
    (maps.foldl merge empty).keys.Perm (maps.flatMap keys) := by
  have hnodup : (maps.flatMap keys).Nodup :=
    List.nodup_flatMap.mpr ⟨fun m _ => m.nodup_keys, h.imp fun hmn k hk hk' => hmn k hk hk'⟩
  rw [List.perm_ext_iff_of_nodup (nodup_keys _) hnodup]
  intro k
  rw [mem_keys_iff, List.mem_flatMap]
  constructor
  · rintro ⟨v, hv⟩
    obtain ⟨m, hm, hmv⟩ := (find?_foldl_merge_eq_some_iff h).mp hv
    exact ⟨m, hm, mem_keys_iff.mpr ⟨v, hmv⟩⟩
  · rintro ⟨m, hm, hk⟩
    obtain ⟨v, hv⟩ := mem_keys_iff.mp hk
    exact ⟨v, (find?_foldl_merge_eq_some_iff h).mpr ⟨m, hm, hv⟩⟩

/-- **Disjoint maps add up** when they are merged. -/
theorem length_foldl_merge (h : maps.Pairwise Disjoint) :
    (maps.foldl merge empty).entries.length = (maps.map (·.entries.length)).sum := by
  have hkeys (m : KeyMap α) : m.keys.length = m.entries.length := List.length_map ..
  have hlength := (perm_keys_foldl_merge h).length_eq
  rw [hkeys, List.length_flatMap] at hlength
  simpa only [hkeys] using hlength

end KeyMap

/-! ### Drafts -/

/-- The keys of the attributes of a draft are among those of the draft. -/
theorem Attributes.mem_of_mem_keys_ofDraft {draft : AttributeDraft} {k : String}
    (h : k ∈ (Attributes.ofDraft draft).keys) : k ∈ draft.map Prod.fst := by
  by_contra hnot
  obtain ⟨v, hv⟩ := KeyMap.mem_keys_iff.mp h
  rw [Attributes.find?_ofDraft_of_not_mem hnot] at hv
  cases hv

end PageModules
