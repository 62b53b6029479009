import Mathlib.Data.List.Nodup
import PageModules.Component.Extraction
import PageModules.Proofs.Catalog.Frame

/-!
# Components that are recognized

A recognition names the type of one of the patterns (`Element.exists_pattern_of_recognize?`), which
is no part of the frame of a page (`ComponentPattern.not_frame_of_mem_all`), and the items of a
component have the type that the catalog gives the children of its type
(`Component.child?_of_mem_items`).
-/

namespace PageModules

namespace ComponentPattern

/-! ### The best pattern -/

theorem mem_of_foldl_better {cs : List (ComponentPattern × UInt32)}
    {best : Option (ComponentPattern × UInt32)} {c : ComponentPattern × UInt32}
    (h : cs.foldl better best = some c) : c ∈ cs ∨ best = some c := by
  induction cs generalizing best with
  | nil => exact Or.inr h
  | cons c' rest ih =>
    rw [List.foldl_cons] at h
    rcases ih h with hc | hc
    · exact Or.inl (List.mem_cons_of_mem _ hc)
    · unfold better at hc
      split at hc
      · exact Or.inl (Option.some.inj hc ▸ List.mem_cons_self)
      · split at hc
        · exact Or.inl (Option.some.inj hc ▸ List.mem_cons_self)
        · exact Or.inr hc

/-- The best pattern is one of all patterns. -/
theorem mem_all_of_best? {e : Element} {c : ComponentPattern × UInt32} (h : best? e = some c) :
    c.1 ∈ all := by
  rcases mem_of_foldl_better h with hc | hc
  · obtain ⟨p, hp, rfl⟩ := List.mem_map.mp (List.mem_filter.mp hc).1
    exact hp
  · cases hc

/-- No part of the frame of a page is recognized as a component. -/
theorem not_frame_of_mem_all {p : ComponentPattern} (h : p ∈ all) : p.type.isFrame = false := by
  have hall : ∀ q ∈ all, q.type.isFrame = false := by decide
  exact hall p h

/-- There is one pattern for a type. -/
theorem eq_of_type_eq {p q : ComponentPattern} (hp : p ∈ all) (hq : q ∈ all)
    (h : p.type = q.type) : p = q := by
  have hnodup : (all.map (·.type)).Nodup := by decide
  exact List.inj_on_of_nodup_map hnodup hp hq h

end ComponentPattern

/-- A recognition gives the contents of its type, which is that of one of the patterns. -/
theorem Element.exists_pattern_of_recognize? {e : Element} {r : Recognition}
    (h : e.recognize? = some r) :
    r.component = .ofElement e r.type ∧ ∃ p ∈ ComponentPattern.all, p.type = r.type := by
  obtain ⟨c, hc, rfl⟩ := Option.map_eq_some_iff.mp h
  exact ⟨rfl, c.1, ComponentPattern.mem_all_of_best? hc, rfl⟩

namespace Component

/-! ### Items -/

/-- **The recogniser agrees with the catalog**: the items of a component have the type that the
children of its type have. -/
theorem child?_of_mem_items {e : Element} {type : ModuleType} {i : ComponentItem}
    (h : i ∈ (ofElement e type).items) : type.child? = some i.type := by
  cases type with
  | slider =>
    obtain ⟨s, -, rfl⟩ := List.mem_map.mp h
    rfl
  | accordion =>
    obtain ⟨c, -, hc⟩ := List.mem_filterMap.mp h
    obtain ⟨parts, -, hparts⟩ := Option.bind_eq_some_iff.mp hc
    obtain ⟨title, -, rfl⟩ := Option.map_eq_some_iff.mp hparts
    rfl
  | tabs =>
    obtain ⟨n, -, rfl⟩ := List.mem_map.mp h
    rfl
  | socialFollow =>
    obtain ⟨l, -, rfl⟩ := List.mem_map.mp h
    rfl
  | contactForm =>
    obtain ⟨c, -, hc⟩ := List.mem_filterMap.mp h
    obtain ⟨kind, -, hkind⟩ := Option.bind_eq_some_iff.mp hc
    split at hkind
    · cases hkind
    · obtain rfl := Option.some.inj hkind
      rfl
  | _ => cases h

end Component

end PageModules
