import PageModules.Catalog.Definitions

/-!
# The frame of a page

Sections, rows and columns are the frame of a page; all other modules are its contents.  The catalog
gives no module a part of the frame as a child, and no part of the frame children of a type of their
own (`ModuleType.isFrame_of_child?`).
-/

namespace PageModules.ModuleType

/-- Whether modules of the type are parts of the frame of a page. -/
def isFrame : ModuleType → Bool
  | pageSection => true
  | row => true
  | column => true
  | _ => false

theorem isFrame_eq_false_iff {type : ModuleType} :
    type.isFrame = false ↔ type ≠ .pageSection ∧ type ≠ .row ∧ type ≠ .column := by
  cases type <;> simp [isFrame]

/-- Where the catalog gives children of a type of their own, neither type is a part of the frame. -/
theorem isFrame_of_child? {type child : ModuleType} (h : type.child? = some child) :
    child.isFrame = false ∧ type.isFrame = false := by
  have hall : ∀ d ∈ ModuleDefinition.all, ∀ t ∈ d.child,
      t.isFrame = false ∧ d.type.isFrame = false := by decide
  obtain ⟨d, hd, hchild⟩ := Option.bind_eq_some_iff.mp h
  unfold ModuleDefinition.of? at hd
  have htype : d.type = type := by simpa using List.find?_some hd
  rw [← htype]
  exact hall d (List.mem_of_find?_eq_some hd) child hchild

end PageModules.ModuleType
