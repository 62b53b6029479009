import PageModules.Markup.Node

/-!
# Descendants with their ancestors

`Element.located` lists the descendants of an element in document order, each with the elements
around it up to and including that element.  The contents of a template have no elements around
them.
-/

namespace PageModules

/-- A descendant of an element. -/
structure Located where
  /-- The descendant. -/
  element : Element
  /-- The elements around it, the innermost first. -/
  ancestors : List Element

namespace Node

mutual

/-- The elements of a tree with their ancestors; `around` are the elements around the tree. -/
def locate (around : List Element) : Node → List Located
  | element tag children =>
    ⟨⟨tag, children⟩, around⟩ :: locateAll (⟨tag, children⟩ :: around) children
  | fragment children => locateAll [] children
  | text _ => []
  | comment _ => []
  | doctype _ => []

/-- The elements of several trees with their ancestors. -/
def locateAll (around : List Element) : List Node → List Located
  | [] => []
  | n :: rest => locate around n ++ locateAll around rest

end

mutual

theorem map_element_locate (around : List Element) (n : Node) :
    (locate around n).map (·.element) = n.elements := by
  cases n with
  | element tag children => simp [locate, elements, map_element_locateAll]
  | fragment children => simp [locate, elements, map_element_locateAll]
  | _ => simp [locate, elements]

theorem map_element_locateAll (around : List Element) (ns : List Node) :
    (locateAll around ns).map (·.element) = elementsAll ns := by
  cases ns with
  | nil => simp [locateAll, elementsAll]
  | cons n rest =>
    simp [locateAll, elementsAll, map_element_locate around n, map_element_locateAll around rest]

end

end Node

namespace Element

/-- All elements below with the elements around them, in document order. -/
def located (e : Element) : List Located := Node.locateAll [e] e.children

@[simp] theorem map_element_located (e : Element) :
    e.located.map (·.element) = e.descendants :=
  Node.map_element_locateAll _ _

end Element

end PageModules
