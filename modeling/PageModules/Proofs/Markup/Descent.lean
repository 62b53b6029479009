import PageModules.Markup.Document
import PageModules.Mapping.Detection
import PageModules.Walk.Grouping

/-!
# The elements of a tree

The elements of a tree hold, with an element, the elements inside of it
(`Node.mem_elements_of_mem_childElements`).  A document is unmarked if none of its elements has a
marker that names a type.  `Document.ofBody` puts elements into the body of a document.
-/

namespace PageModules

namespace Node

theorem mem_elementsAll_of_mem_filterMap {c : Element} {ns : List Node}
    (h : c ∈ ns.filterMap element?) : c ∈ elementsAll ns := by
  obtain ⟨n, hn, hc⟩ := List.mem_filterMap.mp h
  induction ns with
  | nil => cases hn
  | cons n' rest ih =>
    rw [elementsAll, List.mem_append]
    rcases List.mem_cons.mp hn with rfl | hn
    · cases n with
      | element tag children =>
        obtain rfl := Option.some.inj hc
        exact Or.inl List.mem_cons_self
      | _ => cases hc
    · exact Or.inr (ih (List.mem_filterMap.mpr ⟨n, hn, hc⟩) hn)

mutual

/-- The elements of a tree hold the children of its elements. -/
theorem mem_elements_of_mem_childElements (n : Node) {e c : Element} (he : e ∈ n.elements)
    (hc : c ∈ e.childElements) : c ∈ n.elements := by
  cases n with
  | element tag children =>
    rw [elements, List.mem_cons] at he
    refine List.mem_cons_of_mem _ ?_
    rcases he with rfl | he
    · exact mem_elementsAll_of_mem_filterMap hc
    · exact mem_elementsAll_of_mem_childElements children he hc
  | fragment children => exact mem_elementsAll_of_mem_childElements children he hc
  | text _ => cases he
  | comment _ => cases he
  | doctype _ => cases he

/-- The elements of several trees hold the children of their elements. -/
theorem mem_elementsAll_of_mem_childElements (ns : List Node) {e c : Element}
    (he : e ∈ elementsAll ns) (hc : c ∈ e.childElements) : c ∈ elementsAll ns := by
  cases ns with
  | nil => cases he
  | cons n rest =>
    rw [elementsAll, List.mem_append] at he ⊢
    rcases he with he | he
    · exact Or.inl (mem_elements_of_mem_childElements n he hc)
    · exact Or.inr (mem_elementsAll_of_mem_childElements rest he hc)

end

end Node

namespace Element

/-- An element of HTML without attributes. -/
def plain (name : String) (children : List Element) : Element :=
  ⟨⟨.html, name, []⟩, children.map toNode⟩

/-- A paragraph of text. -/
def paragraph (s : String) : Element := ⟨⟨.html, "p", []⟩, [.text s]⟩

theorem contentChildren_plain {name : String} {children : List Element}
    (h : ∀ c ∈ children, skippedTags.contains c.tagName = false) :
    (plain name children).contentChildren = children := by
  have hchildren : (plain name children).childElements = children := by
    rw [childElements, plain, List.filterMap_map]
    exact List.filterMap_some
  rw [contentChildren, hchildren, List.filter_eq_self]
  intro c hc
  rw [h c hc]
  rfl

end Element

namespace Document

/-- No element has a marker that names a type. -/
def IsUnmarked (d : Document) : Prop := ∀ e ∈ d.elements, e.markedType? = none

instance (d : Document) : Decidable d.IsUnmarked :=
  inferInstanceAs (Decidable (∀ e ∈ d.elements, e.markedType? = none))

/-- A document whose body has the given children. -/
def ofBody (children : List Element) : Document := ⟨(Element.plain "body" children).toNode, 0⟩

theorem body?_ofBody (children : List Element) :
    (ofBody children).body? = some (.plain "body" children) := by
  have hname : Text.sameIgnoringCase "body" "body" = true := by decide
  unfold ofBody body? elements Element.toNode
  rw [Node.elements]
  exact List.find?_cons_of_pos hname

theorem mem_elements_of_body? {d : Document} {body : Element} (h : d.body? = some body) :
    body ∈ d.elements :=
  List.mem_of_find?_eq_some h

theorem mem_elements_of_mem_contentChildren {d : Document} {e c : Element} (he : e ∈ d.elements)
    (hc : c ∈ e.contentChildren) : c ∈ d.elements :=
  Node.mem_elements_of_mem_childElements d.root he (List.mem_filter.mp hc).1

end Document

end PageModules
