import Mathlib.Data.List.Forall2
import Mathlib.Data.List.TakeWhile
import PageModules.Selector.Basic

/-!
# Compounds among the ancestors

A selector asks that compounds hold of ancestors of an element.  The search for them takes, from
the inside to the outside, the first ancestor of which a compound holds.

* `Element.Below` is a place below an element: another element and the nodes around it.  The
  elements that a search goes through are exactly the ones at such places
  (`Element.mem_located_iff`), each with the elements around it.  These are all elements up to the
  given one (`Element.Below.ancestors_eq_filterMap`), unless the place is in a template, and none
  beyond it (`Element.Below.ancestors_isPrefix_trans`).
* `Compound.matchAncestors_iff`: the search succeeds if and only if some ancestors in order meet
  the compounds; taking the innermost ancestor each time loses nothing.
* `Element.Below.matchAncestors_reverse_iff_exists` is this for compounds that are written from the
  outside to the inside and for the elements around a place.  The elements around a template do not
  count for its contents (`Element.Below.not_matchAncestors_iff_exists_inTemplate`).
* `SelectorPath.mem_select_iff` says which elements a path selects.
-/

namespace PageModules

/-! ### Places below an element -/

namespace Node

/-- The nodes directly below a node. -/
def childNodes : Node → List Node
  | element _ children => children
  | fragment children => children
  | text _ => []
  | comment _ => []
  | doctype _ => []

/-- The elements at the start of a list of nodes, up to the first node that is none. -/
def leadingElements (around : List Node) : List Element :=
  (around.takeWhile fun n => n.element?.isSome).filterMap element?

@[simp] theorem leadingElements_element (tag : Tag) (children around : List Node) :
    leadingElements (element tag children :: around) =
      ⟨tag, children⟩ :: leadingElements around := rfl

@[simp] theorem leadingElements_fragment (children around : List Node) :
    leadingElements (fragment children :: around) = [] := rfl

theorem leadingElements_isPrefix_append (inner outer : List Node) :
    leadingElements inner <+: leadingElements (inner ++ outer) := by
  refine List.IsPrefix.filterMap element? ?_
  rw [List.takeWhile_append]
  split
  · rw [List.takeWhile_eq_self_iff.mpr]
    · exact List.prefix_append inner _
    · exact List.takeWhile_eq_self_iff.mp ((List.takeWhile_prefix _).eq_of_length ‹_›)
  · exact List.prefix_rfl

end Node

namespace Element

/-- The node `n` is below the element `context`; `around` are the nodes around it, the innermost
first and the element last. -/
inductive Surrounds (context : Element) : List Node → Node → Prop where
  /-- A child of the element. -/
  | child {n : Node} (hn : n ∈ context.children) : Surrounds context [context.toNode] n
  /-- A child of a node below. -/
  | inner {around : List Node} {parent n : Node} (hparent : Surrounds context around parent)
      (hn : n ∈ parent.childNodes) : Surrounds context (parent :: around) n

theorem Surrounds.trans {root context : Element} {outer inner : List Node} {n : Node}
    (houter : root.Surrounds outer context.toNode) (hinner : context.Surrounds inner n) :
    root.Surrounds (inner ++ outer) n := by
  induction hinner with
  | child hn => exact houter.inner hn
  | inner _ hn ih => exact ih.inner hn

/-- A place below an element at which another element stands. -/
structure Below (context : Element) where
  /-- The element at the place. -/
  element : Element
  /-- The nodes around it, the innermost first. -/
  around : List Node
  /-- They lead up to the element `context`. -/
  surrounds : context.Surrounds around element.toNode

namespace Below

variable {context : Element}

/-- The elements around the place, the innermost first.  They end at the contents of a template,
which no element is around. -/
def ancestors (b : context.Below) : List Element := Node.leadingElements b.around

/-- The element at the place with the elements around it. -/
def located (b : context.Below) : Located := ⟨b.element, b.ancestors⟩

/-- Without contents of a template around the place, all nodes around it count. -/
theorem ancestors_eq_filterMap (b : context.Below) (h : ∀ n ∈ b.around, n.element?.isSome) :
    b.ancestors = b.around.filterMap Node.element? := by
  rw [ancestors, Node.leadingElements, List.takeWhile_eq_self_iff.mpr h]

/-- A place below an element that is itself below another. -/
def trans {root : Element} (a : root.Below) (b : a.element.Below) : root.Below where
  element := b.element
  around := b.around ++ a.around
  surrounds := a.surrounds.trans b.surrounds

/-- Of the elements around a place only the inner ones count below an inner element. -/
theorem ancestors_isPrefix_trans {root : Element} (a : root.Below) (b : a.element.Below) :
    b.ancestors <+: (a.trans b).ancestors :=
  Node.leadingElements_isPrefix_append b.around a.around

end Below

end Element

namespace Node

theorem locate_subset_locateAll {n : Node} {ns : List Node} (around : List Element) (h : n ∈ ns) :
    locate around n ⊆ locateAll around ns := by
  induction ns with
  | nil => cases h
  | cons m rest ih =>
    rw [locateAll]
    rcases List.mem_cons.mp h with rfl | h
    · exact List.subset_append_left _ _
    · exact List.subset_append_of_subset_right _ (ih h)

theorem locate_child_subset_locate {n parent : Node} (around : List Node)
    (h : n ∈ parent.childNodes) :
    locate (leadingElements (parent :: around)) n ⊆ locate (leadingElements around) parent := by
  cases parent with
  | element tag children =>
    have hsub := locate_subset_locateAll (leadingElements (element tag children :: around)) h
    exact List.subset_cons_of_subset _ hsub
  | fragment children =>
    exact locate_subset_locateAll (leadingElements (fragment children :: around)) h
  | _ => cases h

end Node

namespace Element

theorem Surrounds.locate_subset_located {context : Element} {around : List Node} {n : Node}
    (h : context.Surrounds around n) :
    n.locate (Node.leadingElements around) ⊆ context.located := by
  induction h with
  | child hn => exact Node.locate_subset_locateAll [context] hn
  | inner _ hn ih => exact List.Subset.trans (Node.locate_child_subset_locate _ hn) ih

variable {context : Element}

mutual

/-- What is listed for a node below stands at a place below. -/
theorem exists_below_of_mem_locate (n : Node) {around : List Node} {l : Located}
    (hn : context.Surrounds around n) (hl : l ∈ n.locate (Node.leadingElements around)) :
    ∃ b : context.Below, b.located = l := by
  cases n with
  | element tag children =>
    rw [Node.locate] at hl
    rcases List.mem_cons.mp hl with rfl | hl
    · exact ⟨⟨⟨tag, children⟩, around, hn⟩, rfl⟩
    · exact exists_below_of_mem_locateAll children (.element tag children :: around)
        (fun c hc => .inner hn hc) hl
  | fragment children =>
    -- The search starts anew without ancestors, as the elements in front of the fragment are none.
    exact exists_below_of_mem_locateAll children (.fragment children :: around)
      (fun c hc => .inner hn hc) hl
  | text _ => cases hl
  | comment _ => cases hl
  | doctype _ => cases hl

/-- What is listed for several nodes below stands at places below. -/
theorem exists_below_of_mem_locateAll (ns : List Node) (around : List Node) {l : Located}
    (hns : ∀ n ∈ ns, context.Surrounds around n)
    (hl : l ∈ Node.locateAll (Node.leadingElements around) ns) :
    ∃ b : context.Below, b.located = l := by
  cases ns with
  | nil => cases hl
  | cons n rest =>
    rw [Node.locateAll] at hl
    rcases List.mem_append.mp hl with hl | hl
    · exact exists_below_of_mem_locate n (hns n List.mem_cons_self) hl
    · exact exists_below_of_mem_locateAll rest around
        (fun c hc => hns c (List.mem_cons_of_mem n hc)) hl

end

/-- A search goes through the elements at the places below, each with the elements around it. -/
theorem mem_located_iff {l : Located} :
    l ∈ context.located ↔ ∃ b : context.Below, b.located = l := by
  constructor
  · intro hl
    exact exists_below_of_mem_locateAll context.children [context.toNode] (fun n hn => .child hn) hl
  · rintro ⟨b, rfl⟩
    exact b.surrounds.locate_subset_located List.mem_cons_self

end Element

/-! ### The search among the ancestors -/

namespace Compound

/-- Elements that meet the compounds, one by one and in order. -/
def MeetAll (compounds : List Compound) (es : List Element) : Prop :=
  List.Forall₂ (fun c e => c.holds e = true) compounds es

instance (compounds : List Compound) (es : List Element) : Decidable (MeetAll compounds es) :=
  inferInstanceAs (Decidable (List.Forall₂ _ _ _))

/-- The compounds can be met by some of the given elements in order. -/
def CanMeetAll (compounds : List Compound) (es : List Element) : Prop :=
  ∃ chosen, chosen.Sublist es ∧ MeetAll compounds chosen

theorem canMeetAll_nil (es : List Element) : CanMeetAll [] es :=
  ⟨[], List.nil_sublist es, .nil⟩

theorem not_canMeetAll_cons_nil (c : Compound) (cs : List Compound) :
    ¬ CanMeetAll (c :: cs) [] := by
  rintro ⟨chosen, hsub, hmeet⟩
  obtain rfl := List.sublist_nil.mp hsub
  cases hmeet

theorem CanMeetAll.tail {c : Compound} {cs : List Compound} {es : List Element}
    (h : CanMeetAll (c :: cs) es) : CanMeetAll cs es := by
  obtain ⟨chosen, hsub, hmeet⟩ := h
  cases hmeet with
  | cons _ hrest => exact ⟨_, (List.sublist_cons_self _ _).trans hsub, hrest⟩

/-- Whoever chooses the first element for a compound that holds of it leaves most for the others:
a choice that passes it over can be exchanged for one that takes it. -/
theorem canMeetAll_cons_of_holds {c : Compound} {cs : List Compound} {e : Element}
    {es : List Element} (h : c.holds e = true) :
    CanMeetAll (c :: cs) (e :: es) ↔ CanMeetAll cs es := by
  constructor
  · rintro ⟨chosen, hsub, hmeet⟩
    cases hsub with
    | cons _ hsub => exact CanMeetAll.tail ⟨chosen, hsub, hmeet⟩
    | cons_cons _ hsub =>
      cases hmeet with
      | cons _ hrest => exact ⟨_, hsub, hrest⟩
  · rintro ⟨chosen, hsub, hmeet⟩
    exact ⟨e :: chosen, hsub.cons_cons e, .cons h hmeet⟩

theorem canMeetAll_cons_of_not_holds {c : Compound} {cs : List Compound} {e : Element}
    {es : List Element} (h : ¬ c.holds e = true) :
    CanMeetAll (c :: cs) (e :: es) ↔ CanMeetAll (c :: cs) es := by
  constructor
  · rintro ⟨chosen, hsub, hmeet⟩
    cases hsub with
    | cons _ hsub => exact ⟨chosen, hsub, hmeet⟩
    | cons_cons _ hsub =>
      cases hmeet with
      | cons hc _ => exact absurd hc h
  · rintro ⟨chosen, hsub, hmeet⟩
    exact ⟨chosen, hsub.cons e, hmeet⟩

/-- The search finds a choice whenever there is one. -/
theorem matchAncestors_iff (cs : List Compound) (es : List Element) :
    matchAncestors cs es = true ↔ CanMeetAll cs es := by
  fun_induction matchAncestors cs es with
  | case1 es => simp [canMeetAll_nil es]
  | case2 c cs => simp [not_canMeetAll_cons_nil c cs]
  | case3 c cs e es h ih => rw [ih, canMeetAll_cons_of_holds h]
  | case4 c cs e es h ih => rw [ih, canMeetAll_cons_of_not_holds h]

theorem canMeetAll_reverse_iff {cs : List Compound} {es : List Element} :
    CanMeetAll cs.reverse es ↔ CanMeetAll cs es.reverse := by
  constructor
  · rintro ⟨chosen, hsub, hmeet⟩
    refine ⟨chosen.reverse, hsub.reverse, ?_⟩
    rw [← cs.reverse_reverse]
    exact List.forall₂_reverse_iff.mpr hmeet
  · rintro ⟨chosen, hsub, hmeet⟩
    refine ⟨chosen.reverse, ?_, List.forall₂_reverse_iff.mpr hmeet⟩
    rw [← es.reverse_reverse]
    exact hsub.reverse

end Compound

/-! ### The elements around a place -/

namespace Element

/-- A template with a paragraph. -/
def template : Element :=
  ⟨⟨.html, "template", []⟩, [.fragment [.element ⟨.html, "p", []⟩ [.text "x"]]]⟩

/-- An element with the class `a` around the template. -/
def aroundTemplate : Element := ⟨⟨.html, "div", [⟨.none, "class", "a"⟩]⟩, [template.toNode]⟩

namespace Below

open Compound

variable {context : Element}

/-- The compounds, the outermost first, are found around a place if and only if elements around it
meet them one by one and in order; none of these stands above the element `context`. -/
theorem matchAncestors_reverse_iff_exists (b : context.Below) (compounds : List Compound) :
    b.located ∈ context.located ∧
      (matchAncestors compounds.reverse b.located.ancestors = true ↔
        ∃ chosen, chosen.Sublist b.ancestors.reverse ∧ MeetAll compounds chosen) := by
  refine ⟨mem_located_iff.mpr ⟨b, rfl⟩, ?_⟩
  rw [matchAncestors_iff, canMeetAll_reverse_iff]
  rfl

/-- The paragraph in the template. -/
def inTemplate : aroundTemplate.Below where
  element := ⟨⟨.html, "p", []⟩, [.text "x"]⟩
  around := [.fragment [.element ⟨.html, "p", []⟩ [.text "x"]], template.toNode,
    aroundTemplate.toNode]
  surrounds := .inner (.inner (.child List.mem_cons_self) List.mem_cons_self) List.mem_cons_self

/-- Not all elements around a place count: the class of the outer element is not found from the
contents of the template. -/
theorem not_matchAncestors_iff_exists_inTemplate :
    inTemplate.located ∈ aroundTemplate.located ∧
      ¬ (matchAncestors [⟨none, ["a"], []⟩].reverse inTemplate.located.ancestors = true ↔
        ∃ chosen, chosen.Sublist (inTemplate.around.filterMap Node.element?).reverse ∧
          MeetAll [⟨none, ["a"], []⟩] chosen) := by
  refine ⟨mem_located_iff.mpr ⟨inTemplate, rfl⟩, fun h => ?_⟩
  have hfound := h.mpr
    ⟨[aroundTemplate], List.singleton_sublist.mpr List.mem_cons_self, by decide⟩
  exact absurd hfound (by decide)

end Below

end Element

namespace SelectorPath

open Compound

/-- A path that takes all elements selects the ones that stand at a place below, meet the last
compound and have elements around them that meet the others. -/
theorem mem_select_iff {p : SelectorPath} (hp : p.pick = .all) {context e : Element} :
    e ∈ p.select context ↔ ∃ b : context.Below, b.element = e ∧ p.target.holds e = true ∧
      CanMeetAll p.ancestors b.ancestors.reverse := by
  have hleads (b : context.Below) : p.leadsTo b.located = true ↔
      p.target.holds b.element = true ∧ CanMeetAll p.ancestors b.ancestors.reverse := by
    rw [leadsTo, Bool.and_eq_true, matchAncestors_iff, canMeetAll_reverse_iff]
    rfl
  rw [select, hp, Pick.take, List.mem_map]
  constructor
  · rintro ⟨l, hl, rfl⟩
    obtain ⟨hl, hlead⟩ := List.mem_filter.mp hl
    obtain ⟨b, rfl⟩ := Element.mem_located_iff.mp hl
    exact ⟨b, rfl, (hleads b).mp hlead⟩
  · rintro ⟨b, rfl, hb⟩
    exact ⟨b.located,
      List.mem_filter.mpr ⟨Element.mem_located_iff.mpr ⟨b, rfl⟩, (hleads b).mpr hb⟩, rfl⟩

end SelectorPath

end PageModules
