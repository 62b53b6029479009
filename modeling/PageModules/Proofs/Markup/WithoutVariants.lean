import PageModules.Mapping.Fields
import PageModules.Proofs.Style.Variants
import PageModules.Proofs.Text.Cutting
import PageModules.Walk.Grouping

/-!
# Trees without the variants of styles

`Node.withoutVariants` takes the style texts for tablets, phones and hovering out of a tree. What is
read of the shape of a tree, of its texts and of its other attributes stays as it is; only the
markup text of a tree changes, but it does not become blank
(`Element.isEmpty_innerMarkup_withoutVariants`).
-/

namespace PageModules

/-! ### Taking the variants out -/

/-- The names of the attributes with the style texts of the variants. -/
def variantNames : List String := Element.styleVariants.map Prod.fst

/-- Whether an attribute is no style text of a variant. -/
def Attr.isPlain (a : Attr) : Bool := !variantNames.contains a.name

/-- The tag without the style texts of the variants. -/
def Tag.withoutVariants (t : Tag) : Tag := ⟨t.space, t.name, t.attrs.filter (·.isPlain)⟩

namespace Node

mutual

/-- The tree without the style texts of the variants. -/
def withoutVariants : Node → Node
  | element tag children => element tag.withoutVariants (withoutVariantsAll children)
  | fragment children => fragment (withoutVariantsAll children)
  | text s => text s
  | comment s => comment s
  | doctype name => doctype name

/-- Several trees without the style texts of the variants. -/
def withoutVariantsAll : List Node → List Node
  | [] => []
  | n :: rest => withoutVariants n :: withoutVariantsAll rest

end

theorem withoutVariantsAll_eq (ns : List Node) :
    withoutVariantsAll ns = ns.map withoutVariants := by
  induction ns with
  | nil => rfl
  | cons n rest ih => rw [withoutVariantsAll, ih, List.map_cons]

end Node

namespace Element

/-- The element without the style texts of the variants, its own and those inside. -/
def withoutVariants (e : Element) : Element :=
  ⟨e.tag.withoutVariants, Node.withoutVariantsAll e.children⟩

end Element

/-- The located element, and those around it, without the style texts of the variants. -/
def Located.withoutVariants (l : Located) : Located :=
  ⟨l.element.withoutVariants, l.ancestors.map Element.withoutVariants⟩

/-! ### The shape of a tree -/

namespace Node

theorem element?_withoutVariants (n : Node) :
    n.withoutVariants.element? = n.element?.map Element.withoutVariants := by
  cases n <;> rfl

mutual

theorem elements_withoutVariants (n : Node) :
    n.withoutVariants.elements = n.elements.map Element.withoutVariants := by
  cases n with
  | element tag children =>
    rw [withoutVariants, elements, elements, elementsAll_withoutVariants children, List.map_cons]
    rfl
  | fragment children =>
    rw [withoutVariants, elements, elements, elementsAll_withoutVariants children]
  | _ => rfl

theorem elementsAll_withoutVariants (ns : List Node) :
    elementsAll (withoutVariantsAll ns) = (elementsAll ns).map Element.withoutVariants := by
  cases ns with
  | nil => rfl
  | cons n rest =>
    rw [withoutVariantsAll, elementsAll, elementsAll, elements_withoutVariants n,
      elementsAll_withoutVariants rest, List.map_append]

end

mutual

theorem textOf_withoutVariants (n : Node) : n.withoutVariants.textOf = n.textOf := by
  cases n with
  | element tag children =>
    rw [withoutVariants, textOf, textOf, textOfAll_withoutVariants children]
  | fragment children =>
    rw [withoutVariants, textOf, textOf, textOfAll_withoutVariants children]
  | _ => rfl

theorem textOfAll_withoutVariants (ns : List Node) :
    textOfAll (withoutVariantsAll ns) = textOfAll ns := by
  cases ns with
  | nil => rfl
  | cons n rest =>
    rw [withoutVariantsAll, textOfAll, textOfAll, textOf_withoutVariants n,
      textOfAll_withoutVariants rest]

end

mutual

theorem locate_withoutVariants (around : List Element) (n : Node) :
    locate (around.map Element.withoutVariants) n.withoutVariants =
      (locate around n).map Located.withoutVariants := by
  cases n with
  | element tag children =>
    rw [withoutVariants, locate, locate, List.map_cons,
      ← locateAll_withoutVariants (⟨tag, children⟩ :: around) children, List.map_cons]
    rfl
  | fragment children =>
    rw [withoutVariants, locate, locate, ← locateAll_withoutVariants [] children, List.map_nil]
  | _ => rfl

theorem locateAll_withoutVariants (around : List Element) (ns : List Node) :
    locateAll (around.map Element.withoutVariants) (withoutVariantsAll ns) =
      (locateAll around ns).map Located.withoutVariants := by
  cases ns with
  | nil => rfl
  | cons n rest =>
    rw [withoutVariantsAll, locateAll, locateAll, locate_withoutVariants around n,
      locateAll_withoutVariants around rest, List.map_append]

end

end Node

namespace Element

variable (e : Element)

@[simp] theorem tagName_withoutVariants : e.withoutVariants.tagName = e.tagName := rfl

@[simp] theorem isNamed_withoutVariants (name : String) :
    e.withoutVariants.isNamed name = e.isNamed name := rfl

@[simp] theorem isOneOf_withoutVariants (names : List String) :
    e.withoutVariants.isOneOf names = e.isOneOf names := rfl

@[simp] theorem text_withoutVariants : e.withoutVariants.text = e.text := by
  rw [text, text, withoutVariants, Node.textOfAll_withoutVariants]

@[simp] theorem childElements_withoutVariants :
    e.withoutVariants.childElements = e.childElements.map withoutVariants := by
  rw [childElements, childElements, withoutVariants, Node.withoutVariantsAll_eq, List.filterMap_map,
    List.map_filterMap]
  exact List.filterMap_congr fun n _ => Node.element?_withoutVariants n

@[simp] theorem descendants_withoutVariants :
    e.withoutVariants.descendants = e.descendants.map withoutVariants :=
  Node.elementsAll_withoutVariants e.children

@[simp] theorem located_withoutVariants :
    e.withoutVariants.located = e.located.map Located.withoutVariants :=
  Node.locateAll_withoutVariants [e] e.children

@[simp] theorem contentChildren_withoutVariants :
    e.withoutVariants.contentChildren = e.contentChildren.map withoutVariants := by
  rw [contentChildren, contentChildren, childElements_withoutVariants, List.filter_map]
  rfl

@[simp] theorem hasDirectText_withoutVariants :
    e.withoutVariants.hasDirectText = e.hasDirectText := by
  rw [hasDirectText, hasDirectText, withoutVariants, Node.withoutVariantsAll_eq, List.any_map]
  congr 1
  funext n
  cases n <;> rfl

/-! ### Attributes -/

/-- A look-up that no style text of a variant answers does not miss them. -/
theorem find?_withoutVariants {p : Attr → Bool} (h : ∀ a : Attr, p a = true → a.isPlain = true) :
    e.withoutVariants.tag.attrs.find? p = e.tag.attrs.find? p := by
  change (e.tag.attrs.filter (·.isPlain)).find? p = _
  rw [List.find?_filter]
  congr 1
  funext a
  cases hp : p a with
  | false => simp
  | true => simp [h a hp]

variable {e} in
theorem attr?_withoutVariants {name : String} (h : name ∉ variantNames) :
    e.withoutVariants.attr? name = e.attr? name := by
  rw [attr?, attr?, find?_withoutVariants]
  intro a ha
  rw [Bool.and_eq_true, beq_iff_eq] at ha
  rw [Attr.isPlain, ha.2, Bool.not_eq_true']
  simpa using h

variable {e} in
theorem filledAttr?_withoutVariants {name : String} (h : name ∉ variantNames) :
    e.withoutVariants.filledAttr? name = e.filledAttr? name := by
  rw [filledAttr?, filledAttr?, attr?_withoutVariants h]

theorem firstFilledAttr?_withoutVariants {names : List String}
    (h : ∀ name ∈ names, name ∉ variantNames) :
    e.withoutVariants.firstFilledAttr? names = e.firstFilledAttr? names := by
  rw [firstFilledAttr?, firstFilledAttr?, ← List.head?_filterMap, ← List.head?_filterMap]
  exact congrArg List.head?
    (List.filterMap_congr fun name hname => filledAttr?_withoutVariants (h name hname))

@[simp] theorem classAttr_withoutVariants : e.withoutVariants.classAttr = e.classAttr := by
  rw [classAttr, classAttr, attr?_withoutVariants (by decide)]

@[simp] theorem classes_withoutVariants : e.withoutVariants.classes = e.classes := by
  rw [classes, classes, classAttr_withoutVariants]

@[simp] theorem hasClass_withoutVariants (name : String) :
    e.withoutVariants.hasClass name = e.hasClass name := by
  rw [hasClass, hasClass, classAttr_withoutVariants]

@[simp] theorem hasAnyClass_withoutVariants (classes : List String) :
    e.withoutVariants.hasAnyClass classes = e.hasAnyClass classes := by
  have hclass : e.withoutVariants.hasClass = e.hasClass := funext e.hasClass_withoutVariants
  rw [hasAnyClass, hasAnyClass, hclass]

@[simp] theorem marker?_withoutVariants : e.withoutVariants.marker? = e.marker? := by
  rw [marker?, marker?, filledAttr?_withoutVariants (by decide)]

/-- What starts like an author override is no style text of a variant. -/
theorem isPlain_of_dropPiece? {a : Attr} {rest : String}
    (h : Text.dropPiece? overrideMark a.name = some rest) : a.isPlain = true := by
  have hnames : ∀ name ∈ variantNames, Text.dropPiece? overrideMark name = none := by
    decide +kernel
  rw [Attr.isPlain, Bool.not_eq_true', Bool.eq_false_iff]
  intro hmem
  rw [hnames a.name (List.contains_iff_mem.mp hmem)] at h
  cases h

@[simp] theorem override?_withoutVariants (name : String) :
    e.withoutVariants.override? name = e.override? name := by
  rw [override?, override?, find?_withoutVariants]
  intro a ha
  obtain ⟨rest, hrest, -⟩ := (Option.any_eq_true _ _).mp ha
  exact isPlain_of_dropPiece? hrest

@[simp] theorem overrides_withoutVariants : e.withoutVariants.overrides = e.overrides := by
  have hattrs : e.withoutVariants.tag.attrs = e.tag.attrs.filter (·.isPlain) := rfl
  rw [overrides, overrides, hattrs, List.filterMap_filter]
  congr 1
  refine List.filterMap_congr fun a _ => ?_
  cases hplain : a.isPlain with
  | true => rfl
  | false =>
    have hnone : Text.dropPiece? overrideMark a.name = none := by
      rw [Option.eq_none_iff_forall_ne_some]
      intro rest hrest
      rw [isPlain_of_dropPiece? hrest] at hplain
      cases hplain
    rw [overrideKey?, hnone]
    rfl

@[simp] theorem style_withoutVariants : e.withoutVariants.style = e.style := by
  rw [style, style, attr?_withoutVariants (by decide)]

@[simp] theorem styleAttributes_withoutVariants (base : Int) :
    e.withoutVariants.styleAttributes base = e.styleAttributes base := by
  rw [styleAttributes, styleAttributes, style_withoutVariants]

/-! ### Search -/

@[simp] theorem findDescendant?_withoutVariants (names : List String) :
    e.withoutVariants.findDescendant? names = (e.findDescendant? names).map withoutVariants := by
  rw [findDescendant?, findDescendant?, descendants_withoutVariants, List.find?_map]
  rfl

@[simp] theorem countDescendants_withoutVariants (names : List String) :
    e.withoutVariants.countDescendants names = e.countDescendants names := by
  rw [countDescendants, countDescendants, descendants_withoutVariants, List.countP_map]
  rfl

@[simp] theorem descendantsNamed_withoutVariants (name : String) :
    e.withoutVariants.descendantsNamed name = (e.descendantsNamed name).map withoutVariants := by
  rw [descendantsNamed, descendantsNamed, descendants_withoutVariants, List.filter_map]
  rfl

@[simp] theorem hasBelow_withoutVariants (names : List String) :
    e.withoutVariants.hasBelow names = e.hasBelow names := by
  rw [hasBelow, hasBelow, findDescendant?_withoutVariants, Option.isSome_map]

theorem hasAnyClass_comp_withoutVariants (classes : List String) :
    (fun c : Element => c.hasAnyClass classes) ∘ withoutVariants = fun c => c.hasAnyClass classes :=
  funext fun c => c.hasAnyClass_withoutVariants classes

@[simp] theorem findClass?_withoutVariants (classes : List String) :
    e.withoutVariants.findClass? classes = (e.findClass? classes).map withoutVariants := by
  rw [findClass?, findClass?, descendants_withoutVariants, List.find?_map,
    hasAnyClass_comp_withoutVariants]

@[simp] theorem hasClassBelow_withoutVariants (classes : List String) :
    e.withoutVariants.hasClassBelow classes = e.hasClassBelow classes := by
  rw [hasClassBelow, hasClassBelow, descendants_withoutVariants, List.any_map,
    hasAnyClass_comp_withoutVariants]

@[simp] theorem firstImage?_withoutVariants : e.withoutVariants.firstImage? = e.firstImage? := by
  rw [firstImage?, firstImage?, findDescendant?_withoutVariants, Option.bind_map]
  congr 1
  funext c
  exact filledAttr?_withoutVariants (by decide)

end Element

/-! ### Markup text -/

namespace Serialization

theorem isBlankText_startTag_append (tag : Tag) (rest : List Char) :
    Chars.isBlankText (startTag tag ++ rest) = false := by
  have hopen : Text.isBlank '<' = false := by decide
  have hcons : startTag tag ++ rest =
      '<' :: (tag.name.toList ++ tag.attrs.flatMap attr ++ ['>'] ++ rest) := by
    rw [startTag, List.cons_append, List.cons_append, List.cons_append]
  rw [hcons, Chars.isBlankText, List.all_cons, hopen, Bool.false_and]

theorem isBlankText_node_element (parent : Option String) (tag : Tag) (children : List Node) :
    Chars.isBlankText (node parent (.element tag children)) = false := by
  -- The equations of `node` would evaluate the texts around comments, so they are not used.
  change Chars.isBlankText (if isVoid tag then startTag tag
    else startTag tag ++ nodes (htmlName? tag) children ++ endTag tag) = false
  split
  · rw [← List.append_nil (startTag tag)]
    exact isBlankText_startTag_append tag []
  · rw [List.append_assoc]
    exact isBlankText_startTag_append tag _

mutual

/-- Taking attributes out makes no markup text blank. -/
theorem isBlankText_node (parent : Option String) (n : Node) :
    Chars.isBlankText (node parent n.withoutVariants) = Chars.isBlankText (node parent n) := by
  cases n with
  | element tag children =>
    rw [Node.withoutVariants, isBlankText_node_element, isBlankText_node_element]
  | fragment children =>
    rw [Node.withoutVariants]
    exact isBlankText_nodes parent children
  | text s => rw [Node.withoutVariants]
  | comment s => rw [Node.withoutVariants]
  | doctype name => rw [Node.withoutVariants]

theorem isBlankText_nodes (parent : Option String) (ns : List Node) :
    Chars.isBlankText (nodes parent (Node.withoutVariantsAll ns)) =
      Chars.isBlankText (nodes parent ns) := by
  cases ns with
  | nil => rw [Node.withoutVariantsAll]
  | cons n rest =>
    have happend (s t : List Char) :
        Chars.isBlankText (s ++ t) = (Chars.isBlankText s && Chars.isBlankText t) :=
      List.all_append
    rw [Node.withoutVariantsAll, nodes, nodes, happend, happend, isBlankText_node parent n,
      isBlankText_nodes parent rest]

end

end Serialization

namespace Element

theorem isEmpty_innerMarkup (e : Element) :
    e.innerMarkup.isEmpty = Chars.isBlankText (Serialization.nodes none e.children) := by
  rw [Bool.eq_iff_iff, String.isEmpty_iff, innerMarkup, ← Chars.trim_eq_nil_iff,
    String.ofList_eq_empty_iff]

/-- The markup inside of an element is empty no sooner without the variants. -/
theorem isEmpty_innerMarkup_withoutVariants (e : Element) :
    e.withoutVariants.innerMarkup.isEmpty = e.innerMarkup.isEmpty := by
  rw [isEmpty_innerMarkup, isEmpty_innerMarkup, withoutVariants,
    Serialization.isBlankText_nodes]

/-- The markup of an element is never empty. -/
theorem isEmpty_outerMarkup (e : Element) : e.outerMarkup.isEmpty = false := by
  rw [Bool.eq_false_iff, ne_eq, String.isEmpty_iff, outerMarkup, String.ofList_eq_empty_iff]
  intro hnil
  have hblank := Serialization.isBlankText_node_element none e.tag e.children
  rw [toNode] at hnil
  rw [hnil] at hblank
  cases hblank

end Element

end PageModules
