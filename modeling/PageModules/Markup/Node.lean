import PageModules.Text.Basic

/-!
# Markup trees

A node of a markup tree is an element with its children, a text, a comment, a document type or a
fragment, which holds the contents of a `template` element.  An `Element` is a node that is known to
be an element.

* `Element.childElements` are the children that are elements, `Element.descendants` all elements
  below in document order.
* `Element.text` is the text of all descendants, trimmed.
* `Element.attr?` looks up an attribute by its exact name.

The size lemmas make recursion over the elements of a tree well-founded.
-/

namespace PageModules

/-! ### Nodes -/

/-- The vocabulary that an element belongs to. -/
inductive Vocabulary where
  /-- HTML. -/
  | html
  /-- SVG. -/
  | svg
  /-- MathML. -/
  | mathml
deriving DecidableEq, Repr

/-- The vocabulary that the name of an attribute belongs to. -/
inductive AttrSpace where
  /-- No vocabulary. -/
  | none
  /-- Links. -/
  | xlink
  /-- General attributes of XML. -/
  | xml
  /-- Declarations of vocabularies. -/
  | xmlns
deriving DecidableEq, Repr

/-- An attribute of an element. -/
structure Attr where
  /-- The vocabulary of the name. -/
  space : AttrSpace
  /-- The local name. -/
  name : String
  /-- The value. -/
  value : String
deriving DecidableEq, Repr

/-- The tag of an element: its name and its attributes in source order. -/
structure Tag where
  /-- The vocabulary of the name. -/
  space : Vocabulary
  /-- The local name. -/
  name : String
  /-- The attributes in source order. -/
  attrs : List Attr
deriving DecidableEq, Repr

/-- A node of a markup tree. -/
inductive Node where
  /-- An element with its children. -/
  | element (tag : Tag) (children : List Node)
  /-- A text. -/
  | text (value : String)
  /-- A comment. -/
  | comment (value : String)
  /-- A document type. -/
  | doctype (name : String)
  /-- The contents of a template. -/
  | fragment (children : List Node)
deriving Repr, Inhabited

/-- An element of a markup tree. -/
structure Element where
  /-- The tag. -/
  tag : Tag
  /-- The children in order. -/
  children : List Node
deriving Repr

namespace Node

/-- The element that a node is. -/
def element? : Node → Option Element
  | element tag children => some ⟨tag, children⟩
  | _ => none

mutual

/-- The number of nodes of a tree. -/
def size : Node → Nat
  | element _ children => sizeAll children + 1
  | fragment children => sizeAll children + 1
  | text _ => 1
  | comment _ => 1
  | doctype _ => 1

/-- The number of nodes of several trees. -/
def sizeAll : List Node → Nat
  | [] => 0
  | n :: rest => size n + sizeAll rest

end

mutual

/-- The elements of a tree in document order. -/
def elements : Node → List Element
  | element tag children => ⟨tag, children⟩ :: elementsAll children
  | fragment children => elementsAll children
  | text _ => []
  | comment _ => []
  | doctype _ => []

/-- The elements of several trees in document order. -/
def elementsAll : List Node → List Element
  | [] => []
  | n :: rest => elements n ++ elementsAll rest

end

mutual

/-- The text of a tree. -/
def textOf : Node → List Char
  | text s => s.toList
  | element _ children => textOfAll children
  | fragment children => textOfAll children
  | comment _ => []
  | doctype _ => []

/-- The text of several trees. -/
def textOfAll : List Node → List Char
  | [] => []
  | n :: rest => textOf n ++ textOfAll rest

end

end Node

/-! ### Elements -/

namespace Element

/-- The element as a node. -/
def toNode (e : Element) : Node := .element e.tag e.children

/-- The number of nodes of the tree below and including an element. -/
def size (e : Element) : Nat := Node.sizeAll e.children + 1

/-- The name of the tag. -/
def name (e : Element) : String := e.tag.name

/-- The name of the tag in lowercase. -/
def tagName (e : Element) : String := Text.lowercase e.tag.name

/-- Whether the tag has the given name, in any case. -/
def isNamed (e : Element) (name : String) : Bool := Text.sameIgnoringCase e.name name

theorem isNamed_iff {e : Element} {name : String} :
    e.isNamed name = true ↔ e.tagName = Text.lowercase name := by
  rw [isNamed, Text.sameIgnoringCase, Chars.sameIgnoringCase, beq_iff_eq]
  exact String.ofList_inj.symm

/-- Whether the tag has one of the given names, in any case. -/
def isOneOf (e : Element) (names : List String) : Bool := names.any e.isNamed

/-! ### Children and descendants -/

/-- The children that are elements. -/
def childElements (e : Element) : List Element := e.children.filterMap Node.element?

/-- All elements below, in document order. -/
def descendants (e : Element) : List Element := Node.elementsAll e.children

/-- The first descendant with one of the given names. -/
def findDescendant? (e : Element) (names : List String) : Option Element :=
  e.descendants.find? (·.isOneOf names)

/-- The number of descendants with one of the given names. -/
def countDescendants (e : Element) (names : List String) : Nat :=
  e.descendants.countP (·.isOneOf names)

/-! ### Attributes -/

/-- The value of the attribute with exactly the given name. -/
def attr? (e : Element) (name : String) : Option String :=
  (e.tag.attrs.find? fun a => a.space = .none && a.name == name).map (·.value)

/-- The value of an attribute, unless it is blank. -/
def filledAttr? (e : Element) (name : String) : Option String :=
  (e.attr? name).filter fun v => !Text.isBlankText v

/-- The value of the `class` attribute, empty where there is none. -/
def classAttr (e : Element) : String := (e.attr? "class").getD ""

/-- The classes in lowercase. -/
def classes (e : Element) : List String := (Text.words e.classAttr).map Text.lowercase

/-- Whether the element has a class, in any case. -/
def hasClass (e : Element) (name : String) : Bool :=
  (Text.words e.classAttr).any fun c => Text.sameIgnoringCase c name

/-! ### Markers and overrides -/

/-- The attribute that names the type of the module to be made of an element. -/
def markerName : String := "data-jtb-module"

/-- What the names of author overrides start with. -/
def overrideMark : String := "data-jtb-attr-"

/-- The module type named on the element, trimmed. -/
def marker? (e : Element) : Option String := (e.filledAttr? markerName).map Text.trim

/-- The value of the first author override of the given name, in any case, unless that is blank. -/
def override? (e : Element) (name : String) : Option String :=
  ((e.tag.attrs.find? fun a =>
    (Text.dropPiece? overrideMark a.name).any fun rest => Text.sameIgnoringCase rest name).map
      (·.value)).filter fun v => !Text.isBlankText v

/-! ### Text -/

/-- The text of all descendants, trimmed. -/
def text (e : Element) : String := String.ofList (Chars.trim (Node.textOfAll e.children))

/-- Whether a child is a text that is not blank. -/
def hasDirectText (e : Element) : Bool :=
  e.children.any fun n => match n with
    | .text s => !Text.isBlankText s
    | _ => false

end Element

end PageModules
