import PageModules.Markup.Node

/-!
# Search below an element

Descendants by their tags and classes, and the first of several attributes that is set.
-/

namespace PageModules.Element

/-- The descendants of one name. -/
def descendantsNamed (e : Element) (name : String) : List Element :=
  e.descendants.filter (·.isNamed name)

/-- Whether there is a descendant with one of the given names. -/
def hasBelow (e : Element) (names : List String) : Bool := (e.findDescendant? names).isSome

/-- Whether the element has one of the given classes. -/
def hasAnyClass (e : Element) (classes : List String) : Bool := classes.any e.hasClass

/-- The first descendant with one of the given classes. -/
def findClass? (e : Element) (classes : List String) : Option Element :=
  e.descendants.find? (·.hasAnyClass classes)

/-- Whether there is a descendant with one of the given classes. -/
def hasClassBelow (e : Element) (classes : List String) : Bool :=
  e.descendants.any (·.hasAnyClass classes)

/-- The value of the first of several attributes that is not blank. -/
def firstFilledAttr? (e : Element) (names : List String) : Option String :=
  names.findSome? e.filledAttr?

/-- The address of the first picture below. -/
def firstImage? (e : Element) : Option String :=
  (e.findDescendant? ["img"]).bind (·.filledAttr? "src")

end PageModules.Element
