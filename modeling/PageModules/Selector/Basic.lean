import PageModules.Markup.Ancestry

/-!
# Selectors

A selector is a list of alternatives.  Each leads along a path of compounds, which name ancestors
and at last the element itself, to elements below a given one; it may take only the first or the
last of them, and it may ask for an attribute instead of the element.

* `Selector.find?` is the first hit of the first alternative that has one.
* `Selector.findAll` are the hits of all alternatives.
* `Compound.matchAncestors` looks for the compounds among the ancestors, each as far inside as it
can.
-/

namespace PageModules

/-- A condition on an attribute: that it is there, or that it has a value. -/
structure AttrTest where
  /-- The name of the attribute. -/
  name : String
  /-- The value that is asked for. -/
  value : Option String
deriving DecidableEq, Repr

/-- Conditions on one element. -/
structure Compound where
  /-- The name of the tag; none for any. -/
  tag : Option String
  /-- The classes. -/
  classes : List String
  /-- The conditions on attributes. -/
  tests : List AttrTest
deriving DecidableEq, Repr

/-- Which of the elements that a path leads to are taken. -/
inductive Pick where
  /-- All of them. -/
  | all
  /-- The first one. -/
  | first
  /-- The last one. -/
  | last
deriving DecidableEq, Repr

/-- One alternative of a selector. -/
structure SelectorPath where
  /-- The conditions on ancestors, the outermost first. -/
  ancestors : List Compound
  /-- The conditions on the element. -/
  target : Compound
  /-- Which elements are taken. -/
  pick : Pick
  /-- The attribute that is asked for. -/
  attr : Option String
deriving DecidableEq, Repr

/-- A selector: alternatives in the order in which they are tried. -/
structure Selector where
  /-- The alternatives. -/
  paths : List SelectorPath
deriving DecidableEq, Repr

/-- What a selector finds. -/
inductive Hit where
  /-- An element. -/
  | element (e : Element)
  /-- The value of an attribute. -/
  | attr (value : String)

/-! ### Conditions -/

/-- Whether an element passes a condition on an attribute. -/
def AttrTest.holds (t : AttrTest) (e : Element) : Bool :=
  match e.attr? t.name, t.value with
  | some actual, some expected => actual == expected
  | some _, none => true
  | none, _ => false

namespace Compound

/-- Whether an element meets the conditions. -/
def holds (c : Compound) (e : Element) : Bool :=
  c.tag.all e.isNamed && c.classes.all e.hasClass && c.tests.all fun t => t.holds e

/-- Whether some of the ancestors, the innermost first, meet the conditions in order. -/
def matchAncestors : List Compound → List Element → Bool
  | [], _ => true
  | _ :: _, [] => false
  | c :: cs, e :: es => if c.holds e then matchAncestors cs es else matchAncestors (c :: cs) es

end Compound

/-! ### Search -/

namespace Pick

/-- The elements that are taken. -/
def take {α : Type} : Pick → List α → List α
  | all, es => es
  | first, es => es.take 1
  | last, es => es.getLast?.toList

end Pick

namespace SelectorPath

/-- Whether the path leads to an element. -/
def leadsTo (p : SelectorPath) (l : Located) : Bool :=
  p.target.holds l.element && Compound.matchAncestors p.ancestors.reverse l.ancestors

/-- The elements below the given one that the path selects. -/
def select (p : SelectorPath) (e : Element) : List Element :=
  p.pick.take ((e.located.filter p.leadsTo).map (·.element))

/-- What an element contributes: itself or its attribute. -/
def hit? (p : SelectorPath) (e : Element) : Option Hit :=
  match p.attr with
  | some name => (e.attr? name).map .attr
  | none => some (.element e)

end SelectorPath

namespace Selector

/-- Whether there are no alternatives. -/
def isEmpty (s : Selector) : Bool := s.paths.isEmpty

/-- The hit of the first alternative that has one.  Of each alternative only the first element
counts; it may lack the attribute that is asked for. -/
def find? (s : Selector) (e : Element) : Option Hit :=
  s.paths.findSome? fun p => (p.select e).head?.bind p.hit?

/-- The hits of all alternatives. -/
def findAll (s : Selector) (e : Element) : List Hit :=
  s.paths.flatMap fun p => (p.select e).filterMap p.hit?

end Selector

end PageModules
