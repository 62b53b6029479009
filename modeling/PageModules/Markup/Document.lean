import PageModules.Markup.Rules
import PageModules.Text.Pattern

/-!
# Documents and fragments

`Document.ofText` reads a whole document; text without an `html` tag is put into the body of an
empty document first.  `Document.ofFragment` reads text as the contents of a body.  Neither can
fail: the HTML standard gives every text a tree.
-/

namespace PageModules

/-- The tree of a document or of a fragment. -/
structure Document where
  /-- The root. -/
  root : Node
  /-- How many pieces of the text did not belong in the table where they stood. -/
  fostered : Nat

namespace Document

/-- The byte order mark, which is dropped in front of a text. -/
def byteOrderMark : Char := '\uFEFF'

/-- The characters of a text as they are read. -/
def characters (s : String) : List Char :=
  match s.toList with
  | c :: cs => if c = byteOrderMark then cs else c :: cs
  | [] => []

/-- Reads a text from a given state on. -/
def build (b : Builder) (s : String) : Document :=
  let cs := characters s
  let b := b.run none cs (cs.length + 2)
  ⟨b.forest.toDocument, b.fostered⟩

/-- What an `html` tag starts with. -/
def htmlTagStart : Text.Pattern := .folded "<html"

/-- Puts the contents of a body into an empty document. -/
def inEmptyDocument (body : String) : String :=
  "<!DOCTYPE html><html><head><meta charset=\"UTF-8\"></head><body>" ++ body ++ "</body></html>"

/-- The text of a whole document: the text itself if it has an `html` tag. -/
def completed (s : String) : String := if htmlTagStart.isIn s.toList then s else inEmptyDocument s

/-- Reads a document. -/
def ofText (s : String) : Document := build .start (completed s)

/-- The state at the start of the contents of a body. -/
def fragmentStart : Builder :=
  let b := Builder.start.createRoot []
  let b := { b with context := some ⟨.html, "body", []⟩ }
  b.enter b.properMode

/-- Reads the contents of a body. -/
def ofFragment (s : String) : Document := build fragmentStart s

/-- The elements in document order. -/
def elements (d : Document) : List Element := d.root.elements

/-- The body. -/
def body? (d : Document) : Option Element := d.elements.find? fun e => e.isNamed "body"

/-- The root element. -/
def rootElement? (d : Document) : Option Element :=
  match d.root with
  | .fragment children => children.findSome? Node.element?
  | n => n.element?

/-- The element that a path of positions among child elements leads to. -/
def descend? (e : Element) : List Nat → Option Element
  | [] => some e
  | i :: path => (e.childElements[i]?).bind fun c => descend? c path

/-- The element of a fragment that a path leads to; the first one for the empty path. -/
def elementAt? (d : Document) (path : List Nat) : Option Element :=
  d.rootElement?.bind fun root => (root.childElements[0]?).bind fun e => descend? e path

end Document

end PageModules
