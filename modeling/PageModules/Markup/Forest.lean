import PageModules.Markup.Node

/-!
# Forests under construction

While markup is read, elements are moved about, so the nodes live in a `Forest`: a numbered list of
cells that know their parent and their children.  `Forest.toNode` reads the finished tree off.

Text that is put beside a text is added to it, so no two texts are neighbours unless a node between
them has been moved away.
-/

namespace PageModules

/-- What a cell is. -/
inductive CellKind where
  /-- The root of a document. -/
  | document
  /-- An element. -/
  | element (tag : Tag)
  /-- A text. -/
  | text (value : String)
  /-- A comment. -/
  | comment (value : String)
  /-- A document type. -/
  | doctype (name : String)
  /-- The contents of a template. -/
  | fragment
deriving Inhabited

/-- A node under construction. -/
structure Cell where
  /-- What the node is. -/
  kind : CellKind
  /-- The number of the parent. -/
  parent : Option Nat
  /-- The numbers of the children in order. -/
  children : Array Nat
deriving Inhabited

/-- Nodes under construction by number; the document has the number 0. -/
structure Forest where
  /-- The cells. -/
  cells : Array Cell

namespace Forest

/-- The forest with an empty document. -/
def empty : Forest := ⟨#[⟨.document, none, #[]⟩]⟩

/-- The number of the document. -/
def documentId : Nat := 0

/-! ### Look-up -/

/-- The parent of a node. -/
def parent? (f : Forest) (id : Nat) : Option Nat := (f.cells[id]?).bind (·.parent)

/-- The children of a node. -/
def children (f : Forest) (id : Nat) : Array Nat := ((f.cells[id]?).map (·.children)).getD #[]

/-- The tag of an element. -/
def tag? (f : Forest) (id : Nat) : Option Tag :=
  match f.cells[id]? with
  | some ⟨.element tag, _, _⟩ => some tag
  | _ => none

/-- Whether a node is a text. -/
def isText (f : Forest) (id : Nat) : Bool :=
  match f.cells[id]? with
  | some ⟨.text _, _, _⟩ => true
  | _ => false

/-! ### Change -/

/-- Adds a node without parent and children; its number is the second part. -/
def create (f : Forest) (kind : CellKind) : Forest × Nat :=
  (⟨f.cells.push ⟨kind, none, #[]⟩⟩, f.cells.size)

/-- Adds an element; a template gets a fragment for its contents. -/
def createElement (f : Forest) (tag : Tag) : Forest × Nat :=
  let (f, id) := f.create (.element tag)
  if tag.space = .html ∧ tag.name = "template" then
    let (f, contents) := f.create .fragment
    (⟨(f.cells.modify contents fun c => { c with parent := some id }).modify id fun c =>
      { c with children := #[contents] }⟩, id)
  else (f, id)

/-- Takes a node away from its parent. -/
def detach (f : Forest) (id : Nat) : Forest :=
  match f.parent? id with
  | none => f
  | some p =>
    ⟨(f.cells.modify p fun c => { c with children := c.children.filter (· != id) }).modify id
      fun c => { c with parent := none }⟩

/-- Puts a node behind the children of another. -/
def append (f : Forest) (parent id : Nat) : Forest :=
  let f := f.detach id
  ⟨(f.cells.modify parent fun c => { c with children := c.children.push id }).modify id
    fun c => { c with parent := some parent }⟩

/-- Adds to a text node. -/
def extendText (f : Forest) (id : Nat) (s : String) : Forest :=
  ⟨f.cells.modify id fun c =>
    match c with
    | ⟨.text t, p, cs⟩ => ⟨.text (t ++ s), p, cs⟩
    | c => c⟩

/-- Puts text behind the children of a node. -/
def appendText (f : Forest) (parent : Nat) (s : String) : Forest :=
  match (f.children parent).back? with
  | some last =>
    if f.isText last then f.extendText last s
    else
      let (f, id) := f.create (.text s)
      f.append parent id
  | none =>
    let (f, id) := f.create (.text s)
    f.append parent id

/-- Puts a node in front of another one that has a parent. -/
def insertBefore (f : Forest) (sibling id : Nat) : Forest :=
  let f := f.detach id
  match f.parent? sibling with
  | none => f
  | some p =>
    ⟨(f.cells.modify p fun c =>
      { c with
        children := c.children.flatMap fun x => if x = sibling then #[id, x] else #[x] }).modify
        id fun c => { c with parent := some p }⟩

/-- The node in front of another one that has a parent. -/
def previous? (f : Forest) (id : Nat) : Option Nat :=
  (f.parent? id).bind fun p =>
    let cs := f.children p
    (cs.idxOf? id).bind fun i => if i = 0 then none else cs[i - 1]?

/-- Puts text in front of a node that has a parent. -/
def insertTextBefore (f : Forest) (sibling : Nat) (s : String) : Forest :=
  if (f.parent? sibling).isNone then f
  else
    match (f.previous? sibling).filter f.isText with
    | some last => f.extendText last s
    | none =>
      let (f, id) := f.create (.text s)
      f.insertBefore sibling id

/-- Moves the children of a node behind those of another. -/
def moveChildren (f : Forest) (source target : Nat) : Forest :=
  (f.children source).foldl (fun f id => f.append target id) f

/-- Adds the attributes that an element does not have yet. -/
def addAttrs (f : Forest) (id : Nat) (attrs : List Attr) : Forest :=
  ⟨f.cells.modify id fun c =>
    match c with
    | ⟨.element tag, p, cs⟩ =>
      let fresh := attrs.filter fun a =>
        !tag.attrs.any fun b => b.space = a.space && b.name == a.name
      ⟨.element { tag with attrs := tag.attrs ++ fresh }, p, cs⟩
    | c => c⟩

/-! ### The finished tree -/

/-- The tree below a node, at most `depth` levels of it. -/
def toNode (f : Forest) : (depth : Nat) → (id : Nat) → Node
  | 0, _ => .text ""
  | depth + 1, id =>
    match f.cells[id]? with
    | none => .text ""
    | some c =>
      let children := c.children.toList.map (f.toNode depth)
      match c.kind with
      | .document => .fragment children
      | .element tag => .element tag children
      | .text s => .text s
      | .comment s => .comment s
      | .doctype name => .doctype name
      | .fragment => .fragment children

/-- The finished document; no path is longer than there are nodes. -/
def toDocument (f : Forest) : Node := f.toNode (f.cells.size + 1) documentId

end Forest

end PageModules
