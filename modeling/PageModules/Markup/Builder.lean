import PageModules.Markup.Forest
import PageModules.Markup.Token

/-!
# The state of tree construction

While tokens are read, a `Builder` holds the forest of nodes, the stack of open elements (innermost
first), the list of formatting elements (latest first), the insertion mode and a few flags of the
HTML standard.  This module has the operations that the rules of the insertion modes are made of;
the largest is `adopt`, which repairs formatting elements that are closed out of order.
-/

namespace PageModules

/-- The insertion modes of tree construction. -/
inductive InsertionMode where
  /-- In front of the document type. -/
  | initial
  /-- In front of the `html` element. -/
  | beforeHtml
  /-- In front of the `head` element. -/
  | beforeHead
  /-- In the `head` element. -/
  | inHead
  /-- Behind the `head` element. -/
  | afterHead
  /-- In the body. -/
  | inBody
  /-- In an element that holds text only. -/
  | text
  /-- In a table. -/
  | inTable
  /-- In text that stands in a table. -/
  | inTableText
  /-- In the caption of a table. -/
  | inCaption
  /-- In a group of columns. -/
  | inColumnGroup
  /-- In a group of rows. -/
  | inTableBody
  /-- In a row of a table. -/
  | inRow
  /-- In a cell of a table. -/
  | inCell
  /-- In a choice. -/
  | inSelect
  /-- In a choice inside of a table. -/
  | inSelectInTable
  /-- In a template. -/
  | inTemplate
  /-- Behind the body. -/
  | afterBody
  /-- In a set of frames. -/
  | inFrameset
  /-- Behind a set of frames. -/
  | afterFrameset
  /-- Behind the `html` element. -/
  | afterAfterBody
  /-- Behind the `html` element of a set of frames. -/
  | afterAfterFrameset
deriving DecidableEq, Repr, Inhabited

/-- An entry of the list of formatting elements. -/
inductive Formatting where
  /-- A mark that look-ups do not go beyond. -/
  | marker
  /-- An element with the tag that made it. -/
  | element (id : Nat) (name : String) (attrs : List (String × String))
deriving DecidableEq, Inhabited

/-- The state of tree construction. -/
structure Builder where
  /-- The nodes. -/
  forest : Forest
  /-- The open elements, the innermost first. -/
  opened : List Nat
  /-- The formatting elements, the latest first. -/
  formatting : List Formatting
  /-- The insertion mode. -/
  mode : InsertionMode
  /-- The insertion mode to return to. -/
  returnMode : InsertionMode
  /-- The insertion modes of the open templates, the innermost first. -/
  templateModes : List InsertionMode
  /-- The `head` element. -/
  head : Option Nat
  /-- The open form. -/
  form : Option Nat
  /-- Whether a set of frames may still replace the body. -/
  framesetOk : Bool
  /-- Whether the document is read with quirks. -/
  quirks : Bool
  /-- Whether what does not belong in a table is put in front of it. -/
  fostering : Bool
  /-- How many tokens did not belong in the table where they stood. -/
  fostered : Nat
  /-- The text read in a table, the latest piece first. -/
  tableText : List (List Char)
  /-- Whether a line feed in front of the next text is dropped. -/
  dropLineFeed : Bool
  /-- The tag of the element that a fragment is read in. -/
  context : Option Tag
  /-- What the next characters are. -/
  content : Content

namespace Builder

/-- The state at the start of a document. -/
def start : Builder where
  forest := .empty
  opened := []
  formatting := []
  mode := .initial
  returnMode := .initial
  templateModes := []
  head := none
  form := none
  framesetOk := true
  quirks := false
  fostering := false
  fostered := 0
  tableText := []
  dropLineFeed := false
  context := none
  content := .data

/-! ### Sets of elements -/

/-- Elements that end the search for an open element. -/
def isDefaultScope (t : Tag) : Bool :=
  match t.space with
  | .html => ["applet", "caption", "html", "table", "td", "th", "marquee", "object",
      "template"].contains t.name
  | .mathml => ["mi", "mo", "mn", "ms", "mtext"].contains t.name
  | .svg => ["foreignObject", "desc", "title"].contains t.name

/-- Elements that end the search for an open list item. -/
def isListScope (t : Tag) : Bool :=
  isDefaultScope t || (t.space = .html && ["ol", "ul"].contains t.name)

/-- Elements that end the search for an open paragraph. -/
def isButtonScope (t : Tag) : Bool := isDefaultScope t || (t.space = .html && t.name == "button")

/-- Whether an element is an HTML element with one of the given names. -/
def isHtml (names : List String) (t : Tag) : Bool := t.space = .html && names.contains t.name

/-- Elements that end the search for an open part of a table. -/
def isTableScope : Tag → Bool := isHtml ["html", "table", "template"]

/-- Elements that end the search for an open choice: all but its parts. -/
def isSelectScope (t : Tag) : Bool := !isHtml ["optgroup", "option"] t

/-- Elements whose end tag may be missing. -/
def isImpliedEnd : Tag → Bool :=
  isHtml ["dd", "dt", "li", "option", "optgroup", "p", "rb", "rp", "rt", "rtc"]

/-- Elements that are closed at the end of a template. -/
def isThoroughlyImpliedEnd (t : Tag) : Bool :=
  isImpliedEnd t ||
    isHtml ["caption", "colgroup", "tbody", "td", "tfoot", "th", "thead", "tr"] t

/-- Headings. -/
def isHeading : Tag → Bool := isHtml ["h1", "h2", "h3", "h4", "h5", "h6"]

/-- The names of the elements with rules of their own. -/
def specialNames : List String :=
  ["address", "applet", "area", "article", "aside", "base", "basefont", "bgsound", "blockquote",
    "body", "br", "button", "caption", "center", "col", "colgroup", "dd", "details", "dir", "div",
    "dl", "dt", "embed", "fieldset", "figcaption", "figure", "footer", "form", "frame",
    "frameset", "h1", "h2", "h3", "h4", "h5", "h6", "head", "header", "hgroup", "hr", "html",
    "iframe", "img", "input", "isindex", "li", "link", "listing", "main", "marquee", "menu",
    "meta", "nav", "noembed", "noframes", "noscript", "object", "ol", "p", "param", "plaintext",
    "pre", "script", "section", "select", "source", "style", "summary", "table", "tbody", "td",
    "template", "textarea", "tfoot", "th", "thead", "title", "tr", "track", "ul", "wbr", "xmp"]

/-- Elements with rules of their own. -/
def isSpecial : Tag → Bool := isHtml specialNames

/-- MathML elements whose text is HTML. -/
def isMathText (t : Tag) : Bool :=
  t.space = .mathml && ["mi", "mo", "mn", "ms", "mtext"].contains t.name

/-- SVG elements whose contents are HTML. -/
def isSvgHtml (t : Tag) : Bool :=
  t.space = .svg && ["foreignObject", "desc", "title"].contains t.name

/-! ### The stack of open elements -/

/-- The tag of a node; of one that is no element, an HTML tag without a name. -/
def tagOf (b : Builder) (id : Nat) : Tag := (b.forest.tag? id).getD ⟨.html, "", []⟩

/-- The innermost open element. -/
def current? (b : Builder) : Option Nat := b.opened.head?

/-- The tag of the innermost open element. -/
def currentTag (b : Builder) : Tag := (b.current?.map b.tagOf).getD ⟨.html, "", []⟩

/-- Whether the innermost open element is an HTML element with one of the given names. -/
def currentIs (b : Builder) (names : List String) : Bool := isHtml names b.currentTag

/-- The `html` element. -/
def root (b : Builder) : Nat := b.opened.getLast?.getD Forest.documentId

/-- The open element below the root, if it is the body. -/
def body? (b : Builder) : Option Nat :=
  (b.opened.reverse[1]?).filter fun id => isHtml ["body"] (b.tagOf id)

/-- Whether an element with one of the given names is open. -/
def hasOpen (b : Builder) (name : String) : Bool :=
  b.opened.any fun id => isHtml [name] (b.tagOf id)

/-- Whether an open element that fits is found before one that ends the search. -/
def inScope (b : Builder) (stop : Tag → Bool) (fits : Nat → Bool) : Bool :=
  go b.opened
where
  /-- The search from an element outwards. -/
  go : List Nat → Bool
    | [] => false
    | id :: rest => fits id || (!stop (b.tagOf id) && go rest)

/-- Whether an open HTML element of a name is found before one that ends the search. -/
def inScopeNamed (b : Builder) (stop : Tag → Bool) (name : String) : Bool :=
  b.inScope stop fun id => isHtml [name] (b.tagOf id)

/-- Opens an element. -/
def push (b : Builder) (id : Nat) : Builder := { b with opened := id :: b.opened }

/-- Closes the innermost element. -/
def pop (b : Builder) : Builder := { b with opened := b.opened.drop 1 }

/-- Closes elements up to and including the first that fits. -/
def popUntil (b : Builder) (fits : Tag → Bool) : Builder :=
  { b with opened := (b.opened.dropWhile fun id => !fits (b.tagOf id)).drop 1 }

/-- Closes elements up to and including the first HTML element of a name. -/
def popUntilNamed (b : Builder) (name : String) : Builder := b.popUntil (isHtml [name])

/-- Closes elements in front of the first that fits. -/
def popTo (b : Builder) (fits : Tag → Bool) : Builder :=
  { b with opened := b.opened.dropWhile fun id => !fits (b.tagOf id) }

/-- Closes the innermost elements whose end tags are implied. -/
def impliedEnds (b : Builder) (implied : Tag → Bool) : Builder :=
  { b with opened := b.opened.dropWhile fun id => implied (b.tagOf id) }

/-- Closes the innermost elements whose end tags are implied, but none of the given name. -/
def impliedEndsExcept (b : Builder) (name : String) : Builder :=
  b.impliedEnds fun t => isImpliedEnd t && !isHtml [name] t

/-- Takes an element out of the stack. -/
def removeOpen (b : Builder) (id : Nat) : Builder :=
  { b with opened := b.opened.filter (· != id) }

/-- Closes a paragraph. -/
def closeParagraph (b : Builder) : Builder := (b.impliedEndsExcept "p").popUntilNamed "p"

/-- Closes a paragraph if one is open. -/
def closeOpenParagraph (b : Builder) : Builder :=
  if b.inScopeNamed isButtonScope "p" then b.closeParagraph else b

/-! ### Insertion -/

/-- A place for a new node. -/
inductive InsertionPlace where
  /-- Behind the children of a node. -/
  | lastChild (parent : Nat)
  /-- In front of a table that has a parent, or else behind the children of a node. -/
  | beforeTable (table fallback : Nat)

/-- The place outside of the innermost table or template. -/
def fosterPlace (b : Builder) : List Nat → InsertionPlace
  | [] => .lastChild b.root
  | id :: rest =>
    if isHtml ["template"] (b.tagOf id) then
      .lastChild ((b.forest.children id)[0]?.getD id)
    else if isHtml ["table"] (b.tagOf id) then .beforeTable id (rest.head?.getD id)
    else b.fosterPlace rest

/-- The place for a node that belongs in the given element. -/
def placeIn (b : Builder) (target : Nat) : InsertionPlace :=
  let t := b.tagOf target
  if b.fostering && isHtml ["table", "tbody", "tfoot", "thead", "tr"] t then
    b.fosterPlace b.opened
  else if isHtml ["template"] t then .lastChild ((b.forest.children target)[0]?.getD target)
  else .lastChild target

/-- The place for a new node. -/
def place (b : Builder) : InsertionPlace :=
  b.placeIn (b.current?.getD Forest.documentId)

/-- Puts a node at a place. -/
def putAt (b : Builder) (p : InsertionPlace) (id : Nat) : Builder :=
  match p with
  | .lastChild parent => { b with forest := b.forest.append parent id }
  | .beforeTable table fallback =>
    if (b.forest.parent? table).isSome then { b with forest := b.forest.insertBefore table id }
    else { b with forest := b.forest.append fallback id }

/-- Puts text at the place for a new node. -/
def putText (b : Builder) (s : List Char) : Builder :=
  if s.isEmpty then b
  else
    let text := String.ofList s
    match b.place with
    | .lastChild parent => { b with forest := b.forest.appendText parent text }
    | .beforeTable table fallback =>
      if (b.forest.parent? table).isSome then
        { b with forest := b.forest.insertTextBefore table text }
      else { b with forest := b.forest.appendText fallback text }

/-- Adds a node that is no element behind the children of another. -/
def putKind (b : Builder) (parent : Nat) (kind : CellKind) : Builder :=
  let (forest, id) := b.forest.create kind
  { b with forest := forest.append parent id }

/-- Puts a comment at the place for a new node. -/
def putComment (b : Builder) (s : String) : Builder :=
  let (forest, id) := b.forest.create (.comment s)
  { b with forest := forest }.putAt b.place id

/-- Attributes without a vocabulary. -/
def plainAttrs (attrs : List (String × String)) : List Attr :=
  attrs.map fun a => ⟨.none, a.1, a.2⟩

/-- Creates an element. -/
def create (b : Builder) (tag : Tag) : Builder × Nat :=
  let (forest, id) := b.forest.createElement tag
  ({ b with forest := forest }, id)

/-- Puts a new element at its place without opening it; its number is the second part. -/
def insertClosed (b : Builder) (tag : Tag) : Builder × Nat :=
  let (b, id) := b.create tag
  (b.putAt b.place id, id)

/-- Puts a new element at its place and opens it; its number is the second part. -/
def insertOpen (b : Builder) (tag : Tag) : Builder × Nat :=
  let (b, id) := b.insertClosed tag
  (b.push id, id)

/-- Puts a new HTML element at its place and opens it. -/
def insert (b : Builder) (name : String) (attrs : List (String × String)) : Builder :=
  (b.insertOpen ⟨.html, name, plainAttrs attrs⟩).1

/-- Puts a new HTML element without contents at its place. -/
def insertVoid (b : Builder) (name : String) (attrs : List (String × String)) : Builder :=
  (b.insertClosed ⟨.html, name, plainAttrs attrs⟩).1

/-- Puts the `html` element into the document. -/
def createRoot (b : Builder) (attrs : List (String × String)) : Builder :=
  let (b, id) := b.create ⟨.html, "html", plainAttrs attrs⟩
  { b with forest := b.forest.append Forest.documentId id }.push id

/-- Puts an element that holds text only at its place and reads its text. -/
def insertText (b : Builder) (name : String) (attrs : List (String × String))
    (content : Content) : Builder :=
  let b := b.insert name attrs
  { b with returnMode := b.mode, mode := .text, content := content }

/-! ### Formatting elements -/

/-- The part of the list before the first marker, with the positions. -/
def formattingToMarker (b : Builder) : List (Nat × Formatting) :=
  (b.formatting.zipIdx.takeWhile fun p => p.1 != .marker).map fun p => (p.2, p.1)

/-- Whether an entry is the given element. -/
def isFormattingOf (id : Nat) : Formatting → Bool
  | .element i _ _ => i = id
  | .marker => false

/-- The position of an element in the list. -/
def formattingIndex? (b : Builder) (id : Nat) : Option Nat :=
  b.formatting.findIdx? (isFormattingOf id)

/-- Removes an element from the list. -/
def removeFormatting (b : Builder) (id : Nat) : Builder :=
  { b with formatting := b.formatting.eraseP (isFormattingOf id) }

/-- Removes the entries up to and including the first marker. -/
def clearFormatting (b : Builder) : Builder :=
  { b with formatting := (b.formatting.dropWhile (· != .marker)).drop 1 }

/-- Puts a marker into the list. -/
def markFormatting (b : Builder) : Builder := { b with formatting := .marker :: b.formatting }

/-- Whether two lists of attributes have the same members. -/
def sameAttrs (a b : List (String × String)) : Bool :=
  a.length = b.length && a.all b.contains

/-- Puts a new formatting element at its place and into the list, where at most three like it may
stand. -/
def insertFormatting (b : Builder) (name : String) (attrs : List (String × String)) : Builder :=
  let alike := (b.formattingToMarker).filter fun p =>
    match p.2 with
    | .element _ n as => n == name && sameAttrs as attrs
    | .marker => false
  let b := match alike.getLast? with
    | some (i, _) =>
      if 3 ≤ alike.length then { b with formatting := b.formatting.eraseIdx i } else b
    | none => b
  let (b, id) := b.insertOpen ⟨.html, name, plainAttrs attrs⟩
  { b with formatting := .element id name attrs :: b.formatting }

/-- Whether an entry is a marker or an open element. -/
def isSettled (b : Builder) : Formatting → Bool
  | .marker => true
  | .element id _ _ => b.opened.contains id

/-- Opens again, the earliest first, the given formatting elements, which stand in front of `done`
in the list. -/
def reopen (b : Builder) (done : List Formatting) : List Formatting → Builder
  | [] => { b with formatting := done }
  | .element _ name attrs :: rest =>
    let (b, id) := b.insertOpen ⟨.html, name, plainAttrs attrs⟩
    b.reopen (.element id name attrs :: done) rest
  | .marker :: rest => b.reopen (.marker :: done) rest

/-- Opens again the formatting elements that were closed by the end of another element. -/
def reconstruct (b : Builder) : Builder :=
  let closed := b.formatting.takeWhile fun e => !b.isSettled e
  if closed.isEmpty then b
  else b.reopen (b.formatting.drop closed.length) closed.reverse

/-! ### Formatting elements closed out of order -/

/-- Closes an element by an end tag without a rule of its own. -/
def closeAny (b : Builder) (name : String) : Builder :=
  match go b.opened with
  | none => b
  | some below =>
    let b := b.impliedEndsExcept name
    { b with opened := b.opened.drop (b.opened.length - below) }
where
  /-- The number of open elements outside of the one that the tag closes. -/
  go : List Nat → Option Nat
    | [] => none
    | id :: rest =>
      if isHtml [name] (b.tagOf id) then some rest.length
      else if isSpecial (b.tagOf id) then none
      else go rest

/-- The state of the inner loop of `adopt`. -/
structure Adoption where
  /-- The builder. -/
  builder : Builder
  /-- The node that was moved last. -/
  last : Nat
  /-- The formatting element behind which the new one goes; none for the place of the old one. -/
  bookmark : Option Nat

/-- Walks from the furthest block outwards to the formatting element.  `between` are the open
elements between the two, the innermost first; `round` counts them. -/
def adoptBetween (block : Nat) (a : Adoption) (round : Nat) : List Nat → Adoption
  | [] => a
  | node :: rest =>
    let b := a.builder
    match (b.formattingIndex? node).bind fun i => b.formatting[i]? with
    | some (.element _ name attrs) =>
      if 3 < round then
        adoptBetween block { a with builder := (b.removeFormatting node).removeOpen node }
          (round + 1) rest
      else
        let (b, fresh) := b.create ⟨.html, name, plainAttrs attrs⟩
        let b := { b with
          opened := b.opened.map fun id => if id = node then fresh else id
          formatting := b.formatting.map fun e =>
            if isFormattingOf node e then .element fresh name attrs else e
          forest := b.forest.append fresh a.last }
        let bookmark := if a.last = block then some fresh else a.bookmark
        adoptBetween block ⟨b, fresh, bookmark⟩ (round + 1) rest
    | _ => adoptBetween block { a with builder := b.removeOpen node } (round + 1) rest

/-- Puts an entry behind, that is after, the entry of an element. -/
def insertAfterFormatting (target : Nat) (entry : Formatting) : List Formatting → List Formatting
  | [] => []
  | e :: rest =>
    if isFormattingOf target e then entry :: e :: rest
    else e :: insertAfterFormatting target entry rest

/-- Closes a formatting element of the given name that may not be the innermost one: what was
opened after it is split so that the tree stays nested.  One round; none when there is nothing more
to do. -/
def adoptOnce (b : Builder) (name : String) : Builder × Bool :=
  let entry := (b.formattingToMarker).findSome? fun p =>
    match p.2 with
    | .element id n attrs => if n == name then some (id, attrs) else none
    | .marker => none
  match entry with
  | none => (b.closeAny name, false)
  | some (element, attrs) =>
    if !b.opened.contains element then (b.removeFormatting element, false)
    else if !b.inScope isDefaultScope (· = element) then (b, false)
    else
      -- The open elements inside of the formatting element, the outermost first.
      let inside := (b.opened.takeWhile (· != element)).reverse
      match inside.findIdx? fun id => isSpecial (b.tagOf id) with
      | none =>
        ({ b with opened := (b.opened.dropWhile (· != element)).drop 1 }.removeFormatting element,
          false)
      | some i =>
        let block := inside.getD i element
        let ancestor := ((b.opened.dropWhile (· != element)).drop 1).headD Forest.documentId
        let a := adoptBetween block ⟨b, block, none⟩ 1 ((inside.take i).reverse)
        let b := a.builder
        let b := { b with forest := b.forest.detach a.last }
        let b := b.putAt (b.placeIn ancestor) a.last
        let (b, fresh) := b.create ⟨.html, name, plainAttrs attrs⟩
        let b := { b with forest := (b.forest.moveChildren block fresh).append block fresh }
        let new := Formatting.element fresh name attrs
        let formatting := match a.bookmark with
          | none => b.formatting.map fun e => if isFormattingOf element e then new else e
          | some target =>
            (insertAfterFormatting target new b.formatting).eraseP (isFormattingOf element)
        let opened := (b.opened.filter (· != element)).flatMap fun id =>
          if id = block then [fresh, block] else [id]
        ({ b with formatting := formatting, opened := opened }, true)

/-- At most the given number of rounds of `adoptOnce`. -/
def adoptRounds (b : Builder) (name : String) : (rounds : Nat) → Builder
  | 0 => b
  | rounds + 1 =>
    match b.adoptOnce name with
    | (b, true) => b.adoptRounds name rounds
    | (b, false) => b

/-- Closes a formatting element of the given name. -/
def adopt (b : Builder) (name : String) : Builder :=
  if b.currentIs [name] && b.current?.all (fun id => (b.formattingIndex? id).isNone) then b.pop
  else b.adoptRounds name 8

/-! ### The insertion mode -/

/-- The mode for the contents of a choice with the given elements around it. -/
def selectMode (b : Builder) : List Nat → InsertionMode
  | [] => .inSelect
  | id :: rest =>
    if isHtml ["template"] (b.tagOf id) then .inSelect
    else if isHtml ["table"] (b.tagOf id) then .inSelectInTable
    else b.selectMode rest

/-- The insertion mode that the given open elements ask for. -/
def modeFor (b : Builder) : List Nat → InsertionMode
  | [] => .inBody
  | id :: rest =>
    let isLast := rest.isEmpty
    let t := match isLast, b.context with
      | true, some t => t
      | _, _ => b.tagOf id
    if t.space ≠ .html then b.modeFor rest
    else match t.name with
      | "select" => b.selectMode rest
      | "td" => if isLast then b.modeFor rest else .inCell
      | "th" => if isLast then b.modeFor rest else .inCell
      | "tr" => .inRow
      | "tbody" => .inTableBody
      | "thead" => .inTableBody
      | "tfoot" => .inTableBody
      | "caption" => .inCaption
      | "colgroup" => .inColumnGroup
      | "table" => .inTable
      | "template" => b.templateModes.headD .inBody
      | "head" => if isLast then b.modeFor rest else .inHead
      | "body" => .inBody
      | "frameset" => .inFrameset
      | "html" => if b.head.isNone then .beforeHead else .afterHead
      | _ => b.modeFor rest

/-- The insertion mode that the open elements ask for. -/
def properMode (b : Builder) : InsertionMode := b.modeFor b.opened

end Builder

end PageModules
