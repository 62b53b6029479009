import PageModules.Component.Extraction
import PageModules.Layout.Shape
import PageModules.Mapping.Detection
import PageModules.Page.Module
import PageModules.Walk.Grouping

/-!
# Plans of pages

A plan says which module is made of which element.  It is a tree whose nodes know where they come
from (`Origin`); the attributes and the identifiers of the modules are added later.

* `Plan.ofBody` reads a body by the shape of its elements: sections of rows of columns.
* `Plan.ofMarked` reads a body by the markers of the author.

The nodes also keep notes on what was seen on the way.
-/

namespace PageModules

/-- A note on what was seen while an element was looked at. -/
inductive Note where
  /-- The way in which the document is read, and whether it was asked for. -/
  | mode (mode : WalkMode) (isForced : Bool)
  /-- Something in a table that does not belong there. -/
  | fostered
  /-- A row. -/
  | row (tag : String)
  /-- A column. -/
  | column (tag : String)
  /-- A pattern that an element may fit, with its score and that times the weight. -/
  | candidate (type : ModuleType) (score weighted : UInt32)
  /-- A row with more columns than there may be, and how many of them join the last one. -/
  | folded (columns : Nat)
  /-- A component that was recognized. -/
  | accepted (type : ModuleType) (confidence : Nat)
  /-- The type that an element suggests. -/
  | mapping (tag : String) (type : Option ModuleType)
deriving DecidableEq, Repr

/-- Where a module comes from. -/
inductive Origin where
  /-- An element of a known type. -/
  | typed (e : Element) (type : ModuleType)
  /-- A child of an element whose type has children of a type of their own. -/
  | item (e : Element) (type : ModuleType)
  /-- An element that was recognized as a component. -/
  | recognized (e : Element) (r : Recognition)
  /-- An item of a component. -/
  | componentItem (item : ComponentItem)
  /-- An element that is text. -/
  | text (e : Element)
  /-- The text of a column itself. -/
  | ownText (e : Element)
  /-- An element without anything to show. -/
  | dropped
  /-- An element that looks like a section. -/
  | shapedSection (e : Element)
  /-- A section around an element that is none. -/
  | looseSection
  /-- An element that looks like a row. -/
  | shapedRow (e : Element)
  /-- A row around loose elements. -/
  | looseRow
  /-- An element that looks like a column. -/
  | shapedColumn (e : Element)
  /-- A column around loose elements. -/
  | looseColumn
  /-- An element of no type around others. -/
  | wrapper (e : Element)

/-- A plan: where a module comes from, and the plans of the modules inside. -/
inductive Plan where
  /-- A node with the notes that were taken before its children. -/
  | node (notes : List Note) (origin : Origin) (children : List Plan)

namespace Plan

/-! ### Notes -/

/-- The patterns that an element may fit. -/
def candidateNotes (e : Element) : List Note :=
  (ComponentPattern.candidates e).map fun c => .candidate c.1.type c.2 (c.1.weigh c.2)

/-- The notes on the recognition of an element; a marked one is not looked at. -/
def recognitionNotes (e : Element) : List Note :=
  if e.marker?.isSome then [] else candidateNotes e

/-- The note on the type that an element suggests. -/
def mappingNote (e : Element) : Note := .mapping e.tagName e.likelyType?

/-- The notes on the columns of a row. -/
def columnNotes (e : Element) : List Note :=
  (e.contentChildren.filter (·.isColumnLike)).map fun c => .column c.tagName

/-- Groups with the notes on the rows among them.  A row is noted before the loose elements in front
of it are looked at. -/
def noteRows : List (Run Element) → List (List Note × Run Element)
  | [] => []
  | .loose es :: .single e :: rest =>
    ([.row e.tagName], .loose es) :: ([], .single e) :: noteRows rest
  | .single e :: rest => ([.row e.tagName], .single e) :: noteRows rest
  | .loose es :: rest => ([], .loose es) :: noteRows rest

theorem mem_of_mem_noteRows {p : List Note × Run Element} {groups : List (Run Element)}
    (h : p ∈ noteRows groups) : p.2 ∈ groups := by
  induction groups using noteRows.induct with
  | case1 => simp [noteRows] at h
  | case2 es e rest ih =>
    simp only [noteRows, List.mem_cons] at h ⊢
    rcases h with h | h | h
    · simp [h]
    · simp [h]
    · exact Or.inr (Or.inr (ih h))
  | case3 e rest ih =>
    simp only [noteRows, List.mem_cons] at h ⊢
    rcases h with h | h
    · simp [h]
    · exact Or.inr (ih h)
  | case4 es rest hne ih =>
    rw [noteRows] at h
    · simp only [List.mem_cons] at h ⊢
      rcases h with h | h
      · simp [h]
      · exact Or.inr (ih h)
    · exact hne

/-! ### Parts -/

/-- A column around plans. -/
def looseColumn (notes : List Note) (contents : List Plan) : Plan :=
  node notes .looseColumn contents

/-- A row with one column around plans. -/
def looseRow (notes : List Note) (contents : List Plan) : Plan :=
  node notes .looseRow [looseColumn [] contents]

/-- The recognition of an element as a component, if it is sure enough and no marker says otherwise.
-/
def accepted? (threshold : Nat) (e : Element) : Option Recognition :=
  if e.marker?.isSome then none else e.recognize?.filter fun r => threshold < r.confidence

/-- A component with its items. -/
def ofRecognition (e : Element) (r : Recognition) : Plan :=
  node (recognitionNotes e ++ [.accepted r.type r.confidence]) (.recognized e r)
    (r.component.items.map fun i => node [] (.componentItem i) [])

/-- Whether a child may be an item of the given type: its marker names the type or is missing. -/
def isLinked (type : ModuleType) (c : Element) : Bool :=
  c.marker?.all fun m => Text.sameIgnoringCase m type.slug

/-- The children of an element that are items of the given type. -/
def linkedChildren (e : Element) (type : ModuleType) : List Plan :=
  (e.contentChildren.filter (isLinked type)).map fun c => node [] (.item c type) []

/-! ### Sections, rows and columns -/

mutual

/-- The plan of an element in a column: of its marked type, as a component, of the type that it
suggests, or as text. -/
def ofContent (threshold : Nat) (e : Element) : Plan :=
  match e.markedType? with
  | some type => ofTyped threshold [] e type
  | none =>
    match accepted? threshold e with
    | some r => ofRecognition e r
    | none =>
      let notes := recognitionNotes e ++ [mappingNote e]
      match e.likelyType? with
      | some type => ofTyped threshold notes e type
      | none => if e.text.isEmpty then node notes .dropped [] else node notes (.text e) []
termination_by (e.size, 5)

/-- The plan of an element of a known type. -/
def ofTyped (threshold : Nat) (notes : List Note) (e : Element) (type : ModuleType) : Plan :=
  node (notes ++ if type = .row then columnNotes e else []) (.typed e type)
    (typedChildren threshold e type)
termination_by (e.size, 3)

/-- The plans inside of an element of a known type. -/
def typedChildren (threshold : Nat) (e : Element) (type : ModuleType) : List Plan :=
  match type.child? with
  | some child => linkedChildren e child
  | none =>
    match type with
    | .pageSection => rows threshold e.contentChildren
    | .row => columns threshold e
    | .column => columnContent threshold e
    | _ => []
termination_by (e.size, 2)
decreasing_by
  · exact .left _ _ (Element.sizeSum_contentChildren_lt e)
  · exact .right _ (by decide)
  · exact .right _ (by decide)

/-- The plans of the rows that elements are divided into; there is always one. -/
def rows (threshold : Nat) (es : List Element) : List Plan :=
  let groups := noteRows (Run.runs (·.isRowLike) es)
  if groups.isEmpty then [looseRow [] []]
  else groups.attach.map fun ⟨p, _⟩ => ofRowGroup threshold p.1 p.2
termination_by (Element.sizeSum es, 8)
decreasing_by
  rename_i h
  have := Element.sizeSum_le_of_mem_runs (mem_of_mem_noteRows h)
  rcases Nat.lt_or_eq_of_le this with h | h
  · exact .left _ _ h
  · rw [h]; exact .right _ (by decide)

/-- The plan of a row, or of loose elements between rows. -/
def ofRowGroup (threshold : Nat) (notes : List Note) (g : Run Element) : Plan :=
  match g with
  | .single e => ofRow threshold notes e
  | .loose es => looseRow notes (es.attach.map fun ⟨e, _⟩ => ofContent threshold e)
termination_by (Element.sizeSum g.members, 7)
decreasing_by
  · simp only [Run.members, Element.sizeSum, Nat.add_zero]
    exact .right _ (by decide)
  · rename_i h
    rcases Nat.lt_or_eq_of_le (Element.size_le_sizeSum h) with h | h
    · exact .left _ _ h
    · simp only [Run.members, ← h]; exact .right _ (by decide)

/-- The plan of an element that looks like a row. -/
def ofRow (threshold : Nat) (notes : List Note) (e : Element) : Plan :=
  match e.markedType? with
  | some type => ofTyped threshold notes e type
  | none => node (notes ++ columnNotes e) (.shapedRow e) (columns threshold e)
termination_by (e.size, 4)

/-- The plans of the columns of a row: at least one, and at most twelve.  What stands in further
columns joins the last one. -/
def columns (threshold : Nat) (e : Element) : List Plan :=
  let groups := Run.runs (·.isColumnLike) e.contentChildren
  if groups.isEmpty then [looseColumn [] []]
  else if groups.length ≤ Layout.maxColumns then
    groups.attach.map fun ⟨g, _⟩ => ofColumnGroup threshold g
  else
    (groups.attach.take (Layout.maxColumns - 1)).map (fun ⟨g, _⟩ => ofColumnGroup threshold g) ++
      [looseColumn [.folded (groups.length - (Layout.maxColumns - 1))]
        ((groups.attach.drop (Layout.maxColumns - 1)).flatMap fun ⟨g, _⟩ =>
          groupContent threshold g)]
termination_by (e.size, 1)
decreasing_by
  all_goals
    rename_i h
    exact .left _ _ (Nat.lt_of_le_of_lt (Element.sizeSum_le_of_mem_runs h)
      (Element.sizeSum_contentChildren_lt e))

/-- The plan of a column, or of loose elements between columns. -/
def ofColumnGroup (threshold : Nat) (g : Run Element) : Plan :=
  match g with
  | .single e => ofColumn threshold e
  | .loose es => looseColumn [] (es.attach.map fun ⟨e, _⟩ => ofContent threshold e)
termination_by (Element.sizeSum g.members, 7)
decreasing_by
  · simp only [Run.members, Element.sizeSum, Nat.add_zero]
    exact .right _ (by decide)
  · rename_i h
    rcases Nat.lt_or_eq_of_le (Element.size_le_sizeSum h) with h | h
    · exact .left _ _ h
    · simp only [Run.members, ← h]; exact .right _ (by decide)

/-- The plans inside of a column, or of loose elements between columns. -/
def groupContent (threshold : Nat) (g : Run Element) : List Plan :=
  match g with
  | .single e => columnContent threshold e
  | .loose es => es.attach.map fun ⟨e, _⟩ => ofContent threshold e
termination_by (Element.sizeSum g.members, 7)
decreasing_by
  · simp only [Run.members, Element.sizeSum, Nat.add_zero]
    exact .right _ (by decide)
  · rename_i h
    rcases Nat.lt_or_eq_of_le (Element.size_le_sizeSum h) with h | h
    · exact .left _ _ h
    · simp only [Run.members, ← h]; exact .right _ (by decide)

/-- The plan of an element that looks like a column. -/
def ofColumn (threshold : Nat) (e : Element) : Plan :=
  match e.markedType? with
  | some type => ofTyped threshold [] e type
  | none => node [] (.shapedColumn e) (columnContent threshold e)
termination_by (e.size, 4)

/-- The plans inside of a column: those of its children, or its own text where there are none. -/
def columnContent (threshold : Nat) (e : Element) : List Plan :=
  if e.contentChildren.isEmpty then
    if e.hasSignificantContent then [node [] (.ownText e) []] else []
  else e.contentChildren.attach.map fun ⟨c, _⟩ => ofContent threshold c
termination_by (e.size, 1)
decreasing_by
  rename_i h
  exact .left _ _ (Element.size_lt_of_mem_contentChildren h)

end

/-- The plan of an element in the body: a section, or a section around it. -/
def ofTopLevel (threshold : Nat) (e : Element) : Plan :=
  if e.isSectionLike then node [] (.shapedSection e) (rows threshold e.contentChildren)
  else node [] .looseSection (rows threshold [e])

/-- The plans of a body by the shape of its elements. -/
def ofBody (threshold : Nat) (body : Element) : List Plan :=
  body.contentChildren.map (ofTopLevel threshold)

/-! ### Marked documents -/

/-- The plan of an element by its marker or by the type that it suggests; other elements only stand
around theirs. -/
def ofMarked (threshold : Nat) (e : Element) : Plan :=
  let notes := if e.markedType?.isSome then [] else [mappingNote e]
  match e.type? with
  | some type => ofTyped threshold notes e type
  | none =>
    node notes (.wrapper e) (e.contentChildren.attach.map fun ⟨c, _⟩ => ofMarked threshold c)
termination_by e.size
decreasing_by
  rename_i h
  exact Element.size_lt_of_mem_contentChildren h

/-- The plans of a body by its markers. -/
def ofMarkedBody (threshold : Nat) (body : Element) : List Plan :=
  body.contentChildren.map (ofMarked threshold)

/-! ### Notes of a plan -/

mutual

/-- The notes of a plan in the order in which they were taken. -/
def notes : Plan → List Note
  | node own _ children => own ++ notesAll children

/-- The notes of several plans. -/
def notesAll : List Plan → List Note
  | [] => []
  | p :: rest => notes p ++ notesAll rest

end

end Plan

end PageModules
