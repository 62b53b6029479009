import PageModules.KeyMap
import PageModules.Number.Binary64

/-!
# Tables of settings

A `Toml` is a value of a settings file.  A file is a list of statements, each of which writes an
entry or opens a table, and a table may be written in several places.  `Statement.run?` says which
places may be combined:

* a header opens a table that is new or was only implied by a header of a table inside of it;
* a header between two pairs of brackets adds a table to a list of such tables;
* an entry with a dotted key goes into tables that were made by dotted keys;
* no entry is written twice, and a table written between braces is closed.
-/

namespace PageModules

/-- How a table came about. -/
inductive TableOrigin where
  /-- A header of a table inside of it names it. -/
  | implied
  /-- A dotted key names it. -/
  | dotted
  /-- It has a header of its own. -/
  | written
deriving DecidableEq, Repr

/-- A value of a settings file. -/
inductive Toml where
  /-- A text. -/
  | text (s : String)
  /-- An integer. -/
  | integer (n : Int)
  /-- A floating point number. -/
  | float (x : Binary64)
  /-- A truth value. -/
  | bool (b : Bool)
  /-- A date, a time of day or both. -/
  | dateTime (s : String)
  /-- An array. -/
  | array (items : List Toml)
  /-- A table between braces, which is closed. -/
  | closed (fields : List (String × Toml))
  /-- A table whose entries stand in statements. -/
  | table (origin : TableOrigin) (fields : List (String × Toml))
  /-- The tables under one repeated header; the last one is open. -/
  | rows (earlier : List (List (String × Toml))) (last : List (String × Toml))

namespace Toml

/-- The entries of a table. -/
abbrev Fields := List (String × Toml)

/-! ### Entries -/

/-- Changes the table that a path leads to.  A table that is missing on the way is made, as `made`
says; dotted keys do not lead into tables that have a header, and no path leads through anything
else than tables.  `change` is given the origin and the entries of the table at the end. -/
def reach? (made : TableOrigin) (change : TableOrigin → Fields → Option Fields) :
    List String → TableOrigin → Fields → Option Fields
  | [], origin, fields => change origin fields
  | key :: path, _, fields =>
    match List.lookup key fields with
    | none =>
      (reach? made change path made []).map fun inner =>
        Entries.insert key (table made inner) fields
    | some (table origin inner) =>
      if made = .dotted ∧ origin = .written then none
      else (reach? made change path origin inner).map fun inner' =>
        Entries.insert key (table origin inner') fields
    | some (rows earlier last) =>
      (reach? made change path .written last).map fun last' =>
        Entries.insert key (rows earlier last') fields
    | some _ => none

/-- Writes an entry that is new. -/
def addEntry? (key : String) (v : Toml) (fields : Fields) : Option Fields :=
  match List.lookup key fields with
  | none => some (Entries.insert key v fields)
  | some _ => none

/-- Writes an entry with a dotted key.  Only tables made by dotted keys take it in, unless the key
has no dots. -/
def addDotted? (path : List String) (key : String) (v : Toml) (origin : TableOrigin)
    (fields : Fields) : Option Fields :=
  reach? .dotted (fun found inner =>
    if path.isEmpty ∨ found = .dotted then addEntry? key v inner else none) path origin fields

/-- Opens the table of a header. -/
def openTable? (key : String) (fields : Fields) : Option Fields :=
  match List.lookup key fields with
  | none => some (Entries.insert key (table .written []) fields)
  | some (table .implied inner) => some (Entries.insert key (table .written inner) fields)
  | some _ => none

/-- Adds a table to those of a repeated header. -/
def addRow? (key : String) (fields : Fields) : Option Fields :=
  match List.lookup key fields with
  | none => some (Entries.insert key (rows [] []) fields)
  | some (rows earlier last) => some (Entries.insert key (rows (earlier ++ [last]) []) fields)
  | some _ => none

/-- The table between braces that consists of the given entries. -/
def closedOf? (entries : List (List String × String × Toml)) : Option Toml :=
  (entries.foldlM (fun fields e => addDotted? e.1 e.2.1 e.2.2 .written fields) []).map closed

/-! ### Statements -/

/-- A statement of a settings file.  Keys are given as the path to a table and the name in it. -/
inductive Statement where
  /-- An entry. -/
  | entry (path : List String) (key : String) (v : Toml)
  /-- The header of a table. -/
  | header (path : List String) (key : String)
  /-- The header of one of several tables. -/
  | rowHeader (path : List String) (key : String)

/-- What statements have led to: the entries, and the path of the table that is open. -/
structure Progress where
  /-- The entries of the whole file. -/
  fields : Fields
  /-- The path of the table that entries go into. -/
  here : List String

/-- The effect of a statement. -/
def Statement.run? (p : Progress) : Statement → Option Progress
  | entry path key v =>
    (reach? .implied (addDotted? path key v) p.here .written p.fields).map fun fields =>
      { p with fields }
  | header path key =>
    (reach? .implied (fun _ => openTable? key) path .written p.fields).map fun fields =>
      ⟨fields, path ++ [key]⟩
  | rowHeader path key =>
    (reach? .implied (fun _ => addRow? key) path .written p.fields).map fun fields =>
      ⟨fields, path ++ [key]⟩

/-- The entries that statements write. -/
def ofStatements? (statements : List Statement) : Option Fields :=
  (statements.foldlM Statement.run? ⟨[], []⟩).map (·.fields)

end Toml

end PageModules
