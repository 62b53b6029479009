import PageModules.Json.Value
import PageModules.Page.Module

/-!
# Pages as JSON data

`Outcome.toJson` writes an outcome with its fields in a fixed order, `Outcome.ofJson?` reads one.

A record is read from an object, whose other fields are ignored, or from a list of its fields in
order. A name of a choice is read from a text, or from an object with the name as its only field and
no value.
-/

namespace PageModules

namespace Json

/-! ### Records -/

/-- The fields of a record with the given names; none if the value is no record.  A list may leave
out fields at its end, but must not have more. -/
def recordFields? (names : List String) (v : Json) : Option (List (Option Json)) :=
  match v with
  | object fields => some (names.map fun name => List.lookup name fields)
  | array items =>
    if items.length ≤ names.length then
      some ((items.map some) ++ List.replicate (names.length - items.length) none)
    else none
  | _ => none

/-- The name that a choice is written as. -/
def choiceName? : Json → Option String
  | text s => some s
  | object [(name, null)] => some name
  | _ => none

/-- The truth value of a value. -/
def bool? : Json → Option Bool
  | bool b => some b
  | _ => none

/-- The natural number of a value. -/
def nat? : Json → Option Nat
  | integer n => if 0 ≤ n then some n.toNat else none
  | _ => none

/-- The attributes that an object holds. -/
def attributes? : Json → Option Attributes
  | object fields => some (.ofList fields)
  | _ => none

end Json

namespace PageModule

/-! ### Writing -/

mutual

/-- A module as data; a module without others inside has no list of them. -/
def toJson : PageModule → Json
  | ⟨id, type, attrs, children⟩ =>
    .object ([("id", .text id), ("type", .text type.slug), ("attrs", .ofAttributes attrs)] ++
      if children.isEmpty then [] else [("children", .array (toJsonAll children))])

/-- Several modules as data. -/
def toJsonAll : List PageModule → List Json
  | [] => []
  | m :: rest => toJson m :: toJsonAll rest

end

/-! ### Reading -/

/-- The names of the fields of a module. -/
def fieldNames : List String := ["id", "type", "attrs", "children"]

/-- The modules in a list of data, each of which `read?` reads. -/
def readList? (read? : Json → Option PageModule) : Json → Option (List PageModule)
  | .array items => items.mapM read?
  | _ => none

/-- A module of the given fields; attributes and modules inside may be missing. -/
def ofFields? (readChildren? : Json → Option (List PageModule)) :
    List (Option Json) → Option PageModule
  | [some id, some type, attrs, children] => do
    let id ← id.text?
    let type ← type.choiceName?.bind ModuleType.ofSlug?
    let attrs ← match attrs with
      | some v => v.attributes?
      | none => some .empty
    let children ← match children with
      | some v => readChildren? v
      | none => some []
    return ⟨id, type, attrs, children⟩
  | _ => none

/-- Reads a module from data of at most the given depth. -/
def ofJsonDepth? : (depth : Nat) → Json → Option PageModule
  | 0, _ => none
  | depth + 1, v =>
    (v.recordFields? fieldNames).bind (ofFields? (readList? (ofJsonDepth? depth)))

end PageModule

namespace Json

mutual

/-- How deep a value is nested. -/
def depth : Json → Nat
  | null => 0
  | bool _ => 0
  | integer _ => 0
  | float _ => 0
  | text _ => 0
  | array items => depthAll items + 1
  | object fields => depthFields fields + 1

/-- How deep the values of a list are nested. -/
def depthAll : List Json → Nat
  | [] => 0
  | v :: rest => max (depth v) (depthAll rest)

/-- How deep the values of fields are nested. -/
def depthFields : List (String × Json) → Nat
  | [] => 0
  | (_, v) :: rest => max (depth v) (depthFields rest)

end

end Json

/-- Reads a module. -/
def PageModule.ofJson? (v : Json) : Option PageModule := ofJsonDepth? v.depth v

namespace Page

/-- A page as data. -/
def toJson (p : Page) : Json :=
  .object [("success", .bool p.success), ("content", .array (PageModule.toJsonAll p.content)),
    ("css", .text p.css), ("mode", .text p.mode.name),
    ("stats", .object [("modules_count", .integer p.modulesCount)])]

/-- The names of the fields of a page. -/
def fieldNames : List String := ["success", "content", "css", "mode", "stats"]

/-- Reads the number of modules. -/
def statsOf? (v : Json) : Option Nat :=
  match v.recordFields? ["modules_count"] with
  | some [some n] => n.nat?
  | _ => none

/-- Reads a page. -/
def ofJson? (v : Json) : Option Page :=
  match v.recordFields? fieldNames with
  | some [some success, some content, some css, some mode, some stats] => do
    return {
      success := ← success.bool?
      content := ← PageModule.readList? PageModule.ofJson? content
      css := ← css.text?
      mode := ← mode.choiceName?.bind WalkMode.ofName?
      modulesCount := ← statsOf? stats }
  | _ => none

end Page

namespace Outcome

/-- An outcome as data. -/
def toJson : Outcome → Json
  | page p => p.toJson
  | failure message => .object [("error", .text message)]

/-- What is said of data that is no outcome. -/
def notAnOutcome : String := "data did not match any variant of untagged enum ParseResult"

/-- Reads an outcome: a page, or else an object with an error message. -/
def ofJson? (v : Json) : Option Outcome :=
  match Page.ofJson? v with
  | some p => some (page p)
  | none => ((v.field? "error").bind Json.text?).map failure

end Outcome

end PageModules
