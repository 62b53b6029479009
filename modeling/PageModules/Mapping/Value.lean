import PageModules.Catalog.Definitions
import PageModules.Json.Reader
import PageModules.Number.Integer
import PageModules.Style.Color
import PageModules.Style.Length

/-!
# Values of attributes

`attributeValue` reads the value of an author override: data in the notation of JSON, a number or a
text.  `FieldKind.cast?` makes a value of a kind out of a text; only what is no colour has none.
-/

namespace PageModules

/-- The value that a text gives: JSON data, an integer, a number or else the text itself. -/
def attributeValue (s : String) : Json :=
  match Json.ofText? s Json.defaultDepth with
  | some v => v
  | none =>
    let trimmed := Text.trim s
    match (if trimmed.contains '.' then none else Integer.ofText? trimmed) with
    | some n => .integer n
    | none =>
      match Binary64.ofText? trimmed with
      | some x => if x.isFinite then .ofNumber x else .text s
      | none => .text s

namespace FieldKind

/-- The words that are true. -/
def trueWords : List String := ["1", "true", "yes", "on"]

/-- The value of a kind that a text gives. -/
def cast? (kind : FieldKind) (s : String) : Option Json :=
  let trimmed := Text.trim s
  match kind with
  | .text => some (.text s)
  | .bool => some (.bool (trueWords.contains (Text.lowercase trimmed)))
  | .int => some (.integer (Length.leadingInteger trimmed))
  | .float => some (.ofNumber (Length.leadingNumber trimmed))
  | .array =>
    match Json.ofText? trimmed Json.defaultDepth with
    | some (.array vs) => some (.array vs)
    | _ => some (.array [.text s])
  | .color => if Color.isValid trimmed then some (.text trimmed) else none

end FieldKind

end PageModules
