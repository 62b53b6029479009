import PageModules.Number.Decimal
import PageModules.KeyMap

/-!
# JSON values

Numbers are kept as they were written: an integer, or a floating point number.  The fields of an
object stand in the order of their names, each once, when the object was built by `Json.ofFields`
or by the reader.
-/

namespace PageModules

/-- A JSON value. -/
inductive Json where
  /-- The value `null`. -/
  | null
  /-- A truth value. -/
  | bool (value : Bool)
  /-- A number written as an integer. -/
  | integer (value : Int)
  /-- A number written with a fraction or an exponent, or too large for an integer. -/
  | float (value : Binary64)
  /-- A text. -/
  | text (value : String)
  /-- A list of values. -/
  | array (items : List Json)
  /-- Values under names. -/
  | object (fields : List (String × Json))
deriving Repr, Inhabited

/-- Attributes: JSON values under names. -/
abbrev Attributes := KeyMap Json

namespace Json

/-- The object with the given fields; of two of one name the later counts. -/
def ofFields (fields : List (String × Json)) : Json :=
  object (fields.foldl (fun entries e => Entries.insert e.1 e.2 entries) [])

/-- The object with the given attributes. -/
def ofAttributes (attrs : Attributes) : Json := object attrs.entries

/-- The text of a text value. -/
def text? : Json → Option String
  | text s => some s
  | _ => none

/-- The field of an object. -/
def field? (v : Json) (key : String) : Option Json :=
  match v with
  | object fields => List.lookup key fields
  | _ => none

/-- A number as a value: rounded to four decimals, and an integer where that is one
below `9 * 10 ^ 15`; what is not finite is `null`. -/
def ofNumber (x : Binary64) : Json :=
  let tenThousand := Binary64.ofInt 10000
  let rounded := Binary64.div (Binary64.round (Binary64.mul x tenThousand)) tenThousand
  if Binary64.isInteger rounded &&
      Binary64.lt (Binary64.abs rounded) (Binary64.ofInt 9000000000000000) then
    integer (Binary64.toInt64 rounded)
  else if Binary64.isFinite rounded then float rounded else null

/-- A text, unless it is empty. -/
def filledText? (s : String) : Option Json := if s.isEmpty then none else some (text s)

end Json

/-! ### Drafts of attributes -/

/-- Named values, some of which may be missing. -/
abbrev AttributeDraft := List (String × Option Json)

/-- The attributes whose value is there; of two of one name the later counts. -/
def Attributes.ofDraft (draft : AttributeDraft) : Attributes :=
  KeyMap.ofList (draft.filterMap fun e => e.2.map fun v => (e.1, v))

end PageModules
