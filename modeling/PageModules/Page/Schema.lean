import PageModules.Json.Writer
import PageModules.Page.Record
import PageModules.Text.Classes

/-!
# The schema of outcomes

`Schema.isOutcome` says whether data has the form of an outcome: a page whose modules are
well-formed, or an error with a message.  Sections and rows must have modules inside.
`Schema.check` gives the message for data of another form.
-/

namespace PageModules.Schema

open Text (isAsciiDigit)

/-! ### Texts -/

/-- Whether a character is a lowercase letter. -/
def isLowerLetter (c : Char) : Bool := 'a' ≤ c && c ≤ 'z'

/-- Whether a character may stand in the name of a type. -/
def isTypeChar (c : Char) : Bool := isLowerLetter c || c == '_'

/-- Whether a text is the name of a type: letters and dashes, a letter first. -/
def isTypeName (s : List Char) : Bool := s.head?.any isLowerLetter && s.all isTypeChar

/-- Whether a text is an identifier: the name of a type, letters and digits, and a number, with
dashes between them. -/
def isIdentifier (s : List Char) : Bool :=
  match Chars.splitLast? '_' s with
  | none => false
  | some (front, number) =>
    match Chars.splitLast? '_' front with
    | none => false
    | some (type, token) =>
      !type.isEmpty && type.all isTypeChar &&
        !token.isEmpty && token.all (fun c => isAsciiDigit c || isLowerLetter c) &&
        !number.isEmpty && number.all isAsciiDigit

/-! ### Objects -/

/-- Whether a value is a text that fits. -/
def isText (fits : List Char → Bool) (v : Json) : Bool := v.text?.any fun s => fits s.toList

/-- Whether a value is an object. -/
def isObject : Json → Bool
  | .object _ => true
  | _ => false

/-- Whether the required fields are there. -/
def hasFields (names : List String) (fields : List (String × Json)) : Bool :=
  names.all fun name => (List.lookup name fields).isSome

/-- Whether a value is an integer that is not negative. -/
def isCount : Json → Bool
  | .integer n => 0 ≤ n
  | .float x => x.isFinite && x.isInteger && Binary64.le .zero x
  | _ => false

/-! ### Modules -/

/-- Whether a value names a type whose modules must have others inside. -/
def needsChildren (v : Json) : Bool := v.text?.any ["section", "row"].contains

mutual

/-- Whether a value is a module. -/
def isModule : Json → Bool
  | .object fields =>
    hasFields ["id", "type", "attrs"] fields && moduleFields fields &&
      (!((List.lookup "type" fields).any needsChildren) ||
        (List.lookup "children" fields).isSome)
  | _ => false

/-- Whether the fields of a module have known names and values that fit. -/
def moduleFields : List (String × Json) → Bool
  | [] => true
  | (name, v) :: rest =>
    (match name with
      | "id" => isText isIdentifier v
      | "type" => isText isTypeName v
      | "attrs" => isObject v
      | "children" => isModuleList true v
      | _ => false) && moduleFields rest

/-- Whether a value is a list of modules, with at least one if `some'` is set. -/
def isModuleList (some' : Bool) : Json → Bool
  | .array items => (!some' || !items.isEmpty) && areModules items
  | _ => false

/-- Whether all values of a list are modules. -/
def areModules : List Json → Bool
  | [] => true
  | v :: rest => isModule v && areModules rest

end

/-! ### Outcomes -/

/-- Whether a value holds the number of modules and nothing else. -/
def isStats : Json → Bool
  | .object [("modules_count", n)] => isCount n
  | _ => false

/-- Whether a field of a page has a known name and a value that fits. -/
def pageField : String × Json → Bool
  | ("success", v) => v.bool? == some true
  | ("content", v) => isModuleList false v
  | ("css", v) => v.text?.isSome
  | ("mode", v) => v.text?.any ["jtb_annotated", "generic"].contains
  | ("stats", v) => isStats v
  | _ => false

/-- Whether a value is a page. -/
def isPage : Json → Bool
  | .object fields =>
    hasFields ["success", "content", "css", "mode", "stats"] fields && fields.all pageField
  | _ => false

/-- Whether a value is an error with a message. -/
def isFailure : Json → Bool
  | .object [("error", .text s)] => !s.isEmpty
  | _ => false

/-- Whether a value has the form of an outcome. -/
def isOutcome (v : Json) : Bool := isPage v != isFailure v

/-- The message for a value that does not have the form of an outcome. -/
def message (v : Json) : String :=
  "parse result failed schema validation:\n" ++ v.compact ++
    " is not valid under any of the schemas listed in the 'oneOf' keyword"

/-- Checks the form of a value. -/
def check (v : Json) : Except String Unit :=
  if isOutcome v then .ok () else .error (message v)

end PageModules.Schema
