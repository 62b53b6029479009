import PageModules.Json.Value

/-!
# Writing JSON

`Json.compact` writes a value without blanks, `Json.pretty` with two blanks of indentation for each
level; both keep characters beyond ASCII as they are and write an empty array or object on one line.
-/

namespace PageModules.Json

/-- The hexadecimal digit of a value below sixteen. -/
def hexDigit (n : Nat) : Char := "0123456789abcdef".toList.getD n '0'

/-- A character inside a text. -/
def escapeChar (c : Char) : List Char :=
  if c = '"' then ['\\', '"']
  else if c = '\\' then ['\\', '\\']
  else if c = '\n' then ['\\', 'n']
  else if c = '\r' then ['\\', 'r']
  else if c = '\t' then ['\\', 't']
  else if c = '\x08' then ['\\', 'b']
  else if c = '\x0c' then ['\\', 'f']
  else if c.toNat < 0x20 then
    ['\\', 'u', '0', '0', hexDigit (c.toNat / 16), hexDigit (c.toNat % 16)]
  else [c]

/-- A text between quotes. -/
def quote (s : String) : String :=
  String.ofList ('"' :: (s.toList.flatMap escapeChar ++ ['"']))

mutual

/-- The value without blanks. -/
def compact : Json → String
  | null => "null"
  | bool b => if b then "true" else "false"
  | integer n => toString n
  | float x => Binary64.dataText x
  | text s => quote s
  | array items => "[" ++ compactItems true items ++ "]"
  | object fields => "\x7b" ++ compactFields true fields ++ "\x7d"

/-- The items of an array with commas between them. -/
def compactItems (first : Bool) : List Json → String
  | [] => ""
  | v :: rest => (if first then "" else ",") ++ (compact v ++ compactItems false rest)

/-- The fields of an object with commas between them. -/
def compactFields (first : Bool) : List (String × Json) → String
  | [] => ""
  | (k, v) :: rest =>
    (if first then "" else ",") ++ (quote k ++ (":" ++ (compact v ++ compactFields false rest)))

end

/-- A new line and the indentation of a level. -/
def newLine (level : Nat) : String := String.ofList ('\n' :: List.replicate (2 * level) ' ')

mutual

/-- The value with each item and field on a line of its own. -/
def prettyAt (level : Nat) : Json → String
  | array [] => "[]"
  | object [] => "\x7b\x7d"
  | array (v :: rest) => "[" ++ prettyItems (level + 1) true (v :: rest) ++ newLine level ++ "]"
  | object (f :: rest) =>
    "\x7b" ++ prettyFields (level + 1) true (f :: rest) ++ newLine level ++ "\x7d"
  | null => "null"
  | bool b => if b then "true" else "false"
  | integer n => toString n
  | float x => Binary64.dataText x
  | text s => quote s

/-- The items of an array, each on its line. -/
def prettyItems (level : Nat) (first : Bool) : List Json → String
  | [] => ""
  | v :: rest =>
    (if first then "" else ",") ++ newLine level ++ prettyAt level v ++
      prettyItems level false rest

/-- The fields of an object, each on its line. -/
def prettyFields (level : Nat) (first : Bool) : List (String × Json) → String
  | [] => ""
  | (k, v) :: rest =>
    (if first then "" else ",") ++ newLine level ++ quote k ++ ": " ++ prettyAt level v ++
      prettyFields level false rest

end

/-- The value with each item and field on a line of its own. -/
def pretty (v : Json) : String := prettyAt 0 v

end PageModules.Json
