import PageModules.Toml.Scalar

/-!
# Reading settings files

`Toml.ofText?` reads the statements of a text and gives the entries they write.  A statement stands
on a line of its own, but arrays and long texts may go over several lines.  Arrays and tables
between braces may be nested up to a fixed depth, and keys may have a fixed number of parts.
-/

namespace PageModules.Toml

open Text (isAsciiDigit isAsciiLetter)

/-! ### Lines -/

/-- Ends each line with `'\n'` alone. -/
def unifyLines : List Char → List Char
  | [] => []
  | '\r' :: '\n' :: s => '\n' :: unifyLines s
  | c :: s => c :: unifyLines s

/-- Drops blanks, comments and the ends of lines in front.  `inComment` says whether the text starts
inside of a comment. -/
def skipLines (inComment : Bool) : List Char → List Char
  | [] => []
  | c :: s =>
    if c = '\n' then skipLines false s
    else if inComment then if isPrintable c then skipLines true s else c :: s
    else if isSpace c then skipLines false s
    else if c = '#' then skipLines true s
    else c :: s

/-- Drops what may stand behind a statement in its line. -/
def endOfLine? (s : List Char) : Option (List Char) :=
  let rest := match skipSpace s with
    | '#' :: t => t.dropWhile isPrintable
    | t => t
  match rest with
  | [] => some []
  | c :: t => if c = '\n' then some t else none

/-! ### Keys -/

/-- A character of a key without quotes. -/
def isBareKey (c : Char) : Bool := isAsciiLetter c || isAsciiDigit c || c = '-' || c = '_'

/-- Reads one part of a key. -/
def keyPart? (s : List Char) : Option (String × List Char) :=
  match shortText? s with
  | some p => some p
  | none =>
    let part := s.takeWhile isBareKey
    if part.isEmpty then none else some (String.ofList part, s.dropWhile isBareKey)

/-- The greatest number of parts of a key. -/
def maxKeyParts : Nat := 79

/-- Reads a key of at most `parts` parts with dots between them: the path and the last part. -/
def key? : (parts : Nat) → List Char → Option ((List String × String) × List Char)
  | 0, _ => none
  | parts + 1, s =>
    match keyPart? (skipSpace s) with
    | none => none
    | some (part, t) =>
      match skipSpace t with
      | '.' :: t => (key? parts t).map fun p => ((part :: p.1.1, p.1.2), p.2)
      | t => some (([], part), t)

/-! ### Values -/

/-- Reads the items of an array and its closing bracket. -/
def arrayItems? (item? : List Char → Option (Toml × List Char)) :
    (fuel : Nat) → List Char → Option (List Toml × List Char)
  | 0, _ => none
  | fuel + 1, s =>
    match skipLines false s with
    | ']' :: t => some ([], t)
    | t =>
      match item? t with
      | none => none
      | some (v, t) =>
        match skipLines false t with
        | ']' :: t => some ([v], t)
        | ',' :: t => (arrayItems? item? fuel t).map fun p => (v :: p.1, p.2)
        | _ => none

/-- Reads an entry of a table between braces. -/
def closedEntry? (item? : List Char → Option (Toml × List Char)) (s : List Char) :
    Option ((List String × String × Toml) × List Char) :=
  match key? maxKeyParts s with
  | some ((path, key), '=' :: t) =>
    (item? (skipSpace t)).map fun p => ((path, key, p.1), skipSpace p.2)
  | _ => none

/-- Reads the entries of a table between braces, at least one, and the closing brace. -/
def closedEntries? (item? : List Char → Option (Toml × List Char)) :
    (fuel : Nat) → List Char → Option (List (List String × String × Toml) × List Char)
  | 0, _ => none
  | fuel + 1, s =>
    match closedEntry? item? s with
    | some (e, '}' :: t) => some ([e], t)
    | some (e, ',' :: t) => (closedEntries? item? fuel t).map fun p => (e :: p.1, p.2)
    | _ => none

/-- Reads a value with at most `depth` levels of arrays and tables between braces. -/
def value? : (depth : Nat) → List Char → Option (Toml × List Char)
  | 0, s => scalar? s
  | depth + 1, s =>
    match s with
    | '[' :: t => (arrayItems? (value? depth) (t.length + 1) t).map fun p => (array p.1, p.2)
    | '{' :: t =>
      match skipSpace t with
      | '}' :: t => some (closed [], t)
      | t =>
        (closedEntries? (value? depth) (t.length + 1) t).bind fun p =>
          (closedOf? p.1).map fun v => (v, p.2)
    | t => scalar? t

/-- The number of levels that values may have. -/
def maxDepth : Nat := 79

/-! ### Statements -/

/-- Reads a statement and the end of its line. -/
def statement? (s : List Char) : Option (Statement × List Char) :=
  match s with
  | '[' :: '[' :: t =>
    match key? maxKeyParts t with
    | some ((path, key), ']' :: ']' :: t) =>
      (endOfLine? t).map fun rest => (.rowHeader path key, rest)
    | _ => none
  | '[' :: t =>
    match key? maxKeyParts t with
    | some ((path, key), ']' :: t) => (endOfLine? t).map fun rest => (.header path key, rest)
    | _ => none
  | t =>
    match key? maxKeyParts t with
    | some ((path, key), '=' :: t) =>
      match value? maxDepth (skipSpace t) with
      | some (v, t) => (endOfLine? t).map fun rest => (.entry path key v, rest)
      | none => none
    | _ => none

/-- Reads all statements of a text. -/
def statements? : (fuel : Nat) → List Char → Option (List Statement)
  | 0, _ => none
  | fuel + 1, s =>
    match skipLines false s with
    | [] => some []
    | t =>
      match statement? t with
      | none => none
      | some (first, rest) => (statements? fuel rest).map (first :: ·)

/-- The entries of a settings file.  A mark of the byte order in front is dropped. -/
def ofText? (s : String) : Option Fields :=
  let chars := match s.toList with
    | '\uFEFF' :: t => t
    | t => t
  let lines := unifyLines chars
  (statements? (lines.length + 1) lines).bind ofStatements?

end PageModules.Toml
