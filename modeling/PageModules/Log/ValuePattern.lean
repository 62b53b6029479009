import PageModules.Number.Decimal
import PageModules.Text.Alphanumeric
import PageModules.Text.Basic

/-!
# Patterns for the values of fields

A log directive may ask for a field with a value: a number or a regular expression.  Values are
never compared here, as only spans are selected by them, but a directive counts only if its value
can be read (`ValuePattern.isReadable`).

The expressions have groups with names and flags, classes with ranges, escapes and the repetitions
`*`, `+` and `?`.  There are no look-arounds, no references back and no bounds of words.
-/

namespace PageModules.Log.ValuePattern

open Text (hexValue? isAsciiLetter isAsciiDigit isAlphanumeric)

/-! ### Escapes -/

/-- Reads `n` hexadecimal digits behind those that give `value`, as a character. -/
def hexChar? (value : Nat) : Nat → List Char → Option (Option Char × List Char)
  | 0, s => if value.isValidChar then some (some (Char.ofNat value), s) else none
  | _ + 1, [] => none
  | n + 1, c :: s => (hexValue? c).bind fun d => hexChar? (value * 16 + d) n s

/-- Reads an escape behind its backslash: the character that it stands for, if it stands for a
single one, and what follows. -/
def escape? : List Char → Option (Option Char × List Char)
  | [] => none
  | c :: s =>
    match c with
    | 'x' => hexChar? 0 2 s
    | 'u' => hexChar? 0 4 s
    | 'U' => hexChar? 0 8 s
    | 'a' => some (some '\x07', s)
    | 'f' => some (some '\x0c', s)
    | 't' => some (some '\t', s)
    | 'n' => some (some '\n', s)
    | 'r' => some (some '\r', s)
    | 'v' => some (some '\x0b', s)
    | _ =>
      if ['d', 'D', 's', 'S', 'w', 'W'].contains c then some (none, s)
      else if c = 'p' || c = 'P' then
        match s with
        | d :: t => if "cClLmMnNpPsSzZ".toList.contains d then some (none, t) else none
        | [] => none
      else if isAsciiLetter c || isAsciiDigit c || c = '<' || c = '>' || 0x80 ≤ c.toNat then none
      else some (some c, s)

/-! ### Classes -/

/-- Reads an item of a class. -/
def item? : List Char → Option (Option Char × List Char)
  | [] => none
  | '\\' :: s => escape? s
  | c :: s => some (some c, s)

/-- Reads an item of a class or a range of characters in order. -/
def range? (s : List Char) : Option (List Char) := do
  let (first, rest) ← item? s
  match rest with
  | '-' :: c :: t =>
    if c = ']' || c = '-' then return rest
    else
      let (last, rest) ← item? (c :: t)
      let a ← first
      let b ← last
      if a ≤ b then return rest else none
  | _ => return rest

/-- What follows the start of a class behind its bracket. -/
def classStart (s : List Char) : List Char :=
  let s := match s with
    | '^' :: t => t
    | t => t
  match s with
  | ']' :: t => t
  | t => t.dropWhile (· = '-')

/-- What follows a class; `nested` classes are open besides the first one. -/
def afterClass? (nested : Nat) : (fuel : Nat) → List Char → Option (List Char)
  | 0, _ => none
  | fuel + 1, s =>
    match s with
    | [] => none
    | '[' :: t => afterClass? (nested + 1) fuel (classStart t)
    | ']' :: t => match nested with
      | 0 => some t
      | n + 1 => afterClass? n fuel t
    | '&' :: '&' :: t => afterClass? nested fuel t
    | '-' :: '-' :: t => afterClass? nested fuel t
    | '~' :: '~' :: t => afterClass? nested fuel t
    | t => (range? t).bind (afterClass? nested fuel)

/-! ### Groups -/

/-- What a group starts with. -/
inductive GroupStart where
  /-- A group. -/
  | group
  /-- Flags that hold from here on. -/
  | flags
deriving DecidableEq

/-- Reads the name of a group and its closing bracket. -/
def groupName? (s : List Char) : Option (List Char) :=
  let isPart := fun c => c = '_' || c = '.' || c = '[' || c = ']' || isAlphanumeric c
  match s with
  | c :: _ =>
    if c = '_' || (isAlphanumeric c && !isAsciiDigit c) then
      match s.dropWhile isPart with
      | '>' :: t => some t
      | _ => none
    else none
  | [] => none

/-- Reads flags, each at most once, and the mark behind them.  `seen` holds those read, and `open'`
says whether a flag has to follow. -/
def flags? (seen : List Char) (open' : Bool) : List Char → Option (GroupStart × List Char)
  | [] => none
  | c :: s =>
    if c = ':' then if open' then none else some (.group, s)
    else if c = ')' then if open' || seen.isEmpty then none else some (.flags, s)
    else if seen.contains c then none
    else if c = '-' then flags? (c :: seen) true s
    else if "imsUuxR".toList.contains c then flags? (c :: seen) false s
    else none

/-- Reads the start of a group behind its parenthesis. -/
def groupStart? : List Char → Option (GroupStart × List Char)
  | '?' :: 'P' :: '<' :: s => (groupName? s).map (.group, ·)
  | '?' :: '<' :: s => (groupName? s).map (.group, ·)
  | '?' :: s => flags? [] false s
  | s => some (.group, s)

/-! ### Expressions -/

/-- Whether a text goes on as an expression.  So many groups are open, and `repeatable` says whether
there is something in front that a repetition may refer to. -/
def goesOn (groups : Nat) (repeatable : Bool) : (fuel : Nat) → List Char → Bool
  | 0, _ => false
  | _ + 1, [] => groups = 0
  | fuel + 1, c :: s =>
    match c with
    | '(' =>
      match groupStart? s with
      | some (.group, t) => goesOn (groups + 1) false fuel t
      | some (.flags, t) => goesOn groups false fuel t
      | none => false
    | ')' => 0 < groups && goesOn (groups - 1) true fuel s
    | '|' => goesOn groups false fuel s
    | '[' => (afterClass? 0 (s.length + 1) (classStart s)).any (goesOn groups true fuel)
    | '*' => repeatable && goesOn groups true fuel s
    | '+' => repeatable && goesOn groups true fuel s
    | '?' => repeatable && goesOn groups true fuel s
    | '{' => false
    | '\\' =>
      match s with
      | 'A' :: t => goesOn groups true fuel t
      | 'z' :: t => goesOn groups true fuel t
      | _ => (escape? s).any fun p => goesOn groups true fuel p.2
    | _ => goesOn groups true fuel s

/-- Whether a text is an expression. -/
def isExpression (s : List Char) : Bool := goesOn 0 false (s.length + 1) s

/-- Whether the value of a field can be read. -/
def isReadable (s : List Char) : Bool :=
  (Binary64.ofText? (String.ofList s)).isSome || isExpression s

end PageModules.Log.ValuePattern
