import PageModules.Number.Decimal
import PageModules.Number.Integer
import PageModules.Text.Basic
import PageModules.Toml.Value

/-!
# Single values of settings files

Readers of the values that have no parts: texts in four notations, integers in four bases, floating
point numbers, truth values, and dates.  A reader gives what it read and the rest of the text; lines
end with `'\n'` alone.
-/

namespace PageModules.Toml

open Text (isAsciiDigit digitValue hexValue? isHexDigit)

/-! ### Characters -/

/-- A blank inside of a line. -/
def isSpace (c : Char) : Bool := c = ' ' || c = '\t'

/-- A character that texts and comments may hold: no control character but the tabulator. -/
def isPrintable (c : Char) : Bool := c = '\t' || (0x20 ≤ c.toNat && c.toNat ≠ 0x7F)

/-- Drops the blanks in front. -/
def skipSpace (s : List Char) : List Char := s.dropWhile isSpace

/-! ### Texts -/

/-- Reads `n` hexadecimal digits behind those that give `value`. -/
def hexDigits? (value : Nat) : Nat → List Char → Option (Nat × List Char)
  | 0, s => some (value, s)
  | _ + 1, [] => none
  | n + 1, c :: s => (hexValue? c).bind fun d => hexDigits? (value * 16 + d) n s

/-- Reads a character given by `n` hexadecimal digits. -/
def codePoint? (n : Nat) (s : List Char) : Option (Char × List Char) :=
  (hexDigits? 0 n s).bind fun p => if p.1.isValidChar then some (Char.ofNat p.1, p.2) else none

/-- Reads an escape behind its backslash. -/
def escape? : List Char → Option (Char × List Char)
  | 'b' :: s => some ('\x08', s)
  | 't' :: s => some ('\t', s)
  | 'n' :: s => some ('\n', s)
  | 'f' :: s => some ('\x0c', s)
  | 'r' :: s => some ('\r', s)
  | '"' :: s => some ('"', s)
  | '\\' :: s => some ('\\', s)
  | 'u' :: s => codePoint? 4 s
  | 'U' :: s => codePoint? 8 s
  | _ => none

/-- Reads a text on one line with escapes, behind its opening quote.  `done` holds the characters
read, the last one first. -/
def escapedText? (done : List Char) : (fuel : Nat) → List Char → Option (String × List Char)
  | 0, _ => none
  | _ + 1, [] => none
  | fuel + 1, c :: s =>
    if c = '"' then some (String.ofList done.reverse, s)
    else if c = '\\' then
      match escape? s with
      | some (d, rest) => escapedText? (d :: done) fuel rest
      | none => none
    else if isPrintable c then escapedText? (c :: done) fuel s
    else none

/-- Reads a text on one line without escapes, behind its opening quote. -/
def literalText? (done : List Char) : List Char → Option (String × List Char)
  | [] => none
  | c :: s =>
    if c = '\'' then some (String.ofList done.reverse, s)
    else if isPrintable c then literalText? (c :: done) s
    else none

/-- Reads the end of a text on several lines: three quotes, before which up to two more belong to
the text. -/
def closing? (quote : Char) (s : List Char) : Option (List Char × List Char) :=
  ([quote, quote, quote].isPrefixOf? s).map fun t =>
    let extra := (t.take 2).takeWhile (· = quote)
    (extra, t.drop extra.length)

/-- Drops the end of a line and the blanks that follow, if nothing else stands in the line. -/
def foldedLines? (s : List Char) : Option (List Char) :=
  match skipSpace s with
  | '\n' :: t => some (t.dropWhile fun c => isSpace c || c = '\n')
  | _ => none

/-- Reads a text on several lines with escapes, behind its opening quotes. -/
def longEscapedText? (done : List Char) : (fuel : Nat) → List Char → Option (String × List Char)
  | 0, _ => none
  | _ + 1, [] => none
  | fuel + 1, c :: s =>
    match closing? '"' (c :: s) with
    | some (extra, rest) => some (String.ofList (done.reverse ++ extra), rest)
    | none =>
      if c = '\\' then
        match foldedLines? s with
        | some rest => longEscapedText? done fuel rest
        | none =>
          match escape? s with
          | some (d, rest) => longEscapedText? (d :: done) fuel rest
          | none => none
      else if c = '\n' || isPrintable c then longEscapedText? (c :: done) fuel s
      else none

/-- Reads a text on several lines without escapes, behind its opening quotes. -/
def longLiteralText? (done : List Char) : List Char → Option (String × List Char)
  | [] => none
  | c :: s =>
    match closing? '\'' (c :: s) with
    | some (extra, rest) => some (String.ofList (done.reverse ++ extra), rest)
    | none =>
      if c = '\n' || isPrintable c then longLiteralText? (c :: done) s else none

/-- Drops one end of a line in front. -/
def skipNewline : List Char → List Char
  | '\n' :: s => s
  | s => s

/-- Reads a text on one line in either notation. -/
def shortText? : List Char → Option (String × List Char)
  | '"' :: s => escapedText? [] (s.length + 1) s
  | '\'' :: s => literalText? [] s
  | _ => none

/-- Reads a text in any notation.  The end of the line behind three opening quotes is dropped. -/
def anyText? : List Char → Option (String × List Char)
  | '"' :: '"' :: '"' :: s => longEscapedText? [] (s.length + 1) (skipNewline s)
  | '\'' :: '\'' :: '\'' :: s => longLiteralText? [] (skipNewline s)
  | s => shortText? s

/-! ### Numbers -/

/-- Reads digits behind a digit; single underscores may stand between them. -/
def moreDigits (isDigit : Char → Bool) : List Char → List Char × List Char
  | [] => ([], [])
  | '_' :: c :: s =>
    if isDigit c then
      let (ds, rest) := moreDigits isDigit s
      (c :: ds, rest)
    else ([], '_' :: c :: s)
  | c :: s =>
    if isDigit c then
      let (ds, rest) := moreDigits isDigit s
      (c :: ds, rest)
    else ([], c :: s)

/-- Reads at least one digit; single underscores may stand between digits. -/
def digits? (isDigit : Char → Bool) : List Char → Option (List Char × List Char)
  | [] => none
  | c :: s =>
    if isDigit c then
      let (ds, rest) := moreDigits isDigit s
      some (c :: ds, rest)
    else none

/-- The integer that a numeral gives, if it fits in 64 bits. -/
def fitting? (n : Int) : Option Toml :=
  if -9223372036854775808 ≤ n ∧ n ≤ 9223372036854775807 then some (integer n) else none

/-- Reads an integer in the given base, whose digits are below it. -/
def basedInteger? (base : Nat) (s : List Char) : Option (Toml × List Char) :=
  match digits? (fun c => (hexValue? c).any (· < base)) s with
  | some (ds, rest) =>
    let n := ds.foldl (fun n c => n * base + (hexValue? c).getD 0) 0
    (fitting? n).map fun v => (v, rest)
  | none => none

/-- Reads a sign. -/
def splitSign : List Char → List Char × List Char
  | '+' :: s => (['+'], s)
  | '-' :: s => (['-'], s)
  | s => ([], s)

/-- Reads the integer digits of a decimal number, which do not start with a needless zero. -/
def wholeDigits? : List Char → Option (List Char × List Char)
  | '0' :: s => some (['0'], s)
  | s => digits? isAsciiDigit s

/-- Reads the exponent part of a number; where there is none, nothing. -/
def exponentPart? : List Char → Option (List Char × List Char)
  | c :: s =>
    if c = 'e' || c = 'E' then
      let (sign, t) := splitSign s
      (digits? isAsciiDigit t).map fun p => ('e' :: (sign ++ p.1), p.2)
    else some ([], c :: s)
  | [] => some ([], [])

/-- Reads the fraction part of a number; where there is none, nothing. -/
def fractionPart? : List Char → Option (List Char × List Char)
  | '.' :: s => (digits? isAsciiDigit s).map fun p => ('.' :: p.1, p.2)
  | s => some ([], s)

/-- The floating point number of a numeral; none if it is above all of them. -/
def floatOf? (s : List Char) : Option Toml :=
  match Binary64.ofText? (String.ofList s) with
  | some (.infinity false) => none
  | some x => some (float x)
  | none => none

/-- Reads a decimal number. -/
def decimal? (s : List Char) : Option (Toml × List Char) := do
  let (sign, t) := splitSign s
  match t with
  | 'i' :: 'n' :: 'f' :: rest => return (float (.infinity (sign == ['-'])), rest)
  | 'n' :: 'a' :: 'n' :: rest => return (float .nan, rest)
  | _ =>
    let (whole, t) ← wholeDigits? t
    let (fraction, t) ← fractionPart? t
    let (power, rest) ← exponentPart? t
    if fraction.isEmpty && power.isEmpty then
      let n : Int := whole.foldl (fun n c => n * 10 + digitValue c) 0
      return (← fitting? (if sign == ['-'] then -n else n), rest)
    else return (← floatOf? (sign ++ whole ++ fraction ++ power), rest)

/-- Reads a number. -/
def number? : List Char → Option (Toml × List Char)
  | '0' :: 'x' :: s => basedInteger? 16 s
  | '0' :: 'o' :: s => basedInteger? 8 s
  | '0' :: 'b' :: s => basedInteger? 2 s
  | s => decimal? s

/-! ### Dates and times -/

/-- Reads `n` digits behind those that give `value`. -/
def fixedDigits? (value : Nat) : Nat → List Char → Option (Nat × List Char)
  | 0, s => some (value, s)
  | _ + 1, [] => none
  | n + 1, c :: s =>
    if isAsciiDigit c then fixedDigits? (value * 10 + digitValue c) n s else none

/-- Drops a character that has to be in front. -/
def dropChar? (c : Char) : List Char → Option (List Char)
  | d :: s => if d = c then some s else none
  | [] => none

/-- The number of days of a month. -/
def daysOf (year month : Nat) : Nat :=
  if month = 2 then
    if year % 4 = 0 ∧ (year % 100 ≠ 0 ∨ year % 400 = 0) then 29 else 28
  else if [4, 6, 9, 11].contains month then 30
  else 31

/-- What follows a date. -/
def afterDate? (s : List Char) : Option (List Char) := do
  let (year, s) ← fixedDigits? 0 4 s
  let s ← dropChar? '-' s
  let (month, s) ← fixedDigits? 0 2 s
  let s ← dropChar? '-' s
  let (day, s) ← fixedDigits? 0 2 s
  if 1 ≤ month ∧ month ≤ 12 ∧ 1 ≤ day ∧ day ≤ daysOf year month then return s else none

/-- What follows an hour and a minute. -/
def afterMinutes? (s : List Char) : Option (List Char) := do
  let (hour, s) ← fixedDigits? 0 2 s
  let s ← dropChar? ':' s
  let (minute, s) ← fixedDigits? 0 2 s
  if hour ≤ 23 ∧ minute ≤ 59 then return s else none

/-- What follows a time of day; a minute may have 61 seconds. -/
def afterTime? (s : List Char) : Option (List Char) := do
  let s ← afterMinutes? s
  let s ← dropChar? ':' s
  let (second, s) ← fixedDigits? 0 2 s
  if 60 < second then none
  else match s with
    | '.' :: c :: t => return if isAsciiDigit c then t.dropWhile isAsciiDigit else s
    | _ => return s

/-- What follows the offset of a time zone, if there is one. -/
def afterOffset (s : List Char) : List Char :=
  match s with
  | [] => []
  | c :: t =>
    if c = 'Z' || c = 'z' then t
    else if c = '+' || c = '-' then (afterMinutes? t).getD s
    else s

/-- What follows the time of day behind a date, if there is one. -/
def afterDateTime (s : List Char) : List Char :=
  match s with
  | [] => []
  | c :: t =>
    if c = 'T' || c = 't' || c = ' ' then ((afterTime? t).map afterOffset).getD s else s

/-- Reads a date, a date with a time of day, or a time of day. -/
def dateTime? (s : List Char) : Option (Toml × List Char) :=
  let rest? := match afterDate? s with
    | some rest => some (afterDateTime rest)
    | none => afterTime? s
  rest?.map fun rest => (dateTime (String.ofList (s.take (s.length - rest.length))), rest)

/-! ### Single values -/

/-- Reads a truth value. -/
def truth? : List Char → Option (Toml × List Char)
  | 't' :: 'r' :: 'u' :: 'e' :: s => some (bool true, s)
  | 'f' :: 'a' :: 'l' :: 's' :: 'e' :: s => some (bool false, s)
  | _ => none

/-- Reads a value without parts. -/
def scalar? (s : List Char) : Option (Toml × List Char) :=
  ((anyText? s).map fun p => (text p.1, p.2)) <|> truth? s <|> dateTime? s <|> number? s

end PageModules.Toml
