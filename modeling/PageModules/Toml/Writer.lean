import PageModules.Toml.Scalar

/-!
# Writing texts of settings files

A text has four notations: with escapes or literally, on one line or on several.  `Toml.quote` takes
the first notation that shows the text as it is, in a fixed order, and falls back on escapes.
-/

namespace PageModules.Toml

/-! ### What a text holds -/

/-- A character that only an escape can write, whatever the notation. -/
def needsEscape (c : Char) : Bool := !isPrintable c && c ≠ '\n'

/-- The greatest number of occurrences of `q` in a row.  `here` counts those just read. -/
def longestRun (q : Char) (here : Nat) : List Char → Nat
  | [] => here
  | c :: s => if c = q then longestRun q (here + 1) s else max here (longestRun q 0 s)

/-! ### The four notations -/

/-- An end of a line, for a text on several lines that has one. -/
def openingLine (s : List Char) : List Char := if s.contains '\n' then ['\n'] else []

/-- The hexadecimal digit of a value below sixteen. -/
def hexDigit (n : Nat) : Char := "0123456789ABCDEF".toList.getD n '0'

/-- A character in a text with escapes; `long` says whether the text is on several lines. -/
def escapeChar (long : Bool) (c : Char) : List Char :=
  if c = '\x08' then ['\\', 'b']
  else if c = '\t' then ['\\', 't']
  else if c = '\n' then if long then ['\n'] else ['\\', 'n']
  else if c = '\x0c' then ['\\', 'f']
  else if c = '\r' then ['\\', 'r']
  else if c = '\\' then ['\\', '\\']
  else if isPrintable c then [c]
  else ['\\', 'u', '0', '0', hexDigit (c.toNat / 16), hexDigit (c.toNat % 16)]

/-- The characters of a text with escapes.  At most `free` quotes in a row stand for themselves;
`quotes` is the number of those just written. -/
def escaped (long : Bool) (free quotes : Nat) : List Char → List Char
  | [] => []
  | c :: s =>
    if c = '"' then
      if quotes < free then '"' :: escaped long free (quotes + 1) s
      else '\\' :: '"' :: escaped long free 0 s
    else escapeChar long c ++ escaped long free 0 s

/-- The text on one line with escapes. -/
def shortEscaped (s : List Char) : List Char := ['"'] ++ escaped false 0 0 s ++ ['"']

/-- The text on one line as it is. -/
def shortLiteral (s : List Char) : List Char := ['\''] ++ s ++ ['\'']

/-- The text on several lines with escapes. -/
def longEscaped (s : List Char) : List Char :=
  List.replicate 3 '"' ++ openingLine s ++ escaped true 2 0 s ++ List.replicate 3 '"'

/-- The text on several lines as it is. -/
def longLiteral (s : List Char) : List Char :=
  List.replicate 3 '\'' ++ openingLine s ++ s ++ List.replicate 3 '\''

/-- A text in the first notation that needs no escapes, or else with escapes. -/
def quoteChars (s : List Char) : List Char :=
  let plain := !s.any needsEscape
  let oneLine := !s.contains '\n'
  if plain && oneLine && !s.contains '\\' && !s.contains '"' then shortEscaped s
  else if plain && oneLine && !s.contains '\'' then shortLiteral s
  else if plain && !s.contains '\\' && decide (longestRun '"' 0 s ≤ 2) then longEscaped s
  else if plain && decide (longestRun '\'' 0 s ≤ 2) then longLiteral s
  else if oneLine then shortEscaped s
  else longEscaped s

/-- A text as a settings file has it. -/
def quote (s : String) : String := String.ofList (quoteChars s.toList)

end PageModules.Toml
