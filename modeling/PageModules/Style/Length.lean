import PageModules.Number.Decimal

/-!
# Lengths

The numbers that style values start with.  `Length.ofText` reads a number with one of the known
units, `pixels` is its size in pixels, cut to an integer.
-/

namespace PageModules

/-- A number with a unit in lowercase, empty where there is none. -/
structure Length where
  /-- The number. -/
  number : Binary64
  /-- The unit. -/
  unit : String
deriving DecidableEq, Repr

namespace Length

open Text (isAsciiDigit)

/-- The units that are read. -/
def units : List String :=
  ["px", "em", "rem", "%", "vw", "vh", "vmin", "vmax", "pt", "pc", "in", "cm", "mm"]

/-- Zero without a unit, which stands for what cannot be read. -/
def zero : Length := ⟨.zero, ""⟩

/-- Cuts a text behind its leading digits and points.  The first character may also be one of
`signs`. -/
def splitNumber (signs : List Char) (s : List Char) : List Char × List Char :=
  let inNumber := fun c : Char => isAsciiDigit c || c = '.'
  match s with
  | [] => ([], [])
  | c :: t =>
    if inNumber c || signs.contains c then (c :: t.takeWhile inNumber, t.dropWhile inNumber)
    else ([], c :: t)

/-- The length that a text gives; one that is no number with a known unit gives `zero`. -/
def ofChars (s : List Char) : Length :=
  let (number, unit) := splitNumber ['-'] (Chars.trim s)
  let unit := String.ofList (Chars.lowercase unit)
  if unit ≠ "" ∧ unit ∉ units then zero
  else match Binary64.ofChars? number with
    | some x => ⟨x, unit⟩
    | none => zero

/-- The length that a text gives. -/
def ofText (s : String) : Length := ofChars s.toList

/-- The number of pixels in a point. -/
def pixelsPerPoint : Binary64 := Binary64.ofDecimal false 1333 (-3)

/-- The size in pixels: `em` and `rem` are multiples of the font size, points are scaled, and other
units leave the number as it is. -/
def inPixels (l : Length) (baseFontSize : Int) : Binary64 :=
  if l.unit = "em" ∨ l.unit = "rem" then Binary64.mul l.number (Binary64.ofInt baseFontSize)
  else if l.unit = "pt" then Binary64.mul l.number pixelsPerPoint
  else l.number

/-- The size in pixels of a length text, cut to an integer. -/
def pixels (s : String) (baseFontSize : Int) : Int :=
  ((ofText s).inPixels baseFontSize).toInt64

/-! ### Leading numbers -/

/-- The number that a text starts with, zero where there is none. -/
def leadingNumber (s : String) : Binary64 :=
  (Binary64.ofChars? (splitNumber ['-', '+'] (Chars.trim s.toList)).1).getD .zero

/-- The number that a text starts with, cut to an integer. -/
def leadingInteger (s : String) : Int := (leadingNumber s).toInt64

end Length

end PageModules
