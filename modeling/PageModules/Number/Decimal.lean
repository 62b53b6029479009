import PageModules.Number.Binary64

/-!
# Decimal numerals and floating point numbers

Reading and writing `Binary64` in decimal.

* `Binary64.ofText?` reads a numeral: a sign, digits with an optional point, an optional exponent,
  or one of the words `inf`, `infinity` and `nan` in any case.
* `Binary64.shortest` gives the fewest decimal digits that read back to the number, and among those
  the nearest to it.
* `Binary64.positional` and `Binary64.scientific` lay such digits out.
-/

namespace PageModules.Binary64

open Text (isAsciiDigit digitValue)

/-! ### Reading -/

/-- The value of a run of decimal digits. -/
def digitsValue (ds : List Char) : Nat := ds.foldl (fun n d => 10 * n + digitValue d) 0

/-- Takes a sign off a text: whether it is a minus, and what follows. -/
def splitSign : List Char → Bool × List Char
  | '-' :: s => (true, s)
  | '+' :: s => (false, s)
  | s => (false, s)

/-- The exponent of a numeral: nothing, or the letter `e`, an optional sign and digits. -/
def exponentOf? : List Char → Option Int
  | [] => some 0
  | c :: s =>
    if c = 'e' || c = 'E' then
      let (negative, ds) := splitSign s
      if ds.isEmpty || !ds.all isAsciiDigit then none
      else some (if negative then -(digitsValue ds : Int) else digitsValue ds)
    else none

/-- The number written by a numeral without a sign. -/
def ofUnsignedChars? (negative : Bool) (s : List Char) : Option Binary64 :=
  let whole := s.takeWhile isAsciiDigit
  let rest := s.dropWhile isAsciiDigit
  let (fraction, rest) := match rest with
    | '.' :: t => (t.takeWhile isAsciiDigit, t.dropWhile isAsciiDigit)
    | _ => ([], rest)
  if whole.isEmpty && fraction.isEmpty then none
  else (exponentOf? rest).map fun e =>
    ofDecimal negative (digitsValue (whole ++ fraction)) (e - fraction.length)

/-- The number written by a numeral. -/
def ofChars? (s : List Char) : Option Binary64 :=
  let (negative, rest) := splitSign s
  let word := Chars.lowercase rest
  if word = "inf".toList || word = "infinity".toList then some (infinity negative)
  else if word = "nan".toList then some nan
  else ofUnsignedChars? negative rest

/-- The number written by a numeral. -/
def ofText? (s : String) : Option Binary64 := ofChars? s.toList

/-! ### The shortest digits -/

/-- Decimal digits and the power of ten of the last one. -/
structure Decimal where
  /-- The digits as a natural number. -/
  digits : Nat
  /-- The power of ten that they are multiplied by. -/
  power : Int
deriving DecidableEq, Repr

/-- The number of decimal digits, one for zero. -/
def digitCount (n : Nat) : Nat := (Nat.toDigits 10 n).length

/-- Of the two neighbours of `num / den` on the grid of multiples of `10 ^ power`, those that read
back to `x`; the nearer first, the even one of two equally near. -/
def candidates (x : Binary64) (num den : Nat) (power : Int) : List Nat :=
  let n := num * powerOf 10 (-power)
  let d := den * powerOf 10 power
  let low := n / d
  let nearer := roundHalfEven n d
  let farther := if nearer = low then low + 1 else low
  [nearer, farther].filter fun k => decide (ofDecimal false k power = x)

/-- The first grid of at most `fuel` further digits that has a number reading back to `x`. -/
def shortestFrom (x : Binary64) (num den : Nat) (power : Int) : (fuel : Nat) → Decimal
  | 0 => ⟨num, 0⟩
  | fuel + 1 =>
    match candidates x num den power with
    | k :: _ => ⟨k, power⟩
    | [] => shortestFrom x num den (power - 1) fuel

/-- Moves the trailing zeros of the digits into the power. -/
def stripZeros (digits : Nat) (power : Int) : (fuel : Nat) → Decimal
  | 0 => ⟨digits, power⟩
  | fuel + 1 =>
    if digits ≠ 0 ∧ digits % 10 = 0 then stripZeros (digits / 10) (power + 1) fuel
    else ⟨digits, power⟩

/-- The fewest decimal digits that read back to the positive number `m * 2 ^ e`; among those the
nearest to it. -/
def shortest (m : Nat) (e : Int) : Decimal :=
  let num := m * powerOf 2 e
  let den := powerOf 2 (-e)
  let power : Int := ((digitCount num : Int) - digitCount den) + 1
  let d := shortestFrom (finite false m e) num den power 22
  stripZeros d.digits d.power 20

/-! ### Layouts -/

/-- The digits of a natural number. -/
def digitChars (n : Nat) : List Char := Nat.toDigits 10 n

/-- Digits with the point at its place, without an exponent.  `pointZero` asks for `.0` after an
integer. -/
def positional (d : Decimal) (pointZero : Bool) : List Char :=
  let ds := digitChars d.digits
  if 0 ≤ d.power then
    ds ++ List.replicate d.power.toNat '0' ++ (if pointZero then ['.', '0'] else [])
  else
    let places := (-d.power).toNat
    if places < ds.length then
      ds.take (ds.length - places) ++ '.' :: ds.drop (ds.length - places)
    else '0' :: '.' :: (List.replicate (places - ds.length) '0' ++ ds)

/-- One digit in front of the point and a signed exponent. -/
def scientific (d : Decimal) : List Char :=
  let ds := digitChars d.digits
  let exponent : Int := d.power + (ds.length - 1 : Nat)
  let mantissa := match ds with
    | [] => []
    | [c] => [c]
    | c :: cs => c :: '.' :: cs
  mantissa ++ 'e' :: (if exponent < 0 then '-' else '+') :: digitChars exponent.natAbs

/-- A sign in front of a text. -/
def signed (negative : Bool) (s : List Char) : List Char := if negative then '-' :: s else s

/-- The number with its shortest digits, never with an exponent and without a fraction where it is
an integer. -/
def plainText : Binary64 → String
  | nan => "NaN"
  | infinity n => String.ofList (signed n "inf".toList)
  | finite n m e =>
    String.ofList (signed n (if m = 0 then ['0'] else positional (shortest m e) false))

/-- The number with its shortest digits, as a data format writes it: always with a fraction or an
exponent, an exponent from `10 ^ 16` on and below `10 ^ -5`. -/
def dataText : Binary64 → String
  | nan => "null"
  | infinity _ => "null"
  | finite n m e =>
    String.ofList <| signed n <|
      if m = 0 then "0.0".toList
      else
        let d := shortest m e
        let leading : Int := d.power + (digitCount d.digits : Int)
        if -5 < leading ∧ leading ≤ 16 then positional d true else scientific d

end PageModules.Binary64
