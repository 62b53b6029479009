import PageModules.Json.Value

/-!
# Reading JSON

`Json.ofText? depth` reads a text that is one JSON value, strictly: no comments, no trailing commas,
no leading zeros, no unpaired surrogates.  Arrays and objects may be nested up to `depth` levels.
Of two fields of one name the later counts.

A number without fraction and exponent is an integer where it fits in 64 bits, signed or unsigned;
minus zero and larger ones are floating point numbers.  The digits beyond those that fit in 64 bits
are dropped, and the scaling by powers of ten is done in floating point (`scaleByTen?`), so a
number with many digits may be the neighbour of the nearest one.  Numbers that overflow are refused.
-/

namespace PageModules.Json

open Text (isAsciiDigit digitValue hexValue?)

/-! ### Blanks and literals -/

/-- The blanks of JSON. -/
def isJsonBlank (c : Char) : Bool := c = ' ' || c = '\n' || c = '\t' || c = '\r'

/-- Drops the blanks in front. -/
def skipBlanks (s : List Char) : List Char := s.dropWhile isJsonBlank

/-! ### Numbers -/

/-- The greatest integer of 64 bits without sign. -/
def maxUnsigned64 : Nat := 18446744073709551615

/-- Multiplies or divides by a power of ten, in steps of at most `10 ^ 308` downwards; none where
the result overflows. -/
def scaleByTen? (x : Binary64) (power : Int) : (fuel : Nat) → Option Binary64
  | 0 => some x
  | fuel + 1 =>
    if power.natAbs ≤ 308 then
      let factor := Binary64.ofDecimal false 1 power.natAbs
      if 0 ≤ power then
        let y := Binary64.mul x factor
        if y.isFinite then some y else none
      else some (Binary64.div x factor)
    else if Binary64.eq x Binary64.zero then some x
    else if 0 ≤ power then none
    else scaleByTen? (Binary64.div x (Binary64.ofDecimal false 1 308)) (power + 308) fuel

/-- The floating point number of a significand and a power of ten. -/
def scaledFloat? (negative : Bool) (significand : Nat) (power : Int) : Option Json :=
  (scaleByTen? (Binary64.ofInt significand) power 4).map fun x =>
    float (if negative then x.neg else x)

/-- Reads digits into a significand as long as it fits in 64 bits.  The result is the significand,
the number of digits read, and the text from the first digit that does not fit or from the end of
the digits. -/
def takeDigits (significand count : Nat) : List Char → Nat × Nat × List Char
  | [] => (significand, count, [])
  | c :: s =>
    if isAsciiDigit c && decide (significand * 10 + digitValue c ≤ maxUnsigned64) then
      takeDigits (significand * 10 + digitValue c) (count + 1) s
    else (significand, count, c :: s)

/-- The exponent part of a number, if there is one, and then the number. -/
def finishNumber? (negative : Bool) (significand : Nat) (power : Int) (s : List Char) :
    Option (Json × List Char) :=
  match s with
  | c :: t =>
    if c = 'e' || c = 'E' then
      let (down, t) := Binary64.splitSign t
      let ds := t.takeWhile isAsciiDigit
      let rest := t.dropWhile isAsciiDigit
      if ds.isEmpty then none
      else
        let e : Int := Binary64.digitsValue ds
        if significand = 0 || (down && decide (2147483647 < e)) then
          some (float (.finite negative 0 Binary64.minExponent), rest)
        else (scaledFloat? negative significand (if down then power - e else power + e)).map
          fun v => (v, rest)
    else (scaledFloat? negative significand power).map fun v => (v, s)
  | [] => (scaledFloat? negative significand power).map fun v => (v, s)

/-- The part of a number behind its integer digits.  `dropped` integer digits did not fit. -/
def fractionPart? (negative : Bool) (significand dropped : Nat) (s : List Char) :
    Option (Json × List Char) :=
  match s with
  | '.' :: t =>
    let (significand', count, rest) := takeDigits significand 0 t
    let more := rest.dropWhile isAsciiDigit
    if count = 0 && more.length = t.length then none
    else finishNumber? negative significand' ((dropped : Int) - count) more
  | _ => finishNumber? negative significand dropped s

/-- Reads a number without its sign. -/
def unsignedNumber? (negative : Bool) (s : List Char) : Option (Json × List Char) :=
  match s with
  | [] => none
  | c :: t =>
    if !isAsciiDigit c then none
    else if c = '0' && t.head?.any isAsciiDigit then none
    else
      let (significand, _, rest) := takeDigits 0 0 s
      let more := rest.dropWhile isAsciiDigit
      let dropped := rest.length - more.length
      let plain := match more with
        | d :: _ => !(d = '.' || d = 'e' || d = 'E')
        | [] => true
      if plain && dropped = 0 then
        if !negative then some (integer significand, more)
        else if significand = 0 || 9223372036854775808 < significand then
          some (float (Binary64.ofInt significand).neg, more)
        else some (integer (-(significand : Int)), more)
      else fractionPart? negative significand dropped more

/-- Reads a number. -/
def number? : List Char → Option (Json × List Char)
  | '-' :: s => unsignedNumber? true s
  | s => unsignedNumber? false s

/-! ### Texts -/

/-- The value of four hexadecimal digits. -/
def hexFour? : List Char → Option (Nat × List Char)
  | a :: b :: c :: d :: s => do
    let a ← hexValue? a
    let b ← hexValue? b
    let c ← hexValue? c
    let d ← hexValue? d
    return (((a * 16 + b) * 16 + c) * 16 + d, s)
  | _ => none

/-- What an escape letter stands for. -/
def escapeOf? : Char → Option Char
  | '"' => some '"'
  | '\\' => some '\\'
  | '/' => some '/'
  | 'b' => some '\x08'
  | 'f' => some '\x0c'
  | 'n' => some '\n'
  | 'r' => some '\r'
  | 't' => some '\t'
  | _ => none

/-- The character of an escape with four digits, or of two such escapes that are a surrogate
pair. -/
def unicodeEscape? (s : List Char) : Option (Char × List Char) := do
  let (high, rest) ← hexFour? s
  if 0xDC00 ≤ high ∧ high ≤ 0xDFFF then none
  else if 0xD800 ≤ high ∧ high ≤ 0xDBFF then
    match rest with
    | '\\' :: 'u' :: t =>
      let (low, rest) ← hexFour? t
      if 0xDC00 ≤ low ∧ low ≤ 0xDFFF then
        some (Char.ofNat (0x10000 + (high - 0xD800) * 0x400 + (low - 0xDC00)), rest)
      else none
    | _ => none
  else some (Char.ofNat high, rest)

/-- Reads a text up to its closing quote.  `fuel` bounds the number of characters; `done` holds
those read, the last one first. -/
def textChars? (done : List Char) : (fuel : Nat) → List Char → Option (String × List Char)
  | 0, _ => none
  | _ + 1, [] => none
  | fuel + 1, c :: s =>
    if c = '"' then some (String.ofList done.reverse, s)
    else if c = '\\' then
      match s with
      | 'u' :: t =>
        match unicodeEscape? t with
        | some (d, rest) => textChars? (d :: done) fuel rest
        | none => none
      | e :: t =>
        match escapeOf? e with
        | some d => textChars? (d :: done) fuel t
        | none => none
      | [] => none
    else if c.toNat < 0x20 then none
    else textChars? (c :: done) fuel s

/-! ### Values -/

/-- A part of a value still to be read: the whole of one, the items of an array after the ones
given, or the fields of an object after the ones given. -/
inductive Pending where
  /-- A value. -/
  | value
  /-- The items of an array from the next one on; those read stand in reverse. -/
  | items (done : List Json)
  /-- The fields of an object from the next one on. -/
  | fields (done : List (String × Json))

/-- Reads a value, or what is left of an array or an object.  `depth` is the number of levels that
may still be opened. -/
def read? (depth : Nat) : (fuel : Nat) → Pending → List Char → Option (Json × List Char)
  | 0, _, _ => none
  | fuel + 1, .value, s =>
    match skipBlanks s with
    | 'n' :: 'u' :: 'l' :: 'l' :: t => some (null, t)
    | 't' :: 'r' :: 'u' :: 'e' :: t => some (bool true, t)
    | 'f' :: 'a' :: 'l' :: 's' :: 'e' :: t => some (bool false, t)
    | '"' :: t => (textChars? [] (t.length + 1) t).map fun p => (text p.1, p.2)
    | '[' :: t =>
      match depth with
      | 0 => none
      | depth + 1 =>
        match skipBlanks t with
        | ']' :: t => some (array [], t)
        | t => read? depth fuel (.items []) t
    | '{' :: t =>
      match depth with
      | 0 => none
      | depth + 1 =>
        match skipBlanks t with
        | '}' :: t => some (object [], t)
        | t => read? depth fuel (.fields []) t
    | t => number? t
  | fuel + 1, .items done, s =>
    match read? depth fuel .value s with
    | none => none
    | some (v, t) =>
      match skipBlanks t with
      | ']' :: t => some (array (v :: done).reverse, t)
      | ',' :: t => read? depth fuel (.items (v :: done)) t
      | _ => none
  | fuel + 1, .fields done, s =>
    match skipBlanks s with
    | '"' :: t =>
      match textChars? [] (t.length + 1) t with
      | none => none
      | some (key, t) =>
        match skipBlanks t with
        | ':' :: t =>
          match read? depth fuel .value t with
          | none => none
          | some (v, t) =>
            match skipBlanks t with
            | '}' :: t => some (object (Entries.insert key v done), t)
            | ',' :: t => read? depth fuel (.fields (Entries.insert key v done)) t
            | _ => none
        | _ => none
    | _ => none

/-- The nesting that texts from outside may have. -/
def defaultDepth : Nat := 127

/-- The value that a text is, with at most `depth` levels of nesting. -/
def ofText? (s : String) (depth : Nat) : Option Json :=
  let chars := s.toList
  match read? depth (2 * chars.length + 2) .value chars with
  | some (v, rest) => if (skipBlanks rest).isEmpty then some v else none
  | none => none

end PageModules.Json
