import PageModules.Text.Basic

/-!
# Binary floating point numbers of 64 bits

The numbers of the IEEE 754 format `binary64` with the operations the library needs.  A finite
number is a sign, a significand below `2 ^ 53` and an exponent of two; the significand has all 53
bits unless the exponent is the least one.  Every operation that can be inexact is the exact result
followed by `ofRatio`, the one place where a number is rounded (to nearest, ties to the even
significand).

There is one NaN.  Comparisons with it are false, as the standard asks.
-/

namespace PageModules

/-- A number of the format `binary64`. -/
inductive Binary64 where
  /-- The result that is no number. -/
  | nan
  /-- An infinity with its sign. -/
  | infinity (negative : Bool)
  /-- The number `± significand * 2 ^ exponent`. -/
  | finite (negative : Bool) (significand : Nat) (exponent : Int)
deriving DecidableEq, Repr, Inhabited

namespace Binary64

/-- The exponent of the least positive number. -/
def minExponent : Int := -1074

/-- The greatest exponent of a finite number. -/
def maxExponent : Int := 971

/-- Zero. -/
def zero : Binary64 := .finite false 0 minExponent

/-- What the significand of a number stays below: two to the power of 53. -/
def significandBound : Nat := 9007199254740992

/-- The least significand of 53 bits: two to the power of 52. -/
def leastFullSignificand : Nat := 4503599627370496

/-! ### Rounding -/

/-- The power of a number; one where the exponent is negative. -/
def powerOf (base : Nat) (exponent : Int) : Nat := Nat.pow base exponent.toNat

/-- The integer nearest to `num / den`, the even one of two equally near. -/
def roundHalfEven (num den : Nat) : Nat :=
  let q := num / den
  let twice := 2 * (num % den)
  if twice < den then q
  else if den < twice then q + 1
  else if q % 2 = 0 then q else q + 1

/-- The number of the form `m * 2 ^ e` with the given `e` nearest to `num / den`; `m` that reaches
54 bits moves to the next exponent, and an exponent beyond the greatest gives an infinity. -/
def ofRatioAt (negative : Bool) (num den : Nat) (e : Int) : Binary64 :=
  let m := roundHalfEven (num * powerOf 2 (-e)) (den * powerOf 2 e)
  let (m, e) := if m = significandBound then (leastFullSignificand, e + 1) else (m, e)
  if maxExponent < e then .infinity negative else .finite negative m e

/-- The exponent at which a positive ratio has a significand of 53 bits, or the least exponent
where that one is smaller. -/
def ratioExponent (num den : Nat) : Int :=
  let e : Int := (num.log2 : Int) - den.log2 - 53
  let e := if significandBound * (den * powerOf 2 e) ≤ num * powerOf 2 (-e) then e + 1 else e
  max e minExponent

/-- The number nearest to `± num / den`, for a positive `den`. -/
def ofRatio (negative : Bool) (num den : Nat) : Binary64 :=
  if num = 0 then .finite negative 0 minExponent
  else ofRatioAt negative num den (ratioExponent num den)

/-- The number nearest to an integer. -/
def ofInt (n : Int) : Binary64 := ofRatio (n < 0) n.natAbs 1

/-- The number nearest to `± digits * 10 ^ power`.  Powers that are certain to overflow or to
vanish are not computed. -/
def ofDecimal (negative : Bool) (digits : Nat) (power : Int) : Binary64 :=
  if digits = 0 then .finite negative 0 minExponent
  else
    let magnitude : Int := (digits.log2 / 4 : Nat) + power
    let bound : Int := digits.log2 + power
    if 400 < magnitude then .infinity negative
    else if bound < -400 then .finite negative 0 minExponent
    else ofRatio negative (digits * powerOf 10 power) (powerOf 10 (-power))

/-! ### Arithmetic -/

/-- Changes the sign. -/
def neg : Binary64 → Binary64
  | nan => nan
  | infinity n => infinity !n
  | finite n m e => finite (!n) m e

/-- Drops the sign. -/
def abs : Binary64 → Binary64
  | nan => nan
  | infinity _ => infinity false
  | finite _ m e => finite false m e

/-- The product. -/
def mul : Binary64 → Binary64 → Binary64
  | finite n m e, finite n' m' e' =>
    ofRatio (n != n') (m * m' * powerOf 2 (e + e')) (powerOf 2 (-(e + e')))
  | infinity n, infinity n' => infinity (n != n')
  | infinity n, finite n' m _ => if m = 0 then nan else infinity (n != n')
  | finite n m _, infinity n' => if m = 0 then nan else infinity (n != n')
  | nan, _ => nan
  | _, nan => nan

/-- The quotient. -/
def div : Binary64 → Binary64 → Binary64
  | finite n m e, finite n' m' e' =>
    if m' = 0 then if m = 0 then nan else infinity (n != n')
    else ofRatio (n != n') (m * powerOf 2 (e - e')) (m' * powerOf 2 (e' - e))
  | infinity _, infinity _ => nan
  | infinity n, finite n' _ _ => infinity (n != n')
  | finite n _ _, infinity n' => finite (n != n') 0 minExponent
  | nan, _ => nan
  | _, nan => nan

/-- A finite number as a multiple of `2 ^ exponent`, for an exponent not above its own. -/
def scaled (n : Bool) (m : Nat) (e exponent : Int) : Int :=
  let magnitude : Int := (m * powerOf 2 (e - exponent) : Nat)
  if n then -magnitude else magnitude

/-- The sum.  A sum of zero is negative only where both parts are. -/
def add : Binary64 → Binary64 → Binary64
  | finite n m e, finite n' m' e' =>
    let exponent := min e e'
    let total := scaled n m e exponent + scaled n' m' e' exponent
    if total = 0 then finite (n && n') 0 minExponent
    else ofRatio (total < 0) (total.natAbs * powerOf 2 exponent) (powerOf 2 (-exponent))
  | infinity n, infinity n' => if n = n' then infinity n else nan
  | infinity n, finite _ _ _ => infinity n
  | finite _ _ _, infinity n => infinity n
  | nan, _ => nan
  | _, nan => nan

/-- The difference. -/
def sub (x y : Binary64) : Binary64 := add x y.neg

/-! ### Order -/

/-- Whether `x` is less than `y`. -/
def lt : Binary64 → Binary64 → Bool
  | finite n m e, finite n' m' e' =>
    let exponent := min e e'
    decide (scaled n m e exponent < scaled n' m' e' exponent)
  | infinity n, infinity n' => n && !n'
  | infinity n, finite _ _ _ => n
  | finite _ _ _, infinity n => !n
  | nan, _ => false
  | _, nan => false

/-- Whether `x` and `y` are equal as numbers. -/
def eq : Binary64 → Binary64 → Bool
  | finite n m e, finite n' m' e' =>
    let exponent := min e e'
    decide (scaled n m e exponent = scaled n' m' e' exponent)
  | infinity n, infinity n' => n = n'
  | _, _ => false

/-- Whether `x` is at most `y`. -/
def le (x y : Binary64) : Bool := lt x y || eq x y

/-- Whether the number is finite. -/
def isFinite : Binary64 → Bool
  | finite _ _ _ => true
  | _ => false

/-! ### Integers -/

/-- The magnitude of a finite number, cut to an integer. -/
def truncatedMagnitude (m : Nat) (e : Int) : Nat := m * powerOf 2 e / powerOf 2 (-e)

/-- Whether the number is an integer. -/
def isInteger : Binary64 → Bool
  | finite _ m e => m * powerOf 2 e % powerOf 2 (-e) = 0
  | _ => false

/-- The nearest integer; of two equally near, the one away from zero. -/
def round : Binary64 → Binary64
  | finite n m e =>
    let half := (2 * m * powerOf 2 e + powerOf 2 (-e)) / (2 * powerOf 2 (-e))
    ofRatio n half 1
  | x => x

/-- The least 64-bit integer. -/
def minInt64 : Int := -9223372036854775808

/-- The greatest 64-bit integer. -/
def maxInt64 : Int := 9223372036854775807

/-- Whether an integer has 64 bits. -/
def isInt64 (n : Int) : Bool := minInt64 ≤ n && n ≤ maxInt64

/-- The number cut to an integer, moved into the range of 64 bits; NaN gives zero. -/
def toInt64 : Binary64 → Int
  | nan => 0
  | infinity n => if n then minInt64 else maxInt64
  | finite n m e =>
    let magnitude : Int := truncatedMagnitude m e
    max minInt64 (min maxInt64 (if n then -magnitude else magnitude))

end Binary64

end PageModules
