import PageModules.Number.Binary64

/-!
# Integers in decimal notation

`Integer.read` reads an optional sign and digits as an integer of a range, and says what is wrong
with a text that gives none.  Digits are read from the left, so a number that is too great is
reported even if something else than a digit follows.
-/

namespace PageModules.Integer

open Text (isAsciiDigit digitValue)

/-- What is wrong with a text that gives no integer. -/
inductive Fault where
  /-- There is nothing. -/
  | empty
  /-- There is something else than a digit. -/
  | notADigit
  /-- The number is above the range. -/
  | tooGreat
  /-- The number is below the range. -/
  | tooSmall
deriving DecidableEq, Repr

/-- The wording of a fault. -/
def Fault.message : Fault → String
  | empty => "cannot parse integer from empty string"
  | notADigit => "invalid digit found in string"
  | tooGreat => "number too large to fit in target type"
  | tooSmall => "number too small to fit in target type"

/-- Reads digits behind those that give `n`, as long as the number is at most `greatest`. -/
def readDigits (greatest : Nat) (beyond : Fault) (n : Nat) : List Char → Except Fault Nat
  | [] => .ok n
  | c :: s =>
    if !isAsciiDigit c then .error .notADigit
    else
      let m := 10 * n + digitValue c
      if m ≤ greatest then readDigits greatest beyond m s else .error beyond

/-- Reads at least one digit. -/
def readSome (greatest : Nat) (beyond : Fault) (s : List Char) : Except Fault Nat :=
  if s.isEmpty then .error .notADigit else readDigits greatest beyond 0 s

/-- Reads an integer between `-below` and `greatest`; without `signed` there are no negative ones.
-/
def read (signed : Bool) (below greatest : Nat) (s : List Char) : Except Fault Int :=
  match s with
  | [] => .error .empty
  | '+' :: t => (readSome greatest .tooGreat t).map Int.ofNat
  | '-' :: t =>
    if signed then (readSome below .tooSmall t).map fun n => -(n : Int) else .error .notADigit
  | t => (readSome greatest .tooGreat t).map Int.ofNat

/-- Reads an integer of 64 bits. -/
def ofText? (s : String) : Option Int :=
  (read true 9223372036854775808 9223372036854775807 s.toList).toOption

/-- The greatest natural number of 32 bits. -/
def maxUnsigned32 : Nat := 4294967295

/-- Reads a natural number of 32 bits. -/
def readUnsigned32 (s : String) : Except Fault Nat :=
  (read false 0 maxUnsigned32 s.toList).map Int.toNat

end PageModules.Integer
