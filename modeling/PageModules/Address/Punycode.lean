import PageModules.Text.Basic

/-!
# Labels of domains in ASCII

The labels of a domain may be written in ASCII alone: the characters of ASCII first, then behind a
hyphen the places of the other ones, as numbers in base 36 (RFC 3492).  `Punycode.decode?` reads
such a label; every digit belongs to one number, so it goes through the digits once.
-/

namespace PageModules.Punycode

open Text (isAsciiDigit digitValue lower)

/-- The value of a digit in base 36; letters come first. -/
def digit? (c : Char) : Option Nat :=
  let l := lower c
  if 'a' ≤ l && l ≤ 'z' then some (l.toNat - 'a'.toNat)
  else if isAsciiDigit c then some (digitValue c + 26)
  else none

/-- The least digit after which a number goes on at a place, which counts in steps of 36. -/
def threshold (place bias : Nat) : Nat := min 26 (max 1 (place - bias))

/-- Divides a distance by 35 until it is small, and counts the places. -/
def shorten (distance places : Nat) : Nat × Nat :=
  if 455 < distance then shorten (distance / 35) (places + 36) else (distance, places)
termination_by distance
decreasing_by exact Nat.div_lt_self (by omega) (by omega)

/-- The bias behind a number that was the distance of two characters. -/
def adapt (distance length : Nat) (isFirst : Bool) : Nat :=
  let d := if isFirst then distance / 700 else distance / 2
  let (d, places) := shorten (d + d / length) 0
  places + 36 * d / (d + 38)

/-- What has been read of a label. -/
structure Progress where
  /-- The characters so far. -/
  chars : List Char
  /-- The code point of the last one. -/
  codePoint : Nat := 0x80
  /-- The place behind the last one. -/
  index : Nat := 0
  /-- The bias of the next number. -/
  bias : Nat := 72
  /-- What has been read of the next number. -/
  value : Nat := 0
  /-- What the next digit counts. -/
  weight : Nat := 1
  /-- The place of the next digit. -/
  place : Nat := 36

/-- Puts in the character that a number gives. -/
def Progress.put? (p : Progress) (value : Nat) (isFirst : Bool) : Option Progress :=
  let length := p.chars.length + 1
  let codePoint := p.codePoint + (p.index + value) / length
  let index := (p.index + value) % length
  if codePoint.isValidChar then
    some {
      chars := p.chars.take index ++ Char.ofNat codePoint :: p.chars.drop index
      codePoint, index := index + 1, bias := adapt value length isFirst }
  else none

/-- Reads digits; the last one ends a number. -/
def readDigits? (p : Progress) (isFirst : Bool) : List Char → Option (List Char)
  | [] => if p.place = 36 then some p.chars else none
  | c :: rest =>
    match digit? c with
    | none => none
    | some d =>
      let value := p.value + d * p.weight
      let t := threshold p.place p.bias
      if d < t then
        match p.put? value isFirst with
        | some p => readDigits? p false rest
        | none => none
      else
        readDigits?
          { p with value, weight := p.weight * (36 - t), place := p.place + 36 } isFirst rest

/-- The characters that a label in ASCII stands for. -/
def decode? (s : List Char) : Option (List Char) :=
  match Chars.splitLast? '-' s with
  | some ([], _) => readDigits? { chars := [] } true s
  | some (ascii, digits) => readDigits? { chars := ascii } true digits
  | none => readDigits? { chars := [] } true s

end PageModules.Punycode
