import PageModules.Text.Basic

/-!
# Escaped bytes

In addresses `%41` stands for a byte.  `Escapes.decodeBytes` resolves the escapes of bytes, and
`Escapes.readChars` reads bytes as UTF-8: bytes that are not UTF-8 become `U+FFFD`, one for each
longest start of a character.
-/

namespace PageModules.Escapes

open Text (hexValue?)

/-- Resolves the escapes among bytes; `plain` is what a byte outside of an escape stands for. -/
def decodeBytes (plain : UInt8 → UInt8) : List UInt8 → List UInt8
  | b :: h :: l :: rest =>
    match hexValue? (Char.ofNat h.toNat), hexValue? (Char.ofNat l.toNat) with
    | some x, some y =>
      if b = 0x25 then UInt8.ofNat (16 * x + y) :: decodeBytes plain rest
      else plain b :: decodeBytes plain (h :: l :: rest)
    | _, _ => plain b :: decodeBytes plain (h :: l :: rest)
  | b :: rest => plain b :: decodeBytes plain rest
  | [] => []

/-- The character that stands for bytes that are not UTF-8. -/
def replacement : Char := '\uFFFD'

/-- How a character of several bytes goes on behind its first byte: the number of further bytes, the
bounds of the next one, and the bits that the first byte gives. -/
def sequenceOf? (first : UInt8) : Option (Nat × Nat × Nat × Nat) :=
  let n := first.toNat
  if 0xC2 ≤ n ∧ n ≤ 0xDF then some (1, 0x80, 0xBF, n - 0xC0)
  else if n = 0xE0 then some (2, 0xA0, 0xBF, 0)
  else if n = 0xED then some (2, 0x80, 0x9F, 13)
  else if 0xE1 ≤ n ∧ n ≤ 0xEF then some (2, 0x80, 0xBF, n - 0xE0)
  else if n = 0xF0 then some (3, 0x90, 0xBF, 0)
  else if 0xF1 ≤ n ∧ n ≤ 0xF3 then some (3, 0x80, 0xBF, n - 0xF0)
  else if n = 0xF4 then some (3, 0x80, 0x8F, 4)
  else none

/-- A character being read: how many bytes are missing, the bounds of the next one, and the bits so
far. -/
structure Partial where
  /-- The number of missing bytes. -/
  missing : Nat
  /-- The least next byte. -/
  least : Nat
  /-- The greatest next byte. -/
  greatest : Nat
  /-- The bits read so far. -/
  bits : Nat

/-- Reads the first byte of a character: the character, or what is being read. -/
def startChar (b : UInt8) : Option Char × Option Partial :=
  if b.toNat < 0x80 then (some (Char.ofNat b.toNat), none)
  else match sequenceOf? b with
    | some (missing, least, greatest, bits) => (none, some ⟨missing, least, greatest, bits⟩)
    | none => (some replacement, none)

/-- Reads bytes as UTF-8. -/
def readChars (pending : Option Partial) : List UInt8 → List Char
  | [] => if pending.isSome then [replacement] else []
  | b :: rest =>
    let start := fun (before : List Char) =>
      let (c, next) := startChar b
      before ++ c.toList ++ readChars next rest
    match pending with
    | none => start []
    | some p =>
      if p.least ≤ b.toNat ∧ b.toNat ≤ p.greatest then
        let bits := 64 * p.bits + (b.toNat - 0x80)
        if p.missing ≤ 1 then Char.ofNat bits :: readChars none rest
        else readChars (some ⟨p.missing - 1, 0x80, 0xBF, bits⟩) rest
      else start [replacement]

/-- The characters of a piece whose escapes are resolved. -/
def decode (plain : UInt8 → UInt8) (s : List Char) : List Char :=
  readChars none (decodeBytes plain (String.ofList s).toUTF8.toList)

end PageModules.Escapes
