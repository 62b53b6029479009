import PageModules.Address.Escapes
import PageModules.Address.Punycode
import PageModules.Number.Decimal

/-!
# Hosts of addresses

`isWebHost` tells the well-formed hosts of addresses of the web, `isPlainHost` those of other
addresses.  A host is a domain, four numbers or an address of version 6 in brackets; a domain whose
last label is a number has to be four numbers.
-/

namespace PageModules.Absolute

open Text (isAsciiDigit isHexDigit hexValue? inRanges lower)

/-! ### Numbers in hosts -/

/-- The value of a number of an address of four numbers, whose notation may be octal or
hexadecimal. -/
def hostNumber? (s : List Char) : Option Nat :=
  let digits := fun (base : Nat) (ds : List Char) =>
    ds.foldl (fun n c => n.bind fun n => (hexValue? c).bind fun d =>
      if d < base then some (base * n + d) else none) (some 0)
  match s with
  | [] => none
  | '0' :: 'x' :: t => digits 16 t
  | '0' :: 'X' :: t => digits 16 t
  | '0' :: t => digits 8 t
  | t => digits 10 t

/-- The parts of a domain, without an empty last one. -/
def labels (domain : List Char) : List (List Char) :=
  let parts := domain.splitOn '.'
  if 1 < parts.length ∧ parts.getLast? = some [] then parts.dropLast else parts

/-- Whether a domain has to be read as an address of four numbers. -/
def endsInNumber (domain : List Char) : Bool :=
  match (labels domain).getLast? with
  | some last =>
    (!last.isEmpty && last.all isAsciiDigit) ||
      ((['0', 'x'].isPrefixOf? (Chars.lowercase last)).any fun t => t.all isHexDigit)
  | none => false

/-- Whether a domain is an address of at most four numbers. -/
def isFourNumbers (domain : List Char) : Bool :=
  match (labels domain).mapM hostNumber? with
  | some numbers =>
    numbers.length ≤ 4 && numbers.dropLast.all (· ≤ 255) &&
      numbers.getLast?.any fun n => n < Nat.pow 256 (5 - numbers.length)
  | none => false

/-- Whether a piece is a number of four decimal digits of an address of version 6. -/
def isByteNumber (s : List Char) : Bool :=
  !s.isEmpty && s.all isAsciiDigit && s.length ≤ 3 && Binary64.digitsValue s ≤ 255 &&
    (s.length = 1 || s.head? != some '0')

/-- The number of groups of a part of an address of version 6; none if it is malformed. -/
def groupCount? (s : List Char) (mayEndInFour : Bool) : Option Nat :=
  if s.isEmpty then some 0
  else
    let groups := s.splitOn ':'
    let isGroup := fun g : List Char => !g.isEmpty && g.length ≤ 4 && g.all isHexDigit
    if groups.all isGroup then some groups.length
    else if mayEndInFour && groups.dropLast.all isGroup then
      groups.getLast?.bind fun last =>
        let bytes := last.splitOn '.'
        if bytes.length = 4 && bytes.all isByteNumber then some (groups.length + 1) else none
    else none

/-- Whether a text is an address of version 6. -/
def isVersionSix (s : List Char) : Bool :=
  match Chars.find? [':', ':'] s with
  | none => groupCount? s true == some 8
  | some i =>
    match groupCount? (s.take i) false, groupCount? (s.drop (i + 2)) true with
    | some a, some b => a + b ≤ 7
    | _, _ => false

/-! ### Domains -/

/-- The characters that no host has. -/
def forbiddenInHost : List Char :=
  ['\x00', '\t', '\n', '\r', ' ', '#', '/', ':', '<', '>', '?', '@', '[', '\\', ']', '^', '|']

/-- Characters that stand in no domain: blanks, controls of joining and direction, characters of
private use, and those that are short for a text with a forbidden character. -/
def unnamedRanges : List (Nat × Nat) :=
  [(0x80, 0xA0), (0xA8, 0xA8), (0xAF, 0xAF), (0xB4, 0xB4), (0xB8, 0xB8), (0x2D8, 0x2DD),
    (0x37A, 0x37A), (0x384, 0x385), (0x600, 0x605), (0x61C, 0x61C), (0x6DD, 0x6DD),
    (0x70F, 0x70F), (0x890, 0x891), (0x8E2, 0x8E2), (0x115F, 0x1160), (0x1680, 0x1680),
    (0x17B4, 0x17B5), (0x1806, 0x1806), (0x180E, 0x180E), (0x1FBD, 0x1FBD), (0x1FBF, 0x1FC1),
    (0x1FCD, 0x1FCF), (0x1FDD, 0x1FDF), (0x1FED, 0x1FEE), (0x1FFD, 0x1FFE), (0x2000, 0x200A),
    (0x200D, 0x200F), (0x2017, 0x2017), (0x2024, 0x2026), (0x2028, 0x202F), (0x203E, 0x203E),
    (0x2047, 0x2049), (0x205F, 0x205F), (0x2061, 0x2063), (0x2066, 0x206F), (0x2100, 0x2101),
    (0x2105, 0x2106), (0x2488, 0x249B), (0x2A74, 0x2A74), (0x2FF0, 0x2FFB), (0x3000, 0x3000),
    (0x309B, 0x309C), (0x3164, 0x3164), (0x33C2, 0x33C2), (0x33C7, 0x33C7), (0x33D8, 0x33D8),
    (0xE000, 0xF8FF), (0xFC5E, 0xFC63), (0xFDD0, 0xFDEF), (0xFDFA, 0xFDFB), (0xFE12, 0xFE13),
    (0xFE16, 0xFE16), (0xFE19, 0xFE19), (0xFE30, 0xFE30), (0xFE47, 0xFE4C), (0xFE52, 0xFE52),
    (0xFE55, 0xFE56), (0xFE5F, 0xFE5F), (0xFE64, 0xFE65), (0xFE68, 0xFE68), (0xFE6A, 0xFE6B),
    (0xFE70, 0xFE70), (0xFE72, 0xFE72), (0xFE74, 0xFE74), (0xFE76, 0xFE76), (0xFE78, 0xFE78),
    (0xFE7A, 0xFE7A), (0xFE7C, 0xFE7C), (0xFE7E, 0xFE7E), (0xFFA0, 0xFFA0), (0xFFE3, 0xFFE3),
    (0xFFF9, 0xFFFD), (0xFFFE, 0xFFFF), (0x110BD, 0x110BD), (0x110CD, 0x110CD),
    (0x13430, 0x13438), (0x1D173, 0x1D17A), (0x1F100, 0x1F100), (0xE0001, 0xE0001),
    (0xE0020, 0xE007F), (0xF0000, 0x10FFFF)]

/-- Characters that do not count in a domain. -/
def silentRanges : List (Nat × Nat) :=
  [(0xAD, 0xAD), (0x34F, 0x34F), (0x180B, 0x180D), (0x180F, 0x180F), (0x200B, 0x200B),
    (0x2060, 0x2060), (0x2064, 0x2064), (0xFE00, 0xFE0F), (0xFEFF, 0xFEFF), (0x1BCA0, 0x1BCA3),
    (0xE0100, 0xE01EF)]

/-- What a character stands for in a domain: full stops of other scripts and the wide forms of ASCII
are those of ASCII. -/
def plainForm (c : Char) : List Char :=
  let n := c.toNat
  if n < 0x80 then [lower c]
  else if inRanges silentRanges c then []
  else if n = 0x3002 || n = 0xFF61 then ['.']
  else if 0xFF01 ≤ n && n ≤ 0xFF5E then [lower (Char.ofNat (n - 0xFEE0))]
  else [c]

/-- Whether a character may stand in a domain. -/
def isDomainChar (c : Char) : Bool :=
  0x20 < c.toNat && c ≠ '\x7f' && c ≠ '%' && !forbiddenInHost.contains c &&
    !inRanges unnamedRanges c

/-- Whether a label is well-formed: one that starts with `xn--` has to stand for characters beyond
ASCII, in the form that they have in domains. -/
def isLabel (s : List Char) : Bool :=
  match s with
  | 'x' :: 'n' :: '-' :: '-' :: code =>
    (Punycode.decode? code).any fun chars =>
      chars.any (0x80 ≤ ·.toNat) && chars.all fun c => isDomainChar c && plainForm c == [c]
  | _ => true

/-- Whether a text is a well-formed domain or an address of four numbers. -/
def isDomain (s : List Char) : Bool :=
  let domain := s.flatMap plainForm
  !domain.isEmpty && domain.all isDomainChar && (domain.splitOn '.').all isLabel &&
    (!endsInNumber domain || isFourNumbers domain)

/-- Whether a host is a well-formed one of the web. -/
def isWebHost (host : List Char) : Bool :=
  match host with
  | '[' :: inside => inside.getLast? == some ']' && isVersionSix inside.dropLast
  | _ => isDomain (Escapes.decode id host)

/-- Whether a host is a well-formed one of another scheme. -/
def isPlainHost (host : List Char) : Bool :=
  match host with
  | '[' :: inside => inside.getLast? == some ']' && isVersionSix inside.dropLast
  | _ => host.all fun c => !forbiddenInHost.contains c

end PageModules.Absolute
