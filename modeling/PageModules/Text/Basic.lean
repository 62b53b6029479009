import PageModules.Text.Classes

/-!
# Cutting and trimming text

The operations on text that the rest of the library is written in.  Each is defined on lists of
characters, in the namespace `Chars`; the namespace `Text` lifts the common ones to strings.

* `Chars.words` cuts at white space and drops the empty pieces; `Chars.squeeze` writes each run of
  white space as one space and none at either end.
* `Chars.splitAt?` cuts at the first occurrence of a character, `Chars.splitLast?` at the last one.
* `Chars.find?` is the index of the first occurrence of a piece of text.
-/

namespace PageModules

namespace Chars

open Text (isBlank lower)

/-! ### White space -/

/-- Drops the blanks in front. -/
def trimStart (s : List Char) : List Char := s.dropWhile isBlank

/-- Drops the blanks at the end. -/
def trimEnd (s : List Char) : List Char := (s.reverse.dropWhile isBlank).reverse

/-- Drops the blanks at both ends. -/
def trim (s : List Char) : List Char := trimEnd (trimStart s)

/-- Drops, at both ends, the characters of a class. -/
def trimOf (drop : Char → Bool) (s : List Char) : List Char :=
  ((s.dropWhile drop).reverse.dropWhile drop).reverse

/-- The pieces between blanks, the empty ones left out.  `word` is the piece being read, its last
character first. -/
def wordsFrom (word : List Char) : List Char → List (List Char)
  | [] => if word.isEmpty then [] else [word.reverse]
  | c :: s =>
    if isBlank c then
      if word.isEmpty then wordsFrom [] s else word.reverse :: wordsFrom [] s
    else wordsFrom (c :: word) s

/-- The maximal runs of characters that are not blank, in order. -/
def words (s : List Char) : List (List Char) := wordsFrom [] s

/-- Writes each run of blanks as one space; a run is skipped while nothing has been written.  The
flags say whether something has been written and whether the last character read was a blank. -/
def squeezeFrom (written afterBlank : Bool) : List Char → List Char
  | [] => []
  | c :: s =>
    if isBlank c then
      if afterBlank || !written then squeezeFrom written true s
      else ' ' :: squeezeFrom written true s
    else c :: squeezeFrom true false s

/-- Writes each run of blanks as one space, without blanks at the ends. -/
def squeeze (s : List Char) : List Char := trim (squeezeFrom false false s)

/-- Whether every character is a blank. -/
def isBlankText (s : List Char) : Bool := s.all isBlank

/-! ### Case -/

/-- Lowercases the ASCII letters. -/
def lowercase (s : List Char) : List Char := s.map lower

/-- Equality up to the case of ASCII letters. -/
def sameIgnoringCase (s t : List Char) : Bool := lowercase s == lowercase t

/-! ### Pieces -/

/-- The index of the first occurrence of `piece`. -/
def find? (piece : List Char) : List Char → Option Nat
  | [] => if piece.isEmpty then some 0 else none
  | c :: s =>
    if piece.isPrefixOf (c :: s) then some 0 else (find? piece s).map (· + 1)

/-- Whether `piece` occurs in `s`. -/
def containsPiece (piece s : List Char) : Bool := (find? piece s).isSome

/-- What stands before and after the first `c`. -/
def splitAt? (c : Char) : List Char → Option (List Char × List Char)
  | [] => none
  | d :: s => if d = c then some ([], s) else (splitAt? c s).map fun p => (d :: p.1, p.2)

/-- What stands before and after the last `c`. -/
def splitLast? (c : Char) (s : List Char) : Option (List Char × List Char) :=
  (splitAt? c s.reverse).map fun p => (p.2.reverse, p.1.reverse)

/-- Replaces the first occurrence of `piece` by `by'`. -/
def replaceFirst (piece by' s : List Char) : List Char :=
  match find? piece s with
  | some i => s.take i ++ by' ++ s.drop (i + piece.length)
  | none => s

end Chars

namespace Text

/-! ### The same on strings -/

/-- Applies a function on lists of characters to a string. -/
def mapChars (f : List Char → List Char) (s : String) : String := String.ofList (f s.toList)

/-- Drops the blanks at both ends. -/
def trim (s : String) : String := mapChars Chars.trim s

/-- Lowercases the ASCII letters. -/
def lowercase (s : String) : String := mapChars Chars.lowercase s

/-- Writes each run of blanks as one space, without blanks at the ends. -/
def squeeze (s : String) : String := mapChars Chars.squeeze s

/-- The maximal runs of characters that are not blank, in order. -/
def words (s : String) : List String := (Chars.words s.toList).map String.ofList

/-- Whether every character is a blank. -/
def isBlankText (s : String) : Bool := Chars.isBlankText s.toList

/-- Equality up to the case of ASCII letters. -/
def sameIgnoringCase (s t : String) : Bool := Chars.sameIgnoringCase s.toList t.toList

/-- What follows `piece`, where `s` starts with it. -/
def dropPiece? (piece s : String) : Option String :=
  (piece.toList.isPrefixOf? s.toList).map String.ofList

/-- What precedes `piece`, where `s` ends with it. -/
def dropFinal? (piece s : String) : Option String :=
  (piece.toList.isSuffixOf? s.toList).map String.ofList

/-- Whether `s` starts with `piece`. -/
def startsWith (piece s : String) : Bool := piece.toList.isPrefixOf s.toList

/-- Whether `piece` occurs in `s`. -/
def containsPiece (piece s : String) : Bool := Chars.containsPiece piece.toList s.toList

/-- The pieces between the occurrences of `c`. -/
def splitOn (c : Char) (s : String) : List String := (s.toList.splitOn c).map String.ofList

/-- Writes `d` for each `c`. -/
def replaceChar (c d : Char) (s : String) : String :=
  mapChars (List.map fun e => if e = c then d else e) s

end Text

end PageModules
