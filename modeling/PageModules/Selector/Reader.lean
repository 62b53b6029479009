import PageModules.Selector.Basic

/-!
# Reading selectors

`Selector.ofText` reads a list of alternatives separated by commas; an alternative that is malformed
is left out.  An alternative is written as compounds separated by blanks, then a position such as
`:first-child`, then `@` and the name of an attribute.  A compound is a tag name or `*`, followed by
parts of the forms `.class`, `[name]` and `[name="value"]`.
-/

namespace PageModules

open Text (isAsciiLetter isAsciiDigit)

namespace AttrTest

/-- Whether a character is a quotation mark. -/
def isQuote (c : Char) : Bool := c == '"' || c == '\''

/-- Reads what stands between the brackets. -/
def ofChars? (s : List Char) : Option AttrTest :=
  let (name, value) := match Chars.splitAt? '=' s with
    | some (name, value) => (name, some value)
    | none => (s, none)
  let name := Chars.lowercase (Chars.trim name)
  if name.isEmpty then none
  else some ⟨String.ofList name,
    value.map fun v => String.ofList (Chars.trimOf isQuote (Chars.trim v))⟩

end AttrTest

namespace Compound

/-- Whether a character starts a part of a compound. -/
def startsPart (c : Char) : Bool := c == '.' || c == '['

/-- Whether a character may stand in the name of a tag. -/
def isTagChar (c : Char) : Bool := isAsciiLetter c || isAsciiDigit c || c == '-' || c == '*'

/-- Reads the parts behind the tag.  `fuel` is greater than the length of the text. -/
def parts? (c : Compound) : (fuel : Nat) → List Char → Option Compound
  | 0, _ => none
  | _ + 1, [] => some c
  | fuel + 1, '.' :: s =>
    let name := s.takeWhile fun d => !startsPart d
    if name.isEmpty then none
    else
      parts? { c with classes := c.classes ++ [String.ofList (Chars.lowercase name)] } fuel
        (s.dropWhile fun d => !startsPart d)
  | fuel + 1, '[' :: s =>
    match Chars.splitAt? ']' s with
    | some (inside, rest) =>
      (AttrTest.ofChars? inside).bind fun t => parts? { c with tests := c.tests ++ [t] } fuel rest
    | none => none
  | _ + 1, _ => none

/-- Reads a compound, which has at least one condition or is `*`. -/
def ofChars? (s : List Char) : Option Compound :=
  let tag := s.takeWhile fun c => !startsPart c
  let isStar := tag = ['*']
  if !tag.all isTagChar then none
  else
    let start : Compound :=
      ⟨if tag.isEmpty || isStar then none else some (String.ofList (Chars.lowercase tag)), [], []⟩
    (parts? start (s.length + 1) (s.dropWhile fun c => !startsPart c)).filter fun c =>
      isStar || c != ⟨none, [], []⟩

end Compound

namespace Pick

/-- Reads the position behind the colon. -/
def ofText? : String → Option Pick
  | "first-child" => some first
  | "first-of-type" => some first
  | "last-child" => some last
  | "last-of-type" => some last
  | _ => none

end Pick

namespace SelectorPath

/-- Cuts a text behind the last closing bracket. -/
def splitBrackets (s : List Char) : List Char × List Char :=
  match Chars.splitLast? ']' s with
  | some (before, after) => (before ++ [']'], after)
  | none => ([], s)

/-- The path of the given compounds; none if there are no compounds. -/
def ofCompounds? (compounds : List Compound) (pick : Pick) (attr : Option String) :
    Option SelectorPath :=
  compounds.getLast?.map fun target => ⟨compounds.dropLast, target, pick, attr⟩

/-- Reads an alternative.  The attribute and the position count only behind all brackets. -/
def ofChars? (s : List Char) : Option SelectorPath :=
  let (head, tail) := splitBrackets (Chars.trim s)
  let (tail, attr) := match Chars.splitLast? '@' tail with
    | some (tail, name) =>
      let name := Chars.lowercase (Chars.trim name)
      (tail, if name.isEmpty then none else some (String.ofList name))
    | none => (tail, none)
  let (tail, pick) := match Chars.splitLast? ':' tail with
    | some (tail, position) => (tail, Pick.ofText? (String.ofList (Chars.trim position)))
    | none => (tail, some .all)
  match pick, (Chars.words (head ++ tail)).mapM Compound.ofChars? with
  | some pick, some compounds => ofCompounds? compounds pick attr
  | _, _ => none

end SelectorPath

namespace Selector

/-- Reads a selector; malformed alternatives are left out. -/
def ofText (s : String) : Selector :=
  ⟨(s.toList.splitOn ',').filterMap SelectorPath.ofChars?⟩

end Selector

end PageModules
