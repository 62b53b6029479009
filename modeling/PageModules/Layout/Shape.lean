import PageModules.Layout.Fraction
import PageModules.Markup.Styling
import PageModules.Text.Pattern

/-!
# Sections, rows and columns

Which elements look like sections, rows and columns, and how a row is divided.  A marker counts
first, then the inline style, then the names of the classes; a width may also be given by an author
override.

* `Element.columnStructure` is the division of a row by the widths of its children
  (`Element.width?`).
* `Element.innerWidth?`, `Element.rowGap?`, `Element.columnGap?` and `Element.verticalAlign?` are
  the settings of a section or a row.
-/

namespace PageModules

open Text (Pattern isDigit isAsciiDigit)
open Text.Pattern (sequence choice folded foldedChoice optional plus star blanks)

namespace Layout

/-! ### Class names -/

/-- The elements that are sections. -/
def sectionTags : List String :=
  ["section", "header", "footer", "main", "article", "aside", "nav"]

/-- The pieces of class names and identifiers that make a `div` a section. -/
def sectionWords : List String :=
  ["section", "container", "wrapper", "hero", "banner", "block", "area", "zone", "region", "panel",
    "segment", "part"]

/-- The pieces of class names that make an element as wide as the page. -/
def fullWidthWords : List String :=
  ["full-width", "fullwidth", "full-bleed", "w-full", "w-screen"]

/-- The widths in pixels that class names give the contents of a section. -/
def containerWidths : List (String × Int) :=
  [("container-sm", 540), ("container-md", 720), ("container-lg", 960), ("container-xl", 1140),
    ("container-xxl", 1320), ("container", 1200)]

/-- The widths in percent that classes give a column. -/
def widthClasses : List (String × Binary64) :=
  [("w-1/2", hundredths 5000), ("w-1/3", hundredths 3333), ("w-2/3", hundredths 6666),
    ("w-1/4", hundredths 2500), ("w-3/4", hundredths 7500), ("w-1/5", hundredths 2000),
    ("w-2/5", hundredths 4000), ("w-3/5", hundredths 6000), ("w-4/5", hundredths 8000),
    ("w-1/6", hundredths 1666), ("w-5/6", hundredths 8333), ("w-full", hundredths 10000)]

/-- The text itself. -/
def word (s : String) : Pattern := Pattern.text s

/-- A class of a row, as a whole word. -/
def rowClass : Pattern :=
  sequence [.wordBoundary, choice (["row", "flex", "grid", "columns", "d-flex", "flexbox", "layout",
    "items", "group", "list"].map word), .wordBoundary]

/-- The start of a class of a column. -/
def columnClass : Pattern :=
  sequence [.wordBoundary, choice (["col", "column", "cell", "grid-item", "flex-item", "item",
    "card", "box", "tile"].map word)]

/-- A class that gives a width. -/
def widthClass : Pattern :=
  sequence [.wordBoundary, word "w-",
    choice [sequence [plus isDigit, word "/", plus isDigit], word "full", word "auto"],
    .wordBoundary]

/-- A declaration that makes an element a column. -/
def columnStyle : Pattern :=
  choice [
    sequence [folded "flex", optional (folded "-basis"), blanks, word ":", blanks, .char isDigit],
    sequence [folded "width", blanks, word ":", blanks, plus isDigit,
      optional (sequence [word ".", plus isDigit]), word "%"]]

/-- A class that gives a width in twelfths, the number of which is captured. -/
def spanClass : Pattern :=
  sequence [.wordBoundary, word "col-",
    optional (sequence [choice (["sm", "md", "lg", "xl", "xxl"].map word), word "-"]),
    .capture 1 (plus isDigit), .wordBoundary]

/-- A width in twelfths in a grid, the number of which is captured. -/
def gridSpan : Pattern := sequence [.textStart, folded "span", blanks, .capture 1 (plus isDigit)]

/-- A length in pixels, the number of which is captured. -/
def pixelLength : Pattern :=
  sequence [.textStart, .capture 1 (plus isDigit), word "px", .textEnd]

/-- The number that a pattern captures. -/
def captured? (p : Pattern) (s : String) : Option Binary64 :=
  ((p.find? s.toList).bind (·.group? 1)).bind Binary64.ofChars?

/-- So many twelfths in percent. -/
def twelfths (n : Binary64) : Binary64 := (n.div (.ofInt 12)).mul (.ofInt 100)

/-! ### Values -/

/-- The number of a percentage. -/
def percent? (value : String) : Option Binary64 :=
  let l := Length.ofText value
  if l.unit = "%" then some l.number else none

/-- The basis of a `flex` value: its only part or the third one. -/
def flexBasis? (value : String) : Option Binary64 :=
  match Text.words value with
  | [single] => percent? single
  | _ :: _ :: basis :: _ => percent? basis
  | _ => none

/-- The number of pixels of a gap, without a unit or in pixels. -/
def gap? (value : String) : Option Int :=
  let l := Length.ofText value
  if l.unit = "" ∨ l.unit = "px" then some l.number.toInt64 else none

/-- The greatest width in pixels that a style sets. -/
def maxWidth? (m : StyleMap) : Option Int := do
  let value ← m.get? "max-width"
  let digits ← ((pixelLength.find? (Text.trim value).toList).bind (·.group? 1))
  let n : Int := (Binary64.digitsValue digits : Nat)
  if digits.all isAsciiDigit && Binary64.isInt64 n then some n else none

/-- The vertical alignment of a row by the value of `align-items`. -/
def alignments : List (String × String) :=
  [("flex-start", "top"), ("start", "top"), ("flex-end", "bottom"), ("end", "bottom"),
    ("center", "center"), ("stretch", "stretch"), ("baseline", "baseline")]

end Layout

namespace Element

open Layout

/-! ### Shapes -/

/-- The value of the `class` attribute in lowercase. -/
def lowerClass (e : Element) : String := Text.lowercase e.classAttr

/-- Whether the marker names the given type, in any case. -/
def isMarkedAs (e : Element) (type : String) : Bool :=
  (e.attr? markerName).any fun m => Text.sameIgnoringCase (Text.trim m) type

/-- Whether the classes or the identifier name a section. -/
def hasSectionWord (e : Element) : Bool :=
  let id := Text.lowercase ((e.attr? "id").getD "")
  sectionWords.any fun w => Text.containsPiece w e.lowerClass || Text.containsPiece w id

/-- Whether an element looks like a section. -/
def isSectionLike (e : Element) : Bool :=
  sectionTags.contains e.tagName || e.isMarkedAs "section" ||
    (e.tagName == "div" && e.hasSectionWord)

/-- Whether the style lays the children out in a row. -/
def hasRowStyle (e : Element) : Bool :=
  match (e.style.get? "display").map Text.lowercase with
  | some display =>
    if ["flex", "inline-flex"].contains display then
      !(e.style.get? "flex-direction").any fun d => Text.startsWith "column" (Text.lowercase d)
    else ["grid", "inline-grid"].contains display && e.style.contains "grid-template-columns"
  | none => false

/-- Whether an element looks like a row. -/
def isRowLike (e : Element) : Bool :=
  e.isMarkedAs "row" || e.hasRowStyle || rowClass.isIn e.lowerClass.toList

/-- Whether an element looks like a column. -/
def isColumnLike (e : Element) : Bool :=
  e.isMarkedAs "column" || columnClass.isIn e.lowerClass.toList ||
    widthClass.isIn e.lowerClass.toList || (e.attr? "style").any fun s => columnStyle.isIn s.toList

/-! ### Division of a row -/

/-- The width of a column in percent, where it can be told. -/
def width? (e : Element) : Option Binary64 :=
  match e.override? "width" with
  | some fraction => some (percentage (Text.trim fraction))
  | none =>
    ((e.style.get? "width").bind percent?).or <|
    ((e.style.get? "flex-basis").bind percent?).or <|
    ((e.style.get? "flex").bind flexBasis?).or <|
    ((captured? spanClass e.lowerClass).map twelfths).or <|
    ((widthClasses.find? fun w => (Text.words e.lowerClass).contains w.1).map (·.2)).or <|
    ((e.style.get? "grid-column").bind fun g => (captured? gridSpan (Text.trim g)).map twelfths)

/-- The division of a row into columns, such as `1_3,2_3`. -/
def columnStructure (e : Element) : String :=
  match e.override? "columns" with
  | some columns => Text.trim columns
  | none =>
    let children := e.childElements
    if children.length ≤ 1 then "1"
    else match children.mapM width? with
      | some widths => ",".intercalate (widths.map nearestFraction)
      | none => equalColumns children.length

/-! ### Settings -/

/-- Whether there is a child element or text that is not blank. -/
def hasSignificantContent (e : Element) : Bool := !e.childElements.isEmpty || e.hasDirectText

/-- Whether a section is as wide as the page. -/
def isFullWidth (e : Element) : Bool :=
  fullWidthWords.any (Text.containsPiece · e.lowerClass) ||
    (e.style.get? "width").any (fun w => Text.sameIgnoringCase (Text.trim w) "100vw") ||
    (e.override? "fullwidth").any fun v => Text.trim v == "true"

/-- The greatest width in pixels of a child that holds the contents of a section. -/
def containerWidth? (e : Element) : Option Int :=
  e.childElements.findSome? fun c =>
    if ["container", "inner", "content"].any (Text.containsPiece · c.lowerClass) then
      maxWidth? c.style
    else none

/-- The greatest width in pixels of the contents of a section. -/
def innerWidth? (e : Element) : Option Int :=
  match e.override? "inner_width" with
  | some width => some (Length.leadingInteger width)
  | none =>
    e.containerWidth?.or <| (maxWidth? e.style).or <|
      (containerWidths.find? fun w => Text.containsPiece w.1 e.lowerClass).map (·.2)

/-- The vertical alignment of the columns of a row. -/
def verticalAlign? (e : Element) : Option String :=
  match e.override? "vertical_align" with
  | some align => some (Text.trim align)
  | none =>
    (e.style.get? "align-items").bind fun v => alignments.lookup (Text.trim (Text.lowercase v))

/-- The gap in pixels between the columns of a row; of two parts of a `gap` the second counts. -/
def columnGap? (e : Element) : Option Int :=
  match e.override? "column_gap" with
  | some gap => some (Length.leadingInteger gap)
  | none =>
    match (e.style.get? "column-gap").or (e.style.get? "grid-column-gap") with
    | some v => gap? v
    | none => (e.style.get? "gap").bind fun g =>
      match Text.words g with
      | _ :: second :: _ => gap? second
      | [only] => gap? only
      | [] => none

/-- The gap in pixels between the rows of a section; of two parts of a `gap` the first counts. -/
def rowGap? (e : Element) : Option Int :=
  match e.override? "row_gap" with
  | some gap => some (Length.leadingInteger gap)
  | none =>
    match (e.style.get? "row-gap").or (e.style.get? "grid-row-gap") with
    | some v => gap? v
    | none => (e.style.get? "gap").bind fun g => (Text.words g).head?.bind gap?

end Element

end PageModules
