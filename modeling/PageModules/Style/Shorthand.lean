import PageModules.Style.StyleMap
import PageModules.Style.Color
import PageModules.Style.Length

/-!
# Shorthand properties

`Shorthand.expand` turns one declaration into longhand declarations; properties that are no
shorthand pass through.  `StyleMap.expand` does so for a whole style map, later declarations
replacing the values of earlier ones.

The parts of a `background`, `font`, shadow, `transform` or `filter` value are found by patterns,
wherever they stand in the value.
-/

namespace PageModules.Shorthand

open Text Text.Pattern Style

/-- Longhand declarations in order. -/
abbrev Declarations := List (String × String)

/-- Characters as a string. -/
abbrev str (s : List Char) : String := String.ofList s

/-! ### Boxes -/

/-- The four sides of a box, in the order of the one-to-four value rule. -/
def sides : List String := ["top", "right", "bottom", "left"]

/-- The four corners of a box, in the order of the one-to-four value rule. -/
def corners : List String := ["top-left", "top-right", "bottom-right", "bottom-left"]

/-- The one-to-four value rule: what the tokens of a value assign to the four sides.  Tokens after
the fourth are ignored. -/
def fourValues? : List (List Char) → Option (List (List Char))
  | [] => none
  | [all] => some [all, all, all, all]
  | [v, h] => some [v, h, v, h]
  | [t, h, b] => some [t, h, b, h]
  | t :: r :: b :: l :: _ => some [t, r, b, l]

/-- The values of a box property for top, right, bottom and left. -/
def boxValues? (value : List Char) : Option (List (List Char)) := fourValues? (splitTokens value)

/-- The declarations `name-side…` of a box property, for the given names of the sides. -/
def expandBox (names : List String) (value : List Char) : Declarations :=
  match boxValues? value with
  | some values => (names.zip values).map fun p => (p.1, str p.2)
  | none => []

/-- The names of a property on the four sides. -/
def sideNames (before after : String) : List String := sides.map fun side => before ++ side ++ after

/-- The names of the radius of the four corners. -/
def radiusNames : List String := corners.map fun corner => "border-" ++ corner ++ "-radius"

/-- Corner radii; a value with horizontal and vertical radii stays as it is. -/
def expandRadius (value : List Char) : Declarations :=
  if value.contains '/' then [("border-radius", str value)] else expandBox radiusNames value

/-! ### Borders -/

/-- The styles of a border. -/
def borderStyles : List String :=
  ["none", "hidden", "dotted", "dashed", "solid", "double", "groove", "ridge", "inset", "outset"]

/-- A length as a whole token. -/
def lengthToken : Pattern :=
  sequence [textStart, plus isDigit, optional (seq (text ".") (plus isDigit)),
    optional (foldedChoice ["px", "em", "rem", "%", "pt"]), textEnd]

/-- The parts of a border value: the first length, the first style, and all other tokens. -/
structure BorderParts where
  /-- The width. -/
  width : Option (List Char)
  /-- The style, in lowercase. -/
  style : Option (List Char)
  /-- The tokens that make up the colour. -/
  color : List (List Char)

/-- Adds a token to the parts of a border value. -/
def BorderParts.add (parts : BorderParts) (token : List Char) : BorderParts :=
  let low := Chars.lowercase token
  if parts.width.isNone && lengthToken.isIn token then { parts with width := some token }
  else if parts.style.isNone && borderStyles.any (·.toList == low) then
    { parts with style := some low }
  else { parts with color := parts.color ++ [token] }

/-- Width, style and colour of the four borders. -/
def expandBorder (value : List Char) : Declarations :=
  let parts := (splitTokens value).foldl BorderParts.add ⟨none, none, []⟩
  let color := if parts.color.isEmpty then none else some ([' '].intercalate parts.color)
  [("-width", parts.width), ("-style", parts.style), ("-color", color)].flatMap fun part =>
    match part.2 with
    | some v => (sideNames "border-" part.1).map fun name => (name, str v)
    | none => []

/-! ### Backgrounds -/

/-- The name of a gradient and its opening parenthesis. -/
def gradientStart : Pattern :=
  sequence
    [capture 1 (sequence [optional (folded "repeating-"),
      foldedChoice ["linear", "radial", "conic"], folded "-gradient"]), blanks, text "("]

/-- The first gradient of a value: what stands before it, the gradient with its name in lowercase,
and what stands after it. -/
def findGradient? (value : List Char) : Option (List Char × List Char × List Char) := do
  let m ← gradientStart.find? value
  let name ← m.group? 1
  let arguments ← balancedParens? ('(' :: m.after)
  return (m.before, Chars.lowercase name ++ arguments, m.after.drop (arguments.length - 1))

/-- A character of a quoted or bare address. -/
def isAddressChar (c : Char) : Bool := c != '\'' && c != '"' && c != ')' && !isBlank c

/-- A quote. -/
def isQuote (c : Char) : Bool := c == '\'' || c == '"'

/-- An image given by its address. -/
def urlPattern : Pattern :=
  sequence [folded "url", blanks, text "(", blanks, optional (char isQuote),
    capture 1 (plus isAddressChar), optional (char isQuote), blanks, text ")"]

/-- One of the given words, standing alone. -/
def wordOf (words : List String) : Pattern :=
  sequence [wordBoundary, foldedChoice words, wordBoundary]

/-- The size of a background. -/
def sizeWord : Pattern := wordOf ["cover", "contain", "auto"]

/-- A position of a background. -/
def positionWord : Pattern := wordOf ["center", "top", "bottom", "left", "right"]

/-- The repetition of a background. -/
def repeatWord : Pattern := wordOf ["no-repeat", "repeat-x", "repeat-y", "repeat"]

/-- What a background is fixed to. -/
def attachmentWord : Pattern := wordOf ["fixed", "scroll", "local"]

/-- The declaration of the first word that fits a pattern, in lowercase. -/
def wordDeclaration (name : String) (p : Pattern) (s : List Char) : Declarations :=
  match p.find? s with
  | some m => [(name, str (Chars.lowercase m.text))]
  | none => []

/-- Image, colour, size, position, repetition and attachment of a background.  A gradient leaves no
colour; an address replaces a gradient. -/
def expandBackground (value : List Char) : Declarations :=
  let gradient := findGradient? value
  let rest := match gradient with
    | some (before, _, after) => before ++ ' ' :: after
    | none => value
  let url := urlPattern.find? rest
  let rest := match url with
    | some m => m.before ++ ' ' :: m.after
    | none => rest
  let image := match url.bind (·.group? 1), gradient with
    | some address, _ => [("background-image", "url(" ++ str address ++ ")")]
    | none, some (_, g, _) => [("background-image", str g)]
    | none, none => []
  let color :=
    if url.isNone && gradient.isSome then []
    else match Color.find? rest with
      | some c => [("background-color", str c)]
      | none => []
  let positions := ((positionWord.findAll rest).take 2).map fun m => Chars.lowercase m.text
  let position :=
    if positions.isEmpty then []
    else [("background-position", str ([' '].intercalate positions))]
  image ++ color ++ wordDeclaration "background-size" sizeWord rest ++ position ++
    wordDeclaration "background-repeat" repeatWord rest ++
    wordDeclaration "background-attachment" attachmentWord rest

/-! ### Fonts -/

/-- A digit or a point. -/
def isNumeric (c : Char) : Bool := isDigit c || c == '.'

/-- What follows the size and the line height of a font. -/
def familyPattern : Pattern :=
  sequence [plus isNumeric, foldedChoice ["px", "em", "rem", "%", "pt", "vw", "vh"], blanks,
    optional (sequence [text "/", blanks, plus isNumeric,
      optional (foldedChoice ["px", "em", "rem", "%"])]),
    capture 1 (plus (· != '\n')), textEnd]

/-- The size of a font and its line height. -/
def sizePattern : Pattern :=
  sequence [
    capture 1 (seq (plus isNumeric) (foldedChoice ["px", "em", "rem", "%", "pt", "vw", "vh"])),
    optional (sequence [blanks, text "/", blanks,
      capture 2 (seq (plus isNumeric) (optional (foldedChoice ["px", "em", "rem", "%"])))])]

/-- The weight of a font. -/
def weightWord : Pattern :=
  wordOf ["100", "200", "300", "400", "500", "600", "700", "800", "900", "normal", "bold",
    "bolder", "lighter"]

/-- The slant of a font. -/
def slantWord : Pattern := wordOf ["italic", "oblique"]

/-- Family, size, line height, weight and style of a font.  Weight and style are looked for in
front of the size only. -/
def expandFont (value : List Char) : Declarations :=
  let family := match (familyPattern.find? value).bind (·.group? 1) with
    | some f =>
      let f := Chars.trim f
      if f.isEmpty then [] else [("font-family", str f)]
    | none => []
  let found := sizePattern.find? value
  let size := match found.bind (·.group? 1) with
    | some s => [("font-size", str s)]
    | none => []
  let height := match found.bind (·.group? 2) with
    | some h => [("line-height", str h)]
    | none => []
  let front := match found with
    | some m => m.before
    | none => value
  family ++ size ++ height ++ wordDeclaration "font-weight" weightWord front ++
    wordDeclaration "font-style" slantWord front

/-! ### Numbers -/

/-- The bound below which an integer is written without looking at its shortest digits. -/
def plainBound : Binary64 := Binary64.ofDecimal false 1 15

/-- A number rounded to four decimals, without a fraction where it is an integer. -/
def formatNumber (x : Binary64) : String :=
  let tenThousand := Binary64.ofInt 10000
  let x := Binary64.div (Binary64.round (Binary64.mul x tenThousand)) tenThousand
  if x.isInteger && Binary64.lt x.abs plainBound then toString x.toInt64 else x.plainText

/-- The number in a captured text. -/
def number? (m : Option Match) (index : Nat) : Option Binary64 :=
  (m.bind (·.group? index)).bind Binary64.ofChars?

/-! ### Shadows -/

/-- The word for a shadow inside the box. -/
def insetWord : Pattern := wordOf ["inset"]

/-- A number, with or without a unit of pixels. -/
def shadowNumber : Pattern :=
  seq (capture 1 (seq (optional (text "-")) (plus isNumeric))) (optional (text "px"))

/-- Removes every match of a pattern. -/
def removeAll (p : Pattern) (s : List Char) : List Char :=
  match p.findAll s with
  | [] => s
  | ms => ms.flatMap (·.before) ++ ((ms.getLast?.map (·.after)).getD [])

/-- The colour of a shadow where none is given. -/
def defaultShadowColor : String := "rgba(0,0,0,0.3)"

/-- The colour of a shadow: a functional one anywhere, or else the first token that is a name. -/
def shadowColor? (s : List Char) : Option (List Char) :=
  (Color.findFunctional? s).or ((splitTokens s).find? Color.isNamed)

/-- Style, inset, colour and lengths of a shadow.  Of a list of shadows only the first counts. -/
def expandShadow (name : String) (value : List Char) (ofBox : Bool) : Declarations :=
  if Chars.sameIgnoringCase value "none".toList then [(name ++ "-style", "none")]
  else
    let item := firstItem value
    let isInset := ofBox && insetWord.isIn item
    let item := if isInset then removeAll insetWord item else item
    let color := shadowColor? item
    let item := match color with
      | some c => Chars.replaceFirst c [' '] item
      | none => item
    let numbers := (shadowNumber.findAll item).filterMap fun m => number? (some m) 1
    let names := if ofBox then ["horizontal", "vertical", "blur", "spread"]
      else ["horizontal", "vertical", "blur"]
    [(name ++ "-style", "custom")] ++
      (if isInset then [(name ++ "-inset", "true")] else []) ++
      [(name ++ "-color", (color.map str).getD defaultShadowColor)] ++
      (if numbers.isEmpty then []
        else names.zipIdx.map fun p =>
          (name ++ "-" ++ p.1, formatNumber (numbers.getD p.2 Binary64.zero)))

/-! ### Transforms -/

/-- An ASCII digit or a point. -/
def isPlainNumeric (c : Char) : Bool := isAsciiDigit c || c == '.'

/-- A number as the argument of a function, with a sign where `signed` asks for it, followed or not
by a unit. -/
def argument (index : Nat) (signed : Bool) (unit : String) : Pattern :=
  seq (capture index (seq (if signed then optional (text "-") else empty) (plus isPlainNumeric)))
    (if unit = "" then empty else optional (folded unit))

/-- A function of one argument. -/
def oneArgument (name : String) (signed : Bool) (unit : String) : Pattern :=
  sequence [folded name, blanks, text "(", blanks, argument 1 signed unit, blanks, text ")"]

/-- A function of one or two arguments. -/
def twoArguments (name : String) (signed : Bool) (unit : String) : Pattern :=
  sequence [folded name, blanks, text "(", blanks, argument 1 signed unit,
    optional (sequence [blanks, text ",", blanks, argument 2 signed unit]), blanks, text ")"]

/-- Puts a number under a name, behind all declarations, and drops an earlier one of that name. -/
def putNumber (out : Declarations) (name : String) (x : Option Binary64) : Declarations :=
  match x with
  | some x => (out.filter fun p => p.1 != name) ++ [(name, formatNumber x)]
  | none => out

/-- A factor as a percentage. -/
def percent (x : Binary64) : Binary64 := Binary64.mul x (Binary64.ofInt 100)

/-- The parts of a transformation.  Where a part is given twice, the one for a single axis
counts. -/
def expandTransform (value : List Char) : Declarations :=
  if Chars.sameIgnoringCase value "none".toList then [("transform", "none")]
  else
    let one := fun name signed unit => number? ((oneArgument name signed unit).find? value) 1
    let two := fun name signed unit =>
      let m := (twoArguments name signed unit).find? value
      (number? m 1, number? m 2)
    let (scale, scaleSecond) := two "scale" false ""
    let scaleSecond := if scale.isSome then scaleSecond else none
    let scaleFirst := if scaleSecond.isSome then scale else none
    let (skewFirst, skewSecond) := two "skew" true "deg"
    let (moveFirst, moveSecond) := two "translate" true "px"
    [("scale", scale.map percent), ("scale-x", scaleFirst.map percent),
      ("scale-y", scaleSecond.map percent), ("scale-x", (one "scalex" false "").map percent),
      ("scale-y", (one "scaley" false "").map percent), ("rotate", one "rotate" true "deg"),
      ("skew-x", skewFirst), ("skew-y", skewSecond), ("skew-x", one "skewx" true "deg"),
      ("skew-y", one "skewy" true "deg"), ("translate-x", moveFirst), ("translate-y", moveSecond),
      ("translate-x", one "translatex" true "px"),
      ("translate-y", one "translatey" true "px")].foldl
      (fun out p => putNumber out ("transform-" ++ p.1) p.2) []

/-! ### Filters -/

/-- The filter functions in the order of their declarations: name, sign and unit of the
argument. -/
def filterFunctions : List (String × Bool × String) :=
  [("hue-rotate", true, "deg"), ("saturate", false, "%"), ("brightness", false, "%"),
    ("contrast", false, "%"), ("invert", false, "%"), ("sepia", false, "%"), ("blur", false, "px"),
    ("grayscale", false, "%"), ("opacity", false, "%")]

/-- The arguments of the first `drop-shadow`. -/
def dropShadow? (value : List Char) : Option (List Char) := do
  let start ← Chars.find? "drop-shadow".toList (Chars.lowercase value)
  let arguments ← balancedParens? ((value.drop start).dropWhile (· != '('))
  return Chars.trim ((arguments.drop 1).dropLast)

/-- The arguments of the filter functions. -/
def expandFilter (value : List Char) : Declarations :=
  if Chars.sameIgnoringCase value "none".toList then [("filter", "none")]
  else
    (filterFunctions.filterMap fun (name, signed, unit) =>
      ((oneArgument name signed unit).find? value).bind fun m =>
        (m.group? 1).map fun argument => ("filter-" ++ name, str argument)) ++
    match dropShadow? value with
    | some arguments => [("filter-drop-shadow", str arguments)]
    | none => []

/-! ### All properties -/

/-- The longhand declarations of one declaration. -/
def expand (property value : String) : Declarations :=
  let property := Text.lowercase property
  let value := Chars.trim value.toList
  match property with
  | "margin" => expandBox (sideNames "margin-" "") value
  | "padding" => expandBox (sideNames "padding-" "") value
  | "border" => expandBorder value
  | "border-width" => expandBox (sideNames "border-" "-width") value
  | "border-style" => expandBox (sideNames "border-" "-style") value
  | "border-color" => expandBox (sideNames "border-" "-color") value
  | "border-radius" => expandRadius value
  | "background" => expandBackground value
  | "font" => expandFont value
  | "box-shadow" => expandShadow "box-shadow" value true
  | "text-shadow" => expandShadow "text-shadow" value false
  | "transform" => expandTransform value
  | "filter" => expandFilter value
  | _ => [(property, str value)]

end PageModules.Shorthand

namespace PageModules.StyleMap

/-- Expands every declaration; later ones replace the values of earlier ones. -/
def expand (m : StyleMap) : StyleMap :=
  m.withProps (m.props.flatMap fun p => Shorthand.expand p.1 p.2)

end PageModules.StyleMap
