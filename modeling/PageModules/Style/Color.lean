import PageModules.Text.Pattern

/-!
# Colours in style values

`Color.find?` is the first colour in a text, `Color.findFunctional?` the first one that is written
with `#` or as a function; `Color.isValid` is the check for texts that are meant to be a colour.
-/

namespace PageModules.Color

open Text Text.Pattern

/-- The named colours and the keywords that stand for a colour. -/
def names : List String :=
  ["transparent", "inherit", "initial", "currentcolor",
    "aliceblue", "antiquewhite", "aqua", "aquamarine", "azure", "beige", "bisque", "black",
    "blanchedalmond", "blue", "blueviolet", "brown", "burlywood", "cadetblue", "chartreuse",
    "chocolate", "coral", "cornflowerblue", "cornsilk", "crimson", "cyan", "darkblue", "darkcyan",
    "darkgoldenrod", "darkgray", "darkgreen", "darkgrey", "darkkhaki", "darkmagenta",
    "darkolivegreen", "darkorange", "darkorchid", "darkred", "darksalmon", "darkseagreen",
    "darkslateblue", "darkslategray", "darkslategrey", "darkturquoise", "darkviolet", "deeppink",
    "deepskyblue", "dimgray", "dimgrey", "dodgerblue", "firebrick", "floralwhite", "forestgreen",
    "fuchsia", "gainsboro", "ghostwhite", "gold", "goldenrod", "gray", "green", "greenyellow",
    "grey", "honeydew", "hotpink", "indianred", "indigo", "ivory", "khaki", "lavender",
    "lavenderblush", "lawngreen", "lemonchiffon", "lightblue", "lightcoral", "lightcyan",
    "lightgoldenrodyellow", "lightgray", "lightgreen", "lightgrey", "lightpink", "lightsalmon",
    "lightseagreen", "lightskyblue", "lightslategray", "lightslategrey", "lightsteelblue",
    "lightyellow", "lime", "limegreen", "linen", "magenta", "maroon", "mediumaquamarine",
    "mediumblue", "mediumorchid", "mediumpurple", "mediumseagreen", "mediumslateblue",
    "mediumspringgreen", "mediumturquoise", "mediumvioletred", "midnightblue", "mintcream",
    "mistyrose", "moccasin", "navajowhite", "navy", "oldlace", "olive", "olivedrab", "orange",
    "orangered", "orchid", "palegoldenrod", "palegreen", "paleturquoise", "palevioletred",
    "papayawhip", "peachpuff", "peru", "pink", "plum", "powderblue", "purple", "rebeccapurple",
    "red", "rosybrown", "royalblue", "saddlebrown", "salmon", "sandybrown", "seagreen",
    "seashell", "sienna", "silver", "skyblue", "slateblue", "slategray", "slategrey", "snow",
    "springgreen", "steelblue", "tan", "teal", "thistle", "tomato", "turquoise", "violet",
    "wheat", "white", "whitesmoke", "yellow", "yellowgreen"]

/-- A colour function of the given name, with or without a final `a`, and its arguments. -/
def functionPattern (name : String) : Pattern :=
  sequence [folded name, optional (folded "a"), blanks, text "(", plus (· != ')'), text ")"]

/-- A colour written with `#` or as `rgb`, `rgba`, `hsl` or `hsla`. -/
def functionalPattern : Pattern :=
  choice [sequence [text "#", many 3 (some 8) false isHexDigit, wordBoundary],
    functionPattern "rgb", functionPattern "hsl"]

/-- A colour of any form. -/
def anyPattern : Pattern :=
  choice [functionalPattern, sequence [wordBoundary, foldedChoice names, wordBoundary]]

/-- The first colour in a text that is written with `#` or as a function. -/
def findFunctional? (s : List Char) : Option (List Char) :=
  (functionalPattern.find? s).map (·.text)

/-- The first colour in a text. -/
def find? (s : List Char) : Option (List Char) := (anyPattern.find? s).map (·.text)

/-- Whether a text is the name of a colour, in any case. -/
def isNamed (s : List Char) : Bool := names.any fun name => Chars.sameIgnoringCase name.toList s

/-- The functions whose arguments are not looked at. -/
def functionNames : List String := ["rgb", "hsl", "hwb", "lab", "lch", "oklab", "oklch"]

/-- Whether a text starts with the name of a colour function, in any case, and ends with a
parenthesis. -/
def looksFunctional (s : List Char) : Bool :=
  let s := Chars.lowercase s
  s.getLast? = some ')' && functionNames.any fun name => name.toList.isPrefixOf s

/-- Whether a text consists of numerals of two hexadecimal digits; a plus sign may stand for the
first digit of each. -/
def arePairs : List Char → Bool
  | [] => true
  | [_] => false
  | a :: b :: rest => (isHexDigit a || a = '+') && isHexDigit b && arePairs rest

/-- Whether a text is `#` with three or four hexadecimal digits, or with three or four pairs. -/
def isHex : List Char → Bool
  | '#' :: ds =>
    ((ds.length = 3 || ds.length = 4) && ds.all isHexDigit) ||
      ((ds.length = 6 || ds.length = 8) && arePairs ds)
  | _ => false

/-- Whether a text, trimmed, is accepted as a colour. -/
def isValid (s : String) : Bool :=
  let s := Chars.trim s.toList
  isNamed s || looksFunctional s || isHex s

end PageModules.Color
