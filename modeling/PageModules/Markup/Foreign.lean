import PageModules.Markup.Builder

/-!
# SVG and MathML inside of HTML

HTML text writes all names in lowercase.  Inside of SVG and MathML some names of elements and
attributes are written with capitals again, and the names of a few attributes belong to a vocabulary
of their own.  `Builder.isForeign` says which tokens are read by `Builder.foreignStep`.
-/

namespace PageModules.Builder

/-! ### Names -/

/-- The SVG elements whose names have capitals. -/
def svgTags : List String :=
  ["altGlyph", "altGlyphDef", "altGlyphItem", "animateColor", "animateMotion", "animateTransform",
    "clipPath", "feBlend", "feColorMatrix", "feComponentTransfer", "feComposite",
    "feConvolveMatrix", "feDiffuseLighting", "feDisplacementMap", "feDistantLight", "feDropShadow",
    "feFlood", "feFuncA", "feFuncB", "feFuncG", "feFuncR", "feGaussianBlur", "feImage", "feMerge",
    "feMergeNode", "feMorphology", "feOffset", "fePointLight", "feSpecularLighting", "feSpotLight",
    "feTile", "feTurbulence", "foreignObject", "glyphRef", "linearGradient", "radialGradient",
    "textPath"]

/-- The SVG attributes whose names have capitals. -/
def svgAttrs : List String :=
  ["attributeName", "attributeType", "baseFrequency", "baseProfile", "calcMode", "clipPathUnits",
    "diffuseConstant", "edgeMode", "filterUnits", "glyphRef", "gradientTransform",
    "gradientUnits", "kernelMatrix", "kernelUnitLength", "keyPoints", "keySplines", "keyTimes",
    "lengthAdjust", "limitingConeAngle", "markerHeight", "markerUnits", "markerWidth",
    "maskContentUnits", "maskUnits", "numOctaves", "pathLength", "patternContentUnits",
    "patternTransform", "patternUnits", "pointsAtX", "pointsAtY", "pointsAtZ", "preserveAlpha",
    "preserveAspectRatio", "primitiveUnits", "refX", "refY", "repeatCount", "repeatDur",
    "requiredExtensions", "requiredFeatures", "specularConstant", "specularExponent",
    "spreadMethod", "startOffset", "stdDeviation", "stitchTiles", "surfaceScale",
    "systemLanguage", "tableValues", "targetX", "targetY", "textLength", "viewBox", "viewTarget",
    "xChannelSelector", "yChannelSelector", "zoomAndPan"]

/-- The name of a list that is the given one in lowercase, or else the given one. -/
def withCapitals (names : List String) (name : String) : String :=
  (names.find? fun n => Text.lowercase n == name).getD name

/-- The attributes whose names belong to a vocabulary, as they are written. -/
def spacedAttrs : List (String × AttrSpace × String) :=
  [("xlink:actuate", .xlink, "actuate"), ("xlink:arcrole", .xlink, "arcrole"),
    ("xlink:href", .xlink, "href"), ("xlink:role", .xlink, "role"), ("xlink:show", .xlink, "show"),
    ("xlink:title", .xlink, "title"), ("xlink:type", .xlink, "type"), ("xml:base", .xml, "base"),
    ("xml:lang", .xml, "lang"), ("xml:space", .xml, "space"), ("xmlns", .xmlns, "xmlns"),
    ("xmlns:xlink", .xmlns, "xlink")]

/-- The name of an element of a vocabulary. -/
def foreignName (space : Vocabulary) (name : String) : String :=
  match space with
  | .svg => withCapitals svgTags name
  | _ => name

/-- An attribute of an element of a vocabulary. -/
def foreignAttr (space : Vocabulary) (a : String × String) : Attr :=
  let name := match space with
    | .svg => withCapitals svgAttrs a.1
    | .mathml => if a.1 = "definitionurl" then "definitionURL" else a.1
    | .html => a.1
  match spacedAttrs.lookup name with
  | some (s, local') => ⟨s, local', a.2⟩
  | none => ⟨.none, name, a.2⟩

/-! ### Foreign elements -/

/-- Puts a new element of a vocabulary at its place. -/
def insertForeign (b : Builder) (space : Vocabulary) (name : String)
    (attrs : List (String × String)) (selfClosing : Bool) : Builder :=
  let tag : Tag := ⟨space, name, attrs.map (foreignAttr space)⟩
  if selfClosing then (b.insertClosed tag).1 else (b.insertOpen tag).1

/-- The innermost open element, or in its place the element that a fragment is read in. -/
def adjustedTag (b : Builder) : Tag :=
  match b.opened, b.context with
  | [_], some t => t
  | _, _ => b.currentTag

/-- Whether characters may stand in sections of character data. -/
def knowsSections (b : Builder) : Bool := !b.opened.isEmpty && b.adjustedTag.space ≠ .html

/-- Whether a token stands in SVG or MathML. -/
def isForeign (b : Builder) (token : Token) : Bool :=
  let t := b.adjustedTag
  if b.opened.isEmpty || t.space = .html then false
  else match token with
    | .eof => false
    | .chars _ => !(isMathText t || isSvgHtml t)
    | .null => !(isMathText t || isSvgHtml t)
    | .startTag name _ _ =>
      !((isMathText t && name != "mglyph" && name != "malignmark") || isSvgHtml t ||
        (t.space = .mathml && t.name == "annotation-xml" && name == "svg"))
    | _ => true

/-- The HTML elements that end SVG and MathML. -/
def breakoutNames : List String :=
  ["b", "big", "blockquote", "body", "br", "center", "code", "dd", "div", "dl", "dt", "em",
    "embed", "h1", "h2", "h3", "h4", "h5", "h6", "head", "hr", "i", "img", "li", "listing", "menu",
    "meta", "nobr", "ol", "p", "pre", "ruby", "s", "small", "span", "strong", "strike", "sub",
    "sup", "table", "tt", "u", "ul", "var"]

/-- Whether a start tag ends SVG and MathML. -/
def isBreakout (name : String) (attrs : List (String × String)) : Bool :=
  breakoutNames.contains name ||
    (name == "font" && attrs.any fun a => ["color", "face", "size"].contains a.1)

/-- Where the end tag of a foreign element leads. -/
inductive ForeignEnd where
  /-- The element with so many open elements outside of it is closed. -/
  | close (below : Nat)
  /-- The tag belongs to HTML. -/
  | html
  /-- Nothing happens. -/
  | ignore

/-- The search for the element that an end tag closes, from the innermost outwards. -/
def foreignEnd (b : Builder) (name : String) (isFirst : Bool) : List Nat → ForeignEnd
  | [] => .ignore
  | [_] => .ignore
  | id :: rest =>
    let t := b.tagOf id
    if !isFirst && t.space = .html then .html
    else if Text.sameIgnoringCase t.name name then .close rest.length
    else b.foreignEnd name false rest

/-- What is left to do after a rule. -/
inductive Rest where
  /-- Nothing. -/
  | done
  /-- The token is read again. -/
  | again (token : Token)
  /-- The token is read by the rules of the insertion mode, even in SVG and MathML. -/
  | asHtml (token : Token)

/-- Reads a token in SVG or MathML. -/
def foreignStep (b : Builder) (token : Token) : Builder × Rest :=
  match token with
  | .null => (b.putText [Token.replacement], .done)
  | .chars s =>
    ({ b with framesetOk := b.framesetOk && s.all Token.isSpace }.putText s, .done)
  | .comment s => (b.putComment s, .done)
  | .startTag name attrs selfClosing =>
    if isBreakout name attrs && b.context.isNone then
      (b.pop.popTo fun t => t.space = .html || isMathText t || isSvgHtml t, .again token)
    else
      let space := b.adjustedTag.space
      (b.insertForeign space (foreignName space name) attrs selfClosing, .done)
  | .endTag name =>
    match b.foreignEnd name true b.opened with
    | .close below => ({ b with opened := b.opened.drop (b.opened.length - below) }, .done)
    | .html => (b, .asHtml token)
    | .ignore => (b, .done)
  | .doctype _ => (b, .done)
  | .eof => (b, .done)

end PageModules.Builder
