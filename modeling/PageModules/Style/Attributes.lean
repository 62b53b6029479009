import PageModules.Style.Shorthand
import PageModules.Style.Gradient
import PageModules.Style.Length

/-!
# Module attributes of styles

`StyleMap.toAttributes` expands the shorthands of a style map and converts the declarations to
module attributes, in eleven categories that own different attribute names.  Lengths become
integers in pixels; a suffix marks the attributes of a variant of the style (tablet, phone, hover).
-/

namespace PageModules.StyleMap

open Style

/-! ### Suffixes of variants -/

/-- What the attributes for tablets end in. -/
def tabletSuffix : String := "__tablet"

/-- What the attributes for phones end in. -/
def phoneSuffix : String := "__phone"

/-- What the attributes under the pointer end in. -/
def hoverSuffix : String := "__hover"

/-- The font size in pixels that is assumed where none is configured. -/
def defaultBaseFontSize : Int := 16

/-! ### Values -/

/-- A property as a text. -/
def textOf (m : StyleMap) (property : String) : Option Json := (m.get? property).map .text

/-- The text properties of a table of property and attribute names. -/
def textsOf (m : StyleMap) (table : List (String × String)) : AttributeDraft :=
  table.map fun e => (e.2, m.textOf e.1)

/-- A length in pixels. -/
def pixelValue (base : Int) (value : String) : Json := .integer (Length.pixels value base)

/-- A property in pixels. -/
def pixelsOf (m : StyleMap) (base : Int) (property : String) : Option Json :=
  (m.get? property).map (pixelValue base)

/-- The number that a text is, or else the text. -/
def numberOrText (value : String) : Json :=
  match Binary64.ofChars? (Chars.trim value.toList) with
  | some x => .ofNumber x
  | none => .text value

/-- A property name as part of an attribute name. -/
def underscored (name : String) : String := Text.replaceChar '-' '_' name

/-! ### The categories -/

/-- The address in the first `url(…)` of an image, without blanks and quotes around it. -/
def urlTarget? (image : String) : Option String := do
  let chars := image.toList
  let mark := "url(".toList
  let start ← Chars.find? mark (Chars.lowercase chars)
  let (inside, _) ← Chars.splitAt? ')' (chars.drop (start + mark.length))
  let target := Chars.trim (Chars.trimOf Shorthand.isQuote (Chars.trim inside))
  if target.isEmpty then none else some (String.ofList target)

/-- The attributes of a background image: those of a gradient, or else its address. -/
def imageDraft (image : String) : AttributeDraft :=
  match Gradient.ofText? image with
  | some g =>
    [("background_type", some (.text "gradient")),
      ("background_gradient_type", some (.text g.kind.name)),
      ("background_gradient_direction", g.direction.map .integer),
      ("background_gradient_stops",
        if g.stops.isEmpty then none else some (.array (g.stops.map ColorStop.toJson)))]
  | none =>
    match urlTarget? image with
    | some target =>
      [("background_type", some (.text "image")), ("background_image", some (.text target))]
    | none => []

/-- Colour, image, placement and overlay of the background. -/
def background (_base : Int) (m : StyleMap) : Attributes :=
  let color := match m.get? "background-color" with
    | some c =>
      if c = "transparent" ∨ c = "inherit" then []
      else [("background_type", some (.text "color")), ("background_color", some (.text c))]
    | none => []
  Attributes.ofDraft (color ++ ((m.get? "background-image").map imageDraft).getD [] ++
    m.textsOf [("background-size", "background_size"),
      ("background-position", "background_position"),
      ("background-repeat", "background_repeat")] ++
    [("parallax",
        if m.get? "background-attachment" = some "fixed" then some (.bool true) else none),
      ("background_image_overlay", (m.custom? "bg-overlay").map .text)])

/-- Margins, paddings and gaps. -/
def spacing (base : Int) (m : StyleMap) : Attributes :=
  Attributes.ofDraft (["margin", "padding"].flatMap (fun part =>
      Shorthand.sides.map fun side =>
        (part ++ "_" ++ side, m.pixelsOf base (part ++ "-" ++ side))) ++
    [("gap", m.pixelsOf base "gap"), ("row_gap", m.pixelsOf base "row-gap"),
      ("column_gap", m.pixelsOf base "column-gap")])

/-- The widths of the four borders; zero for a side without one, nothing where no side has one. -/
def borderWidths (base : Int) (m : StyleMap) : Option Json :=
  let widths := Shorthand.sides.map fun side =>
    (side, (m.get? ("border-" ++ side ++ "-width")).or (m.get? "border-width"))
  if widths.any (·.2.isSome) then
    some (.ofFields (widths.map fun w => (w.1, (w.2.map (pixelValue base)).getD (.integer 0))))
  else none

/-- The radii of the corners, or an elliptical radius as it was written. -/
def borderRadii (base : Int) (m : StyleMap) : Option Json :=
  let radii := Shorthand.corners.filterMap fun corner =>
    (m.pixelsOf base ("border-" ++ corner ++ "-radius")).map fun v => (underscored corner, v)
  if radii.isEmpty then m.textOf "border-radius" else some (.ofFields radii)

/-- Width, style, colour and radius of the border. -/
def border (base : Int) (m : StyleMap) : Attributes :=
  Attributes.ofDraft [("border_width", borderWidths base m),
    ("border_style", (m.textOf "border-style").or (m.textOf "border-top-style")),
    ("border_color", (m.textOf "border-color").or (m.textOf "border-top-color")),
    ("border_radius", borderRadii base m)]

/-- The attributes of a shadow with the given parts. -/
def shadowDraft (m : StyleMap) (name : String) (parts : List String) : AttributeDraft :=
  let key := underscored name
  match m.get? (name ++ "-style") with
  | none => []
  | some "none" => [(key ++ "_style", some (.text "none"))]
  | some _ =>
    (key ++ "_style", some (.text "custom")) :: parts.map fun part =>
      (key ++ "_" ++ part, (m.get? (name ++ "-" ++ part)).map fun v =>
        match part with
        | "color" => .text v
        | "inset" => .bool (v = "true")
        | _ => numberOrText v)

/-- The shadow of the box. -/
def boxShadow (_base : Int) (m : StyleMap) : Attributes :=
  Attributes.ofDraft (m.shadowDraft "box-shadow"
    ["horizontal", "vertical", "blur", "spread", "color", "inset"])

/-- The first family of a list, without quotes. -/
def firstFamily (families : String) : String :=
  let bare := families.toList.filter fun c => !Shorthand.isQuote c
  String.ofList (Chars.trim (bare.takeWhile (· != ',')))

/-- The weight of a font as a number. -/
def fontWeight (value : String) : Int :=
  match Text.lowercase (Text.trim value) with
  | "normal" => 400
  | "bold" => 700
  | "bolder" => 700
  | "lighter" => 300
  | other => Length.leadingInteger other

/-- A line height: a number where it has no unit or `em`, a text with `px`, or as it was
written. -/
def lineHeight (value : String) : Json :=
  let trimmed := Text.trim value
  let low := Text.lowercase trimmed
  match Binary64.ofText? trimmed, (Text.dropFinal? "em" low).bind Binary64.ofText?,
      Text.dropFinal? "px" low with
  | some x, _, _ => .ofNumber x
  | none, some x, _ => .ofNumber x
  | none, none, some n => if (Binary64.ofText? n).isSome then .text (n ++ "px") else .text trimmed
  | none, none, none => .text trimmed

/-- Font, text and text shadow. -/
def typography (base : Int) (m : StyleMap) : Attributes :=
  Attributes.ofDraft ([("font_family", (m.get? "font-family").map fun v => .text (firstFamily v)),
      ("font_size", m.pixelsOf base "font-size"),
      ("font_weight", (m.get? "font-weight").map fun v => .integer (fontWeight v)),
      ("line_height", (m.get? "line-height").map lineHeight),
      ("letter_spacing", m.pixelsOf base "letter-spacing"),
      ("word_spacing", m.pixelsOf base "word-spacing")] ++
    m.textsOf [("font-style", "font_style"), ("text-transform", "text_transform"),
      ("text-decoration", "text_decoration"), ("color", "text_color"),
      ("text-align", "text_align")] ++
    m.shadowDraft "text-shadow" ["horizontal", "vertical", "blur", "color"])

/-- The parts of a transformation. -/
def transformation (_base : Int) (m : StyleMap) : Attributes :=
  Attributes.ofDraft ((["scale", "scale-x", "scale-y", "rotate", "skew-x", "skew-y", "translate-x",
      "translate-y"].map fun part =>
        ("transform_" ++ underscored part, (m.get? ("transform-" ++ part)).map numberOrText)) ++
    [("transform_origin", m.textOf "transform-origin")])

/-- The filters. -/
def filters (_base : Int) (m : StyleMap) : Attributes :=
  Attributes.ofDraft (["hue-rotate", "saturate", "brightness", "contrast", "invert", "sepia",
      "blur", "grayscale", "opacity"].map fun name =>
    ("filter_" ++ underscored name, (m.get? ("filter-" ++ name)).map fun v =>
      .ofNumber (Length.leadingNumber v)))

/-- A width or height: percentages and keywords stay texts. -/
def sizeValue (base : Int) (value : String) : Json :=
  if value.toList.contains '%' || value = "auto" || value = "inherit" || value = "initial" then
    .text value
  else pixelValue base value

/-- Width, height and overflow. -/
def sizing (base : Int) (m : StyleMap) : Attributes :=
  Attributes.ofDraft
    ((["width", "max-width", "min-width", "height", "max-height", "min-height"].map fun name =>
      (underscored name, (m.get? name).map (sizeValue base))) ++
    m.textsOf [("overflow", "overflow"), ("overflow-x", "overflow_x"),
      ("overflow-y", "overflow_y")])

/-- Position, offsets and stacking order. -/
def positioning (base : Int) (m : StyleMap) : Attributes :=
  let kind := (m.get? "position").filter fun p =>
    p = "relative" || p = "absolute" || p = "fixed" || p = "sticky"
  Attributes.ofDraft ([("position", kind.map .text)] ++
    (Shorthand.sides.map fun side =>
      ("position_" ++ side, ((m.get? side).filter (· != "auto")).map (pixelValue base))) ++
    [("z_index", (m.get? "z-index").map fun v => .integer (Length.leadingInteger v))])

/-- The animation given by custom properties, and the transition. -/
def animation (_base : Int) (m : StyleMap) : Attributes :=
  Attributes.ofDraft [("animation_style", (m.custom? "animation").map .text),
    ("animation_direction", (m.custom? "animation-direction").map .text),
    ("animation_duration",
      (m.custom? "animation-duration").map fun v => .integer (Length.leadingInteger v)),
    ("animation_delay",
      (m.custom? "animation-delay").map fun v => .integer (Length.leadingInteger v)),
    ("animation_intensity",
      (m.custom? "animation-intensity").map fun v => .ofNumber (Length.leadingNumber v)),
    ("css_transition", m.textOf "transition")]

/-- An opacity in percent: values up to one are fractions, larger ones are percentages. -/
def opacityPercent (x : Binary64) : Binary64 :=
  if Binary64.le x (Binary64.ofInt 1) then Binary64.mul x (Binary64.ofInt 100) else x

/-- Opacity, visibility, display, pointer and the placement of replaced content. -/
def appearance (_base : Int) (m : StyleMap) : Attributes :=
  Attributes.ofDraft ([("opacity",
      (m.get? "opacity").map fun v => .ofNumber (opacityPercent (Length.leadingNumber v)))] ++
    m.textsOf [("visibility", "visibility"), ("display", "display"), ("cursor", "cursor"),
      ("object-fit", "object_fit"), ("object-position", "object_position"),
      ("vertical-align", "vertical_align")])

/-- The categories in the order in which they are merged. -/
def categories : List (Int → StyleMap → Attributes) :=
  [background, spacing, border, boxShadow, typography, transformation, filters, sizing,
    positioning, animation, appearance]

/-! ### The conversion -/

/-- Appends a suffix to every name. -/
def withSuffix (attrs : Attributes) (suffix : String) : Attributes :=
  KeyMap.ofList (attrs.entries.map fun e => (e.1 ++ suffix, e.2))

/-- The attributes of a style map, each name with the suffix. -/
def toAttributes (m : StyleMap) (base : Int) (suffix : String) : Attributes :=
  let long := m.expand
  let attrs := categories.foldl (fun attrs category => attrs.merge (category base long)) .empty
  if suffix = "" then attrs else withSuffix attrs suffix

/-- The attributes of the style text of a variant; a blank one has none. -/
def variantAttributes (text : Option String) (base : Int) (suffix : String) : Attributes :=
  match text with
  | some t => if Text.isBlankText t then .empty else (ofText t).toAttributes base suffix
  | none => .empty

/-- The attributes of the style texts for tablets and phones. -/
def responsiveAttributes (tablet phone : Option String) (base : Int) : Attributes :=
  (variantAttributes tablet base tabletSuffix).merge (variantAttributes phone base phoneSuffix)

/-- The attributes of the style text under the pointer. -/
def hoverAttributes (hover : Option String) (base : Int) : Attributes :=
  variantAttributes hover base hoverSuffix

end PageModules.StyleMap
