import PageModules.Json.Value
import PageModules.Style.Nesting
import PageModules.Text.Pattern

/-!
# Gradients

`Gradient.ofText?` reads the first linear or radial gradient of an image value: its kind, for a
linear one its direction in degrees, and its colour stops.
-/

namespace PageModules

/-- A colour of a gradient with its position in percent. -/
structure ColorStop where
  /-- The colour as it was written. -/
  color : String
  /-- The position in percent. -/
  position : Int
deriving DecidableEq, Repr

/-- The two kinds of gradients. -/
inductive GradientKind where
  /-- Along a line. -/
  | linear
  /-- Around a point. -/
  | radial
deriving DecidableEq, Repr

/-- A gradient. -/
structure Gradient where
  /-- The kind. -/
  kind : GradientKind
  /-- The direction of a linear gradient in degrees. -/
  direction : Option Int
  /-- The colour stops in order. -/
  stops : List ColorStop
deriving DecidableEq, Repr

/-- The name of a kind. -/
def GradientKind.name : GradientKind → String
  | linear => "linear"
  | radial => "radial"

/-- A colour stop as a value. -/
def ColorStop.toJson (s : ColorStop) : Json :=
  .ofFields [("color", .text s.color), ("position", .integer s.position)]

namespace Gradient

open Text Text.Pattern

/-! ### Direction -/

/-- The direction where none is given: downwards. -/
def defaultDirection : Int := 180

/-- The degrees of a direction given by one or two sides. -/
def directionDegrees (sides : String) : Int :=
  match " ".intercalate ((Text.words sides).map Text.lowercase) with
  | "top" => 0
  | "right" => 90
  | "bottom" => 180
  | "left" => 270
  | "top right" => 45
  | "right top" => 45
  | "bottom right" => 135
  | "right bottom" => 135
  | "bottom left" => 225
  | "left bottom" => 225
  | "top left" => 315
  | "left top" => 315
  | _ => defaultDirection

/-! ### Stops -/

/-- What the pieces that describe the shape of a radial gradient start with. -/
def shapePattern : Pattern :=
  seq textStart
    (alt (foldedChoice ["circle", "ellipse", "closest", "farthest"])
      (seq (folded "at") (char isBlank)))

/-- A stop with its position in percent. -/
def stopPattern : Pattern :=
  sequence [textStart, capture 1 (many 1 none true (· != '\n')), blanks1,
    capture 2 (seq (plus isDigit) (optional (seq (text ".") (plus isDigit)))), text "%", textEnd]

/-- The stop that a piece of a gradient gives; `isFirst` says whether it is the first one.  Without
a position the first stop stands at 0 and all others at 100. -/
def stopOf (isFirst : Bool) (piece : List Char) : ColorStop :=
  match stopPattern.find? piece with
  | some m =>
    let position := ((m.group? 2).bind Binary64.ofChars?).getD .zero
    ⟨String.ofList (Chars.trim ((m.group? 1).getD [])), position.toInt64⟩
  | none => ⟨String.ofList piece, if isFirst then 0 else 100⟩

/-- The pieces of a list of stops: neither blank nor a description of the shape. -/
def stopPieces (s : List Char) : List (List Char) :=
  ((Style.splitCommas s).map Chars.trim).filter fun piece =>
    !piece.isEmpty && !shapePattern.isIn piece

/-- Moves the second of two stops that both stand at 0 to 100. -/
def spread : List ColorStop → List ColorStop
  | [a, b] => if a.position = 0 ∧ b.position = 0 then [a, { b with position := 100 }] else [a, b]
  | stops => stops

/-- The stops of a list. -/
def stopsOf (s : List Char) : List ColorStop :=
  spread ((stopPieces s).zipIdx.map fun p => stopOf (p.2 == 0) p.1)

/-! ### Gradients -/

/-- A linear gradient with its direction and its stops. -/
def linearPattern : Pattern :=
  sequence [folded "linear-gradient", blanks, text "(", blanks,
    optional (alt
      (sequence [folded "to", blanks1,
        capture 1 (seq (plus isWordChar) (optional (seq blanks1 (plus isWordChar))))])
      (seq
        (capture 2 (sequence [optional (text "-"), plus isDigit,
          optional (seq (text ".") (plus isDigit))]))
        (folded "deg"))),
    blanks, optional (text ","), blanks, capture 3 (plus fun _ => true), text ")"]

/-- A radial gradient with its stops. -/
def radialPattern : Pattern :=
  sequence [folded "radial-gradient", blanks, text "(", capture 1 (plus fun _ => true), text ")"]

/-- The gradient of an image value; a linear one is looked for first. -/
def ofText? (image : String) : Option Gradient :=
  let s := image.toList
  match linearPattern.find? s with
  | some m =>
    let direction := match m.group? 2, m.group? 1 with
      | some degrees, _ =>
        ((Binary64.ofChars? degrees).map Binary64.toInt64).getD defaultDirection
      | none, some sides => directionDegrees (String.ofList sides)
      | none, none => defaultDirection
    some ⟨.linear, some direction, ((m.group? 3).map stopsOf).getD []⟩
  | none =>
    (radialPattern.find? s).map fun m => ⟨.radial, none, stopsOf ((m.group? 1).getD [])⟩

end Gradient

end PageModules
