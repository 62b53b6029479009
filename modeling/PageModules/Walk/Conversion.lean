import PageModules.Markup.Document
import PageModules.Walk.Build

/-!
# Conversion of documents

`Conversion.run` reads a document and makes a page of modules of it.  The document is read by its
markers if its text has any, unless the options say otherwise.
-/

namespace PageModules

open Text (Pattern)
open Text.Pattern (sequence blanks)

/-- The settings of a conversion. -/
structure ConversionOptions where
  /-- The font size in pixels that relative lengths refer to. -/
  baseFontSize : Int := StyleMap.defaultBaseFontSize
  /-- What the confidence of a recognition has to be above. -/
  threshold : Nat := 50
  /-- The way in which documents are read, if it is set. -/
  mode : Option WalkMode := none

/-- What makes a conversion fail. -/
inductive ConversionError where
  /-- The text is blank. -/
  | blankText
  /-- The document has no body. -/
  | noBody
deriving DecidableEq, Repr

/-- The wording of an error. -/
def ConversionError.message : ConversionError → String
  | blankText => "No root element found"
  | noBody => "No root element found"

/-- A conversion: the way in which the document was read, how the modules are built or what made it
fail, and the notes that were taken. -/
structure Conversion where
  /-- The way in which the document was read. -/
  mode : WalkMode
  /-- The builder of the modules. -/
  builder : Except ConversionError (Build (List PageModule))
  /-- The notes. -/
  notes : List Note

namespace Conversion

/-- The start of an attribute that is a marker. -/
def markerPattern : Pattern :=
  sequence [Pattern.text Element.markerName, blanks, Pattern.text "="]

/-- The way in which the text asks to be read. -/
def detectMode (text : String) : WalkMode :=
  if markerPattern.isIn text.toList then .annotated else .generic

/-- The way in which a text is read. -/
def modeOf (options : ConversionOptions) (text : String) : WalkMode :=
  options.mode.getD (detectMode text)

/-- The document that a text gives. -/
def documentOf (text : String) : Except ConversionError Document :=
  if Text.isBlankText text then .error .blankText else .ok (Document.ofText text)

/-- The body of a document. -/
def bodyOf (d : Document) : Except ConversionError Element := d.body?.elim (.error .noBody) .ok

/-- The plans of a body. -/
def plansOf (mode : WalkMode) (threshold : Nat) (body : Element) : List Plan :=
  match mode with
  | .annotated => Plan.ofMarkedBody threshold body
  | .generic => Plan.ofBody threshold body

/-- Converts a document in the given way. -/
def ofDocument (options : ConversionOptions) (mode : WalkMode) (d : Document) : Conversion :=
  let plans := (bodyOf d).map (plansOf mode options.threshold)
  let onPlans := match plans with
    | .ok ps => Plan.notesAll ps
    | .error _ => []
  ⟨mode, plans.map (Plan.buildAll options.baseFontSize),
    .mode mode options.mode.isSome :: (List.replicate d.fostered .fostered ++ onPlans)⟩

/-- Converts a text. -/
def run (options : ConversionOptions) (text : String) : Conversion :=
  let mode := modeOf options text
  match documentOf text with
  | .ok d => ofDocument options mode d
  | .error err => ⟨mode, .error err, [.mode mode options.mode.isSome]⟩

/-- The outcome, whose identifiers have the given token. -/
def outcome (c : Conversion) (token : String) : Outcome :=
  match c.builder with
  | .ok build =>
    let (content, ids) := build.run { token }
    .page {
      success := true
      content := content
      css := ""
      mode := c.mode
      modulesCount := ids.count }
  | .error err => .failure err.message

end Conversion

end PageModules
