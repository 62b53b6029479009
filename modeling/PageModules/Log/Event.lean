import PageModules.Log.Filter
import PageModules.Walk.Conversion

/-!
# Log lines of a conversion

A conversion tells of itself by events: those of its notes whose category is asked for, and one at
its end.  `Event.line` is how an event is shown.
-/

namespace PageModules

namespace Log

/-- An event. -/
structure Event where
  /-- How grave it is. -/
  level : Level
  /-- The part of the program that it comes from. -/
  target : String
  /-- What it says. -/
  message : String
  /-- What it says it of: fields with their values. -/
  fields : List (String × String)
  /-- The names of fields that are not shown. -/
  hidden : List String := []
deriving DecidableEq, Repr

namespace Event

/-- The names of the fields of an event, of which the message is one. -/
def fieldNames (e : Event) : List String := "message" :: (e.fields.map (·.1) ++ e.hidden)

/-- How an event is shown. -/
def line (e : Event) : String :=
  e.level.name ++ " " ++ e.target ++ ": " ++ e.message ++
    String.join (e.fields.map fun f => " " ++ f.1 ++ "=" ++ f.2)

end Event

/-- The lines of the events that a filter lets through. -/
def Filter.lines (f : Filter) (events : List Event) : List String :=
  (events.filter fun e => f.shows e.target e.fieldNames e.level).map Event.line

/-! ### Categories -/

/-- The categories of a list with commas. -/
def categories (s : String) : List String :=
  (Text.splitOn ',' s).map fun c => Text.lowercase (Text.trim c)

/-- Whether a list of categories asks for the given one. -/
def asksFor (asked : List String) (category : String) : Bool :=
  asked.contains "all" || asked.contains category

end Log

open Log (Event asksFor)

namespace Note

/-- The category of a note; those without one are always told. -/
def category? : Note → Option String
  | mode _ _ => some "mode"
  | fostered => none
  | row _ => some "layout"
  | column _ => some "layout"
  | candidate _ _ _ => some "recognize"
  | accepted _ _ => some "recognize"
  | mapping _ _ => some "mapper"
  | folded _ => none

/-- The event of a note. -/
def event : Note → Event
  | mode m isForced => {
      level := .info, target := "jtb_parser::parser", message := "diagnostics: parse mode"
      fields := [("mode", m.name), ("forced", if isForced then "true" else "false")] }
  | fostered => {
      level := .warn, target := "html5ever::tree_builder"
      message := "foster parenting not implemented", fields := []
      hidden := ["log.target", "log.module_path", "log.file", "log.line"] }
  | row tag => {
      level := .info, target := "jtb_parser::parser", message := "diagnostics: row detected"
      fields := [("tag", tag)] }
  | column tag => {
      level := .info, target := "jtb_parser::parser", message := "diagnostics: column detected"
      fields := [("tag", tag)] }
  | candidate type score weighted => {
      level := .info, target := "jtb_parser::recognizer"
      message := "diagnostics: recognizer candidate"
      fields := [("kind", type.slug), ("raw", toString score), ("weighted", toString weighted)] }
  | accepted type confidence => {
      level := .info, target := "jtb_parser::parser", message := "diagnostics: component accepted"
      fields := [("kind", type.slug), ("confidence", toString confidence)] }
  | mapping tag type => {
      level := .info, target := "jtb_parser::mapper", message := "diagnostics: mapper detection"
      fields := [("tag", tag), ("kind", (type.map (·.slug)).getD "none")] }
  | folded columns => {
      level := .debug, target := "jtb_parser::parser", message := "row wider than twelve columns"
      fields := [("folded", toString columns)] }

end Note

namespace Outcome

/-- The event at the end of a conversion. -/
def event : Outcome → Event
  | page p => {
      level := .debug, target := "jtb_parser::parser", message := "parsed html document"
      fields := [("mode", p.mode.name), ("top_level", toString p.content.length),
        ("modules", toString p.modulesCount)] }
  | failure message => {
      level := .warn, target := "jtb_parser::parser", message := "html parse failed"
      fields := [("error", message)] }

/-- The event at the end of a run whose conversion went well. -/
def closingEvent : Outcome → List Event
  | page p => [{
      level := .info, target := "jtb", message := "conversion finished"
      fields := [("mode", "\"" ++ p.mode.name ++ "\""), ("modules", toString p.modulesCount)] }]
  | failure _ => []

end Outcome

/-- The events of a conversion with the given outcome, of the notes those that are asked for. -/
def Conversion.events (asked : List String) (c : Conversion) (outcome : Outcome) : List Event :=
  (c.notes.filter fun n => n.category?.all (asksFor asked)).map Note.event ++ [outcome.event]

end PageModules
