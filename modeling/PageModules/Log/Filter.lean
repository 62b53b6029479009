import PageModules.Log.ValuePattern
import PageModules.Number.Integer
import PageModules.Text.Alphanumeric

/-!
# Filters of log lines

A filter is a text such as `warn,jtb=info,[{tag}]=debug`: directives with commas between
them, each of which says how much is shown, of everything or of the targets that start with a name,
and perhaps only of events with a field of a name.  Of the directives that apply to an event the one
with the longest target decides, then one with a field, and of two of the same target and field the
later one.
-/

namespace PageModules.Log

/-- How grave an event is. -/
inductive Level where
  /-- Something has failed. -/
  | error
  /-- Something is not as it should be. -/
  | warn
  /-- Something of interest. -/
  | info
  /-- Something that helps to find faults. -/
  | debug
  /-- All that happens. -/
  | trace
deriving DecidableEq, Repr

namespace Level

/-- The levels, the gravest one first. -/
def all : List Level := [error, warn, info, debug, trace]

/-- The name of a level. -/
def name : Level → String
  | error => "ERROR"
  | warn => "WARN"
  | info => "INFO"
  | debug => "DEBUG"
  | trace => "TRACE"

/-- The number of levels that are as grave as this one or graver. -/
def rank (l : Level) : Nat := all.idxOf l + 1

end Level

/-- The number of levels that a name or a number lets through, the gravest ones first. -/
def verbosity? (s : String) : Option Nat :=
  match Integer.read false 0 18446744073709551615 s.toList with
  | .ok n => if n ≤ 5 then some n.toNat else none
  | .error _ =>
    if s.isEmpty then some Level.error.rank
    else if Text.sameIgnoringCase s "off" then some 0
    else (Level.all.find? fun l => Text.sameIgnoringCase s l.name).map Level.rank

/-- A directive: how many levels are shown of the targets that start with the given text. -/
structure Directive where
  /-- The start of the targets. -/
  target : String
  /-- The field that events have to have. -/
  field : Option String
  /-- The number of levels that are shown. -/
  verbosity : Nat
deriving DecidableEq, Repr

namespace Directive

/-! ### Reading directives -/

/-- A character of a directive that decides where it is cut, with the character that is taken in its
place.  The two differ where blanks stand in front of the directive: its end is cut off as if the
blanks were not there. -/
structure Cell where
  /-- The character that is looked at. -/
  seen : Char
  /-- The character that is taken. -/
  taken : Char

/-- The text that cells and what stands behind them give. -/
def textOf (cells : List Cell) (behind : List Char) : String :=
  String.ofList (cells.map (·.taken) ++ behind)

/-- Whether a cell shows one of the given characters. -/
def shows (cs : List Char) (cell : Cell) : Bool := cs.contains cell.seen

/-- A character that a directive may start with. -/
def isStart (c : Char) : Bool := Text.isAlphanumeric c || c = '-' || c = ':' || c = '_'

/-- The number of levels behind an equals sign; all where nothing follows. -/
def levels? (s : String) : Option Nat := if s.isEmpty then some Level.trace.rank else verbosity? s

/-- The number of levels at the end of a directive with brackets; all where nothing follows. -/
def finalLevels? (behind : List Char) : List Cell → Option Nat
  | [] => some Level.trace.rank
  | cell :: rest => if cell.seen = '=' then levels? (textOf rest behind) else none

/-- The name of a field and whether a value is asked for; none if it cannot be read. -/
def field? (s : String) : Option (String × Bool) :=
  match s.toList, s.toList.splitOn '=' with
  | [], _ => none
  | _, name :: value :: _ =>
    if ValuePattern.isReadable value then some (String.ofList name, true) else none
  | _, _ => some (s, false)

/-- Reads a directive behind its opening bracket.  One that names a span or asks for a value has no
effect on events outside of spans, but it has to be complete. -/
def ofBrackets? (target : String) (cells : List Cell) (behind : List Char) :
    Option (Option Directive) :=
  let inName := fun cell => !shows [']', '{'] cell
  let name := textOf (cells.takeWhile inName) []
  match cells.dropWhile inName with
  | [] => none
  | bracket :: rest =>
    if bracket.seen = ']' then (finalLevels? behind rest).map fun _ => none
    else
      let inField := fun cell => !shows ['}'] cell
      match field? (textOf (rest.takeWhile inField) []), rest.dropWhile inField with
      | some (field, hasValue), _ :: closing :: rest =>
        if closing.seen = ']' then
          (finalLevels? behind rest).map fun n =>
            if name.isEmpty && !hasValue then some ⟨target, some field, n⟩ else none
        else none
      | _, _ => none

/-- The directive of a text, if it has an effect on events outside of spans; none if the text is no
directive. -/
def ofChars? (s : List Char) : Option (Option Directive) :=
  let trimmed := Chars.trim s
  let cells := (trimmed.zip s).map fun p => Cell.mk p.1 p.2
  let behind := s.drop trimmed.length
  match cells with
  | [] => none
  | first :: rest =>
    if first.seen = '[' then ofBrackets? "" rest behind
    else if !isStart first.seen then none
    else
      let inName := fun cell => !shows ['=', '['] cell
      let name := textOf (cells.takeWhile inName) []
      match cells.dropWhile inName with
      | [] =>
        let whole := textOf cells behind
        match verbosity? whole with
        | some n => some (some ⟨"", none, n⟩)
        | none => some (some ⟨whole, none, Level.trace.rank⟩)
      | mark :: rest =>
        if mark.seen = '=' then (levels? (textOf rest behind)).map fun n => some ⟨name, none, n⟩
        else ofBrackets? name rest behind

/-! ### Applying directives -/

/-- Whether a directive applies to events of a target with the given fields. -/
def appliesTo (d : Directive) (target : String) (fields : List String) : Bool :=
  d.target.toList.isPrefixOf target.toList && d.field.all fields.contains

/-- Whether a directive decides in place of an earlier one, where both apply. -/
def outranks (d earlier : Directive) : Bool :=
  if d.target.length ≠ earlier.target.length then earlier.target.length < d.target.length
  else match earlier.field, d.field with
    | some a, some b => a ≤ b
    | some _, none => false
    | none, _ => true

end Directive

/-! ### Filters -/

/-- A filter. -/
structure Filter where
  /-- The directives. -/
  directives : List Directive

namespace Filter

/-- The filter without a text of its own: warnings and errors. -/
def standard : Filter := ⟨[⟨"", none, Level.warn.rank⟩]⟩

/-- The filter of an empty text: errors. -/
def errorsOnly : Filter := ⟨[⟨"", none, Level.error.rank⟩]⟩

/-- The filter of a text; none if a part of it is no directive. -/
def ofText? (s : String) : Option Filter :=
  let parts := (s.toList.splitOn ',').filter fun p => !p.isEmpty
  (parts.mapM Directive.ofChars?).map fun directives =>
    if directives.isEmpty then errorsOnly else ⟨directives.filterMap id⟩

/-- The filter that a variable asks for: the standard one if it is not set or is no filter. -/
def ofVariable (s : Option String) : Filter := (s.bind ofText?).getD standard

/-- The directive that decides on events of a target with the given fields. -/
def deciding? (f : Filter) (target : String) (fields : List String) : Option Directive :=
  (f.directives.filter fun d => d.appliesTo target fields).foldl (fun best d =>
    if best.all d.outranks then some d else best) none

/-- Whether a filter lets events of a target and a level with the given fields through. -/
def shows (f : Filter) (target : String) (fields : List String) (level : Level) : Bool :=
  (f.deciding? target fields).any fun d => decide (level.rank ≤ d.verbosity)

end Filter

end PageModules.Log
