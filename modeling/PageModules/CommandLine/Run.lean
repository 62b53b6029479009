import PageModules.CommandLine.Arguments
import PageModules.Log.Event
import PageModules.Page.Schema
import PageModules.Settings.File
import PageModules.Json.Writer

/-!
# Runs of the program

`run` reads the arguments, the settings and the document, converts the document and reports what is
to be printed.  How files are read is left open (`Surroundings`), so that a run can be looked at
without any input and output.
-/

namespace PageModules.CommandLine

/-- What the program can be asked for. -/
def usage : String :=
  "Usage: jtb [<html-file> | -] [--config <jtb.toml>] [--mode <jtb_annotated|generic>] " ++
    "[--threshold <0-100>] [--pretty] [--validate]"

/-! ### Failures -/

/-- Where a text comes from. -/
inductive Source where
  /-- A file. -/
  | file (name : String)
  /-- The standard input. -/
  | standardInput
deriving DecidableEq, Repr

/-- What makes a run fail before there is a result. -/
inductive Failure where
  /-- The arguments are wrong. -/
  | arguments (e : ArgumentError)
  /-- The settings are wrong. -/
  | settings (e : SettingsError)
  /-- The document cannot be read, for the given reason. -/
  | unreadable (source : Source) (reason : String)
  /-- The result does not have its form. -/
  | form (message : String)
deriving DecidableEq, Repr

namespace Failure

/-- The wording of a failure. -/
def message : Failure → String
  | arguments e => e.message
  | settings e => e.message
  | unreadable (.file name) _ => "failed to read " ++ name
  | unreadable .standardInput _ => "failed to read html from stdin"
  | form message => message

/-- What caused the failure, if it has a cause of its own. -/
def cause? : Failure → Option String
  | arguments e => e.cause?
  | settings (.unreadable _ reason) => some reason
  | settings _ => none
  | unreadable _ reason => some reason
  | form _ => none

/-- The lines that tell of a failure. -/
def lines (f : Failure) : List String :=
  (match f with
    | arguments (.unknownFlag _) => [usage]
    | _ => []) ++
  Text.splitOn '\n' ("Error: " ++ f.message) ++
  match f.cause? with
  | none => []
  | some cause => ["", "Caused by:", "    " ++ cause]

end Failure

/-! ### Reports -/

/-- What a run leaves behind. -/
structure Report where
  /-- Whether the run went well. -/
  success : Bool
  /-- The lines on the standard output. -/
  output : List String
  /-- The lines beside it. -/
  messages : List String
deriving DecidableEq, Repr

/-- The report of a failure. -/
def Report.ofFailure (f : Failure) : Report := ⟨false, [], f.lines⟩

/-! ### Jobs -/

/-- A conversion that is ready to be made. -/
structure Job where
  /-- Where the document comes from. -/
  source : Source
  /-- The settings of the conversion. -/
  options : ConversionOptions
  /-- The categories of notes that are asked for. -/
  categories : List String
  /-- Whether the result is written on several lines. -/
  pretty : Bool
  /-- Whether the form of the result is checked. -/
  validate : Bool

namespace Arguments

/-- The settings file that is read. -/
def settingsSource (a : Arguments) : Source := .file (a.settingsFile.getD Settings.defaultFile)

/-- Where the document comes from. -/
def source (a : Arguments) : Source :=
  match a.input with
  | some name => .file name
  | none => .standardInput

/-- The settings in the file, which has to be there only if it is named. -/
def fileSettings (a : Arguments) (contents : Except String String) :
    Except SettingsError Settings :=
  match a.settingsFile with
  | some file => Settings.ofFile file contents
  | none => .ok (Settings.ofOptionalFile contents)

/-- The settings with those of the arguments in their place. -/
def override (a : Arguments) (s : Settings) : Settings where
  conversion := { s.conversion with
    mode := a.mode <|> s.conversion.mode
    threshold := a.threshold.getD s.conversion.threshold }
  output := {
    pretty := a.pretty || s.output.pretty
    validate := a.validate || s.output.validate }

/-- The conversion that arguments ask for, given the environment and what is in the settings file.
-/
def job (a : Arguments) (lookup : String → Option String) (contents : Except String String) :
    Except SettingsError Job := do
  let settings := a.override ((← a.fileSettings contents).override lookup)
  return {
    source := a.source
    options := ← settings.conversion.options
    categories := (settings.conversion.diagnostics.map Log.categories).getD []
    pretty := settings.output.pretty
    validate := settings.output.validate }

end Arguments

namespace Job

/-- The text of a result. -/
def write (j : Job) (outcome : Json) : String :=
  if j.pretty then outcome.pretty else outcome.compact

/-- Converts a document and reports the result, whose identifiers have the given token. -/
def finish (j : Job) (filter : Log.Filter) (token : String) (document : Except String String) :
    Report :=
  match document with
  | .error reason => .ofFailure (.unreadable j.source reason)
  | .ok text =>
    let c := Conversion.run j.options text
    let outcome := c.outcome token
    let events := c.events j.categories outcome
    match if j.validate then Schema.check outcome.toJson else .ok () with
    | .error message => ⟨false, [], filter.lines events ++ (Failure.form message).lines⟩
    | .ok () =>
      ⟨outcome.page?.isSome, [j.write outcome.toJson],
        filter.lines (events ++ outcome.closingEvent)⟩

end Job

/-! ### Runs -/

/-- What a run depends on besides its arguments. -/
structure Surroundings (m : Type → Type) where
  /-- The variables of the environment. -/
  lookup : String → Option String
  /-- Reads a text, or says why it cannot be read. -/
  read : Source → m (Except String String)

/-- The variable that holds the filter of log lines. -/
def filterVariable : String := "RUST_LOG"

/-- Runs the program; identifiers in the result have the given token. -/
def run {m : Type → Type} [Monad m] (s : Surroundings m) (token : String) (words : List String) :
    m Report :=
  match Request.ofWords words with
  | .error e => pure (.ofFailure (.arguments e))
  | .ok .usage => pure ⟨true, [usage], []⟩
  | .ok (.conversion a) => do
    match a.job s.lookup (← s.read a.settingsSource) with
    | .error e => pure (.ofFailure (.settings e))
    | .ok job =>
      return job.finish (.ofVariable (s.lookup filterVariable)) token (← s.read job.source)

end PageModules.CommandLine
