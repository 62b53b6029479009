import PageModules.Number.Integer
import PageModules.Text.Basic

/-!
# Arguments of the command line

`Request.ofWords` reads the arguments from the left.  A flag that takes a value takes the next word,
whatever it is; the last value of a flag counts.  Asking for help ends the reading.
-/

namespace PageModules.CommandLine

/-- What the arguments of a conversion say. -/
structure Arguments where
  /-- The file with the document; without it the document is read from the standard input. -/
  input : Option String := none
  /-- The file with the settings. -/
  settingsFile : Option String := none
  /-- The name of the way in which the document is read. -/
  mode : Option String := none
  /-- What the confidence of a recognition has to be above. -/
  threshold : Option Nat := none
  /-- Whether the result is written on several lines. -/
  pretty : Bool := false
  /-- Whether the form of the result is checked. -/
  validate : Bool := false
deriving DecidableEq, Repr

/-- What is wrong with arguments. -/
inductive ArgumentError where
  /-- The flag for the settings file is the last word. -/
  | noSettingsFile
  /-- The flag for the way of reading is the last word. -/
  | noMode
  /-- The flag for the threshold is the last word. -/
  | noThreshold
  /-- The threshold is no number. -/
  | badThreshold (text : String) (fault : Integer.Fault)
  /-- There is no such flag. -/
  | unknownFlag (flag : String)
  /-- A file is named although there is one already. -/
  | secondInput
deriving DecidableEq, Repr

namespace ArgumentError

/-- The wording of an error. -/
def message : ArgumentError → String
  | noSettingsFile => "--config expects a path"
  | noMode => "--mode expects jtb_annotated or generic"
  | noThreshold => "--threshold expects a number"
  | badThreshold s _ => "invalid --threshold `" ++ s ++ "`"
  | unknownFlag flag => "unknown flag " ++ flag
  | secondInput => "only one input file may be given"

/-- What caused the error, if it has a cause of its own. -/
def cause? : ArgumentError → Option String
  | badThreshold _ fault => some fault.message
  | _ => none

end ArgumentError

/-- What the program is asked to do. -/
inductive Request where
  /-- To show how it is used. -/
  | usage
  /-- To convert a document. -/
  | conversion (a : Arguments)
deriving DecidableEq, Repr

/-- What a word of the command line is, unless it is the value of a flag. -/
inductive Word where
  /-- The flag for the settings file. -/
  | settingsFile
  /-- The flag for the way of reading. -/
  | mode
  /-- The flag for the threshold. -/
  | threshold
  /-- The flag for several lines of output. -/
  | pretty
  /-- The flag for the check of the result. -/
  | validate
  /-- The flag for help. -/
  | help
  /-- The sign for the standard input. -/
  | standardInput
  /-- A flag that does not exist. -/
  | unknownFlag (flag : String)
  /-- A file. -/
  | file (name : String)
deriving DecidableEq, Repr

/-- What a word is. -/
def Word.ofText (s : String) : Word :=
  if s = "--config" then settingsFile
  else if s = "--mode" then mode
  else if s = "--threshold" then threshold
  else if s = "--pretty" then pretty
  else if s = "--validate" then validate
  else if s = "-h" ∨ s = "--help" then help
  else if s = "-" then standardInput
  else if Text.startsWith "--" s then unknownFlag s
  else file s

namespace Request

/-- Reads the words that follow those which say `a`. -/
def read (a : Arguments) : List String → Except ArgumentError Request
  | [] => .ok (.conversion a)
  | word :: rest =>
    match Word.ofText word, rest with
    | .settingsFile, [] => .error .noSettingsFile
    | .settingsFile, value :: rest => read { a with settingsFile := some value } rest
    | .mode, [] => .error .noMode
    | .mode, value :: rest => read { a with mode := some value } rest
    | .threshold, [] => .error .noThreshold
    | .threshold, value :: rest =>
      match Integer.readUnsigned32 value with
      | .ok n => read { a with threshold := some n } rest
      | .error fault => .error (.badThreshold value fault)
    | .pretty, rest => read { a with pretty := true } rest
    | .validate, rest => read { a with validate := true } rest
    | .help, _ => .ok .usage
    | .standardInput, rest => read { a with input := none } rest
    | .unknownFlag flag, _ => .error (.unknownFlag flag)
    | .file name, rest =>
      if a.input.isSome then .error .secondInput else read { a with input := some name } rest

/-- The request of a command line. -/
def ofWords (words : List String) : Except ArgumentError Request := read {} words

end Request

end PageModules.CommandLine
