import PageModules.Number.Integer
import PageModules.Walk.Conversion

/-!
# Settings

The settings of the program: how documents are converted and how the result is written.  They come
from a file, and variables of the environment take precedence (`Settings.override`).  What a
conversion uses is brought into range by `ConversionSettings.options`.
-/

namespace PageModules

/-- The settings of conversions as they are written down. -/
structure ConversionSettings where
  /-- The font size in pixels that relative lengths refer to. -/
  baseFontSize : Int := ({} : ConversionOptions).baseFontSize
  /-- What the confidence of a recognition has to be above. -/
  threshold : Nat := ({} : ConversionOptions).threshold
  /-- The name of the way in which documents are read. -/
  mode : Option String := none
  /-- The categories of notes that are shown. -/
  diagnostics : Option String := none
deriving DecidableEq, Repr

/-- The settings of the output. -/
structure OutputSettings where
  /-- Whether the result is written on several lines. -/
  pretty : Bool := false
  /-- Whether the form of the result is checked. -/
  validate : Bool := false
deriving DecidableEq, Repr

/-- The settings of the program. -/
structure Settings where
  /-- The settings of conversions. -/
  conversion : ConversionSettings := {}
  /-- The settings of the output. -/
  output : OutputSettings := {}
deriving DecidableEq, Repr

/-- What is wrong with settings. -/
inductive SettingsError where
  /-- The file cannot be read, for the given reason. -/
  | unreadable (file reason : String)
  /-- The file does not have the form of a settings file. -/
  | malformed (file : String)
  /-- There is no way of reading of this name. -/
  | unknownMode (name : String)
deriving DecidableEq, Repr

/-- The wording of an error. -/
def SettingsError.message : SettingsError → String
  | unreadable file reason => "failed to read config file " ++ file ++ ": " ++ reason
  | malformed file => "failed to parse config file " ++ file
  | unknownMode name =>
    "unknown parse mode `" ++ name ++ "` (expected `jtb_annotated` or `generic`)"

namespace ConversionSettings

/-- The way in which documents are read, if one is set. -/
def mode? (s : ConversionSettings) : Except SettingsError (Option WalkMode) :=
  match s.mode with
  | none => .ok none
  | some name =>
    match WalkMode.ofSetting? name with
    | some mode => .ok (some mode)
    | none => .error (.unknownMode name)

/-- The settings in the form that conversions use: a font size of at least one pixel, and a
threshold of at most a hundred. -/
def options (s : ConversionSettings) : Except SettingsError ConversionOptions :=
  s.mode?.map fun mode =>
    { baseFontSize := max s.baseFontSize 1, threshold := min s.threshold 100, mode }

end ConversionSettings

namespace Settings

/-- The file that is read where none is named. -/
def defaultFile : String := "jtb.toml"

/-- The variables of the environment that are settings. -/
def variableNames : List String :=
  ["JTB_BASE_FONT_SIZE", "JTB_RECOGNITION_THRESHOLD", "JTB_MODE", "JTB_DIAGNOSTICS", "JTB_PRETTY",
    "JTB_VALIDATE"]

/-- What a variable says that is on or off. -/
def isOn (s : String) : Bool := s == "1" || Text.sameIgnoringCase s "true"

/-- The settings with those of the environment in their place.  A number that cannot be read leaves
the setting as it was. -/
def override (s : Settings) (lookup : String → Option String) : Settings where
  conversion := {
    baseFontSize :=
      ((lookup "JTB_BASE_FONT_SIZE").bind fun v => Integer.ofText? (Text.trim v)).getD
        s.conversion.baseFontSize
    threshold :=
      ((lookup "JTB_RECOGNITION_THRESHOLD").bind fun v =>
        (Integer.readUnsigned32 (Text.trim v)).toOption).getD s.conversion.threshold
    mode := lookup "JTB_MODE" <|> s.conversion.mode
    diagnostics := lookup "JTB_DIAGNOSTICS" <|> s.conversion.diagnostics }
  output := {
    pretty := ((lookup "JTB_PRETTY").map isOn).getD s.output.pretty
    validate := ((lookup "JTB_VALIDATE").map isOn).getD s.output.validate }

end Settings

end PageModules
