import PageModules.Settings.Basic
import PageModules.Toml.Reader
import PageModules.Toml.Writer

/-!
# Settings files

`Settings.ofText?` reads settings from the text of a file, and `Settings.toText` writes them.  A
setting that is missing has its default, and names that are no settings are skipped.  A group of
settings may also be an array with the settings in order.
-/

namespace PageModules

namespace Toml

/-- The text that a value is. -/
def text? : Toml → Option String
  | text s => some s
  | _ => none

/-- The truth value that a value is. -/
def bool? : Toml → Option Bool
  | bool b => some b
  | _ => none

/-- The integer that a value is. -/
def integer? : Toml → Option Int
  | integer n => some n
  | _ => none

/-- The natural number of 32 bits that a value is. -/
def unsigned32? : Toml → Option Nat
  | integer n => if 0 ≤ n ∧ n ≤ Integer.maxUnsigned32 then some n.toNat else none
  | _ => none

/-- The members of a group with the given names: those of a table, or the items of an array in
order. A date counts as a table without any of the names. -/
def members? (names : List String) : Toml → Option Fields
  | table _ fields => some fields
  | closed fields => some fields
  | array items => some (names.zip items)
  | rows earlier last => some (names.zip ((earlier ++ [last]).map (table .written)))
  | dateTime _ => some []
  | _ => none

/-- A member in the given form, or the default where there is none. -/
def member? {α : Type} (fields : Fields) (name : String) (read? : Toml → Option α)
    (otherwise : α) : Option α :=
  match List.lookup name fields with
  | none => some otherwise
  | some v => read? v

end Toml

open Toml (member?)

/-- The settings of conversions that a value gives. -/
def ConversionSettings.ofToml? (v : Toml) : Option ConversionSettings := do
  let fields ← v.members? ["base_font_size", "recognition_threshold", "mode", "diagnostics"]
  let dflt : ConversionSettings := {}
  return {
    baseFontSize := ← member? fields "base_font_size" Toml.integer? dflt.baseFontSize
    threshold := ← member? fields "recognition_threshold" Toml.unsigned32? dflt.threshold
    mode := ← member? fields "mode" (·.text?.map some) dflt.mode
    diagnostics := ← member? fields "diagnostics" (·.text?.map some) dflt.diagnostics }

/-- The settings of the output that a value gives. -/
def OutputSettings.ofToml? (v : Toml) : Option OutputSettings := do
  let fields ← v.members? ["pretty", "validate"]
  let dflt : OutputSettings := {}
  return {
    pretty := ← member? fields "pretty" Toml.bool? dflt.pretty
    validate := ← member? fields "validate" Toml.bool? dflt.validate }

namespace Settings

/-- The settings that the text of a file gives. -/
def ofText? (s : String) : Option Settings := do
  let fields ← Toml.ofText? s
  return {
    conversion := ← member? fields "parser" ConversionSettings.ofToml? {}
    output := ← member? fields "output" OutputSettings.ofToml? {} }

/-- The settings in a file that is named, whose text or the reason why it cannot be read is given.
-/
def ofFile (file : String) : Except String String → Except SettingsError Settings
  | .error reason => .error (.unreadable file reason)
  | .ok s => (ofText? s).elim (.error (.malformed file)) .ok

/-- The settings in a file that need not be there: the defaults where it does not give any. -/
def ofOptionalFile (contents : Except String String) : Settings :=
  (contents.toOption.bind ofText?).getD {}

/-- A line of a settings file. -/
def line (name value : String) : String := name ++ " = " ++ value ++ "\n"

/-- A line with a text, where there is one. -/
def textLine (name : String) : Option String → String
  | none => ""
  | some s => line name (Toml.quote s)

/-- How a truth value is written. -/
def flag (b : Bool) : String := if b then "true" else "false"

/-- The text of a file with the settings. -/
def toText (s : Settings) : String :=
  "[parser]\n" ++ line "base_font_size" (toString s.conversion.baseFontSize) ++
    line "recognition_threshold" (toString s.conversion.threshold) ++
    textLine "mode" s.conversion.mode ++ textLine "diagnostics" s.conversion.diagnostics ++
    "\n[output]\n" ++ line "pretty" (flag s.output.pretty) ++
    line "validate" (flag s.output.validate)

end Settings

end PageModules
