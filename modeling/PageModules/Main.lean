import PageModules.CommandLine.Run

/-!
# The program

Reads the environment and the files, and prints what `CommandLine.run` reports.
-/

namespace PageModules.CommandLine

/-- The characters of a token. -/
def tokenChars : List Char := "0123456789abcdefghijklmnopqrstuvwxyz".toList

/-- A new token. -/
def randomToken : IO String := do
  let indices ← (List.replicate 13 ()).mapM fun _ => IO.rand 0 (tokenChars.length - 1)
  return String.ofList (indices.map fun i => tokenChars.getD i '0')

/-- The reason why a text cannot be read. -/
def reasonOf : IO.Error → String
  | .noFileOrDirectory _ code details => details ++ " (os error " ++ toString code ++ ")"
  | .permissionDenied _ code details => details ++ " (os error " ++ toString code ++ ")"
  | .inappropriateType _ code details => details ++ " (os error " ++ toString code ++ ")"
  | .invalidArgument _ code details => details ++ " (os error " ++ toString code ++ ")"
  | e => toString e

/-- The text of bytes. -/
def decode (bytes : ByteArray) : Except String String :=
  match String.fromUTF8? bytes with
  | some s => .ok s
  | none => .error "stream did not contain valid UTF-8"

/-- Reads a text. -/
def readSource (source : Source) : IO (Except String String) := do
  try
    match source with
    | .file name => return decode (← IO.FS.readBinFile name)
    | .standardInput => return decode (← (← IO.getStdin).readBinToEnd)
  catch e => return .error (reasonOf e)

/-- The variables that are set, of those that a run looks at. -/
def readVariables : IO (List (String × String)) := do
  let found ← (filterVariable :: Settings.variableNames).mapM fun name => do
    return (← IO.getEnv name).map (name, ·)
  return found.filterMap id

end PageModules.CommandLine

open PageModules.CommandLine

/-- Runs the program with the given arguments. -/
def main (args : List String) : IO UInt32 := do
  let found ← readVariables
  let report ← run ⟨(found.lookup ·), readSource⟩ (← randomToken) args
  report.output.forM (IO.println ·)
  report.messages.forM (IO.eprintln ·)
  return if report.success then 0 else 1
