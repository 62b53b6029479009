import PageModules.Walk.Conversion

/-!
# Sessions

A session converts documents one after the other with the same options.  It carries the identifiers,
the style sheet and the way of reading from one conversion to the next; each conversion starts by
forgetting them (`Session.reset`), also where it fails afterwards.
-/

namespace PageModules

/-- A session. -/
structure Session where
  /-- The settings of all conversions. -/
  options : ConversionOptions
  /-- The identifiers of the last conversion. -/
  ids : Identifiers
  /-- The style sheet. -/
  css : String
  /-- The way in which the last document was read. -/
  mode : WalkMode

namespace Session

/-- A session without conversions. -/
def start (options : ConversionOptions) : Session := ⟨options, { token := "" }, "", .generic⟩

/-- The number of modules of the last conversion. -/
def modulesCount (s : Session) : Nat := s.ids.count

/-- Takes up a token and a way of reading, and forgets the identifiers and the style sheet. -/
def reset (s : Session) (token : String) (mode : WalkMode) : Session :=
  { s with ids := { token }, css := "", mode := mode }

/-- Converts a text: the outcome, whose identifiers have the given token, and the session after it.
-/
def convert (s : Session) (token text : String) : Outcome × Session :=
  let c := Conversion.run s.options text
  let s := s.reset token c.mode
  match c.builder with
  | .error err => (.failure err.message, s)
  | .ok build =>
    let (content, ids) := build.run s.ids
    let s := { s with ids := ids }
    (.page {
      success := true
      content := content
      css := s.css
      mode := s.mode
      modulesCount := s.modulesCount }, s)

/-- Converts texts one after the other, each with its token: the outcomes, each with the session
after it. -/
def convertAll (s : Session) : List (String × String) → List (Outcome × Session)
  | [] => []
  | (token, text) :: rest =>
    let result := s.convert token text
    result :: result.2.convertAll rest

end Session

end PageModules
