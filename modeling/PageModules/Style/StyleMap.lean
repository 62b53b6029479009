import PageModules.KeyMap
import PageModules.Style.Nesting

/-!
# Style maps

A style map holds the declarations of a style text: ordinary properties in the order in which they
were first set, and the custom properties `--jtb-…` by name.  Setting a property again keeps its
place.

`StyleMap.ofText` reads a text such as `color: red; margin: 0 auto`; declarations without a colon,
a name or a value are left out, and the first `!important` of a value is dropped.
-/

namespace PageModules

/-- The declarations of a style text. -/
structure StyleMap where
  /-- The properties with their values, in the order of their first setting. -/
  props : List (String × String)
  /-- The custom properties, named without `--jtb-`. -/
  custom : KeyMap String

namespace StyleMap

/-! ### Look-up and change -/

/-- The map without declarations. -/
def empty : StyleMap := ⟨[], .empty⟩

instance : Inhabited StyleMap := ⟨empty⟩

/-- The value of a property. -/
def get? (m : StyleMap) (property : String) : Option String :=
  (m.props.find? fun p => p.1 == property).map (·.2)

/-- Whether a property is set. -/
def contains (m : StyleMap) (property : String) : Bool := (m.get? property).isSome

/-- Replaces the value of a property in a list of properties, or adds the property at the end. -/
def setIn (property value : String) : List (String × String) → List (String × String)
  | [] => [(property, value)]
  | p :: rest =>
    if p.1 = property then (property, value) :: rest else p :: setIn property value rest

/-- Sets a property; one that is set already keeps its place. -/
def set (m : StyleMap) (property value : String) : StyleMap :=
  { m with props := setIn property value m.props }

/-- Removes a property: its value and the map without it. -/
def remove (m : StyleMap) (property : String) : Option String × StyleMap :=
  (m.get? property, { m with props := m.props.eraseP fun p => p.1 == property })

/-- The value of a custom property. -/
def custom? (m : StyleMap) (name : String) : Option String := m.custom.find? name

/-- Sets a custom property. -/
def setCustom (m : StyleMap) (name value : String) : StyleMap :=
  { m with custom := m.custom.insert name value }

/-- The number of properties, custom ones not counted. -/
def size (m : StyleMap) : Nat := m.props.length

/-- Whether there are no declarations at all. -/
def isEmpty (m : StyleMap) : Bool := m.props.isEmpty && m.custom.isEmpty

/-- The same custom properties with other properties, set one after the other. -/
def withProps (m : StyleMap) (props : List (String × String)) : StyleMap :=
  props.foldl (fun out p => out.set p.1 p.2) ⟨[], m.custom⟩

/-- The properties of a list, set one after the other. -/
def ofPairs (props : List (String × String)) : StyleMap := empty.withProps props

/-! ### Reading -/

/-- What custom properties of interest start with. -/
def customMark : String := "--jtb-"

/-- Drops the first `!important`, in any case, and the blanks that this leaves at the ends. -/
def stripImportant (value : List Char) : List Char :=
  let mark := "!important".toList
  match Chars.find? mark (Chars.lowercase value) with
  | some i => Chars.trim (value.take i ++ value.drop (i + mark.length))
  | none => value

/-- The name in lowercase and the value of a declaration, unless one of them is missing. -/
def declarationOf? (piece : List Char) : Option (String × String) :=
  (Chars.splitAt? ':' piece).bind fun (name, value) =>
    let name := Chars.lowercase (Chars.trim name)
    let value := stripImportant (Chars.trim value)
    if name.isEmpty || value.isEmpty then none
    else some (String.ofList name, String.ofList value)

/-- Sets the property of a declaration, a custom one without its mark. -/
def declare (m : StyleMap) (declaration : String × String) : StyleMap :=
  match Text.dropPiece? customMark declaration.1 with
  | some name => m.setCustom name declaration.2
  | none => m.set declaration.1 declaration.2

/-- The declarations of a style text. -/
def ofText (source : String) : StyleMap :=
  ((Style.splitDeclarations (Chars.squeeze source.toList)).filterMap declarationOf?).foldl
    declare empty

end StyleMap

end PageModules
