import PageModules.Catalog.ModuleType

/-!
# Pages of modules

A `PageModule` is a module with its attributes and the modules inside of it.  A `Page` is the result
of a conversion that went well, an `Outcome` the result of any conversion.
-/

namespace PageModules

/-- A module of a page. -/
structure PageModule where
  /-- The identifier. -/
  id : String
  /-- The type. -/
  type : ModuleType
  /-- The attributes. -/
  attrs : Attributes
  /-- The modules inside, in order. -/
  children : List PageModule

namespace PageModule

mutual

/-- The number of modules of a tree. -/
def count : PageModule → Nat
  | ⟨_, _, _, children⟩ => countAll children + 1

/-- The number of modules of several trees. -/
def countAll : List PageModule → Nat
  | [] => 0
  | m :: rest => count m + countAll rest

end

mutual

/-- The modules of a tree, each in front of those inside of it. -/
def preorder : PageModule → List PageModule
  | ⟨id, type, attrs, children⟩ => ⟨id, type, attrs, children⟩ :: preorderAll children

/-- The modules of several trees, each in front of those inside of it. -/
def preorderAll : List PageModule → List PageModule
  | [] => []
  | m :: rest => preorder m ++ preorderAll rest

end

end PageModule

/-- The way in which a document is read. -/
inductive WalkMode where
  /-- By the markers of the author. -/
  | annotated
  /-- By the shape of the elements. -/
  | generic
deriving DecidableEq, Repr

namespace WalkMode

/-- The name of a mode. -/
def name : WalkMode → String
  | annotated => "jtb_annotated"
  | generic => "generic"

/-- The mode of exactly the given name. -/
def ofName? (s : String) : Option WalkMode := [annotated, generic].find? fun m => m.name == s

/-- The mode that a setting asks for, in any case, with blanks around it and without the first part
of the name. -/
def ofSetting? (s : String) : Option WalkMode :=
  match Text.lowercase (Text.trim s) with
  | "jtb_annotated" => some annotated
  | "annotated" => some annotated
  | "generic" => some generic
  | _ => none

end WalkMode

/-- The result of a conversion that went well. -/
structure Page where
  /-- Whether the conversion went well. -/
  success : Bool
  /-- The modules. -/
  content : List PageModule
  /-- The style sheet. -/
  css : String
  /-- The way in which the document was read. -/
  mode : WalkMode
  /-- The number of modules. -/
  modulesCount : Nat

/-- The result of a conversion. -/
inductive Outcome where
  /-- A page. -/
  | page (p : Page)
  /-- The message of an error. -/
  | failure (message : String)

namespace Outcome

/-- The page, if there is one. -/
def page? : Outcome → Option Page
  | page p => some p
  | failure _ => none

/-- The message of the error, if there is one. -/
def message? : Outcome → Option String
  | page _ => none
  | failure s => some s

end Outcome

end PageModules
