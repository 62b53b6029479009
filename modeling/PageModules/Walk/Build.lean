import PageModules.Page.Module
import PageModules.Walk.Attributes

/-!
# Building modules

`Plan.build` builds the modules of a plan: one for most plans, none for what is dropped, and for an
element of no type the modules inside of it, in a section if there are several.

While modules are built, identifiers are drawn (`Build.next`).  A module draws its own in front of
those inside of it; only the section around the modules of an element of no type draws it behind
them, as they have to be built before it is known whether there is a section at all.
-/

namespace PageModules

/-! ### Identifiers -/

/-- The identifier of a module: its type, the token of the conversion, and its number. -/
def ModuleType.identifier (type : ModuleType) (token : String) (n : Nat) : String :=
  type.slug ++ "_" ++ token ++ "_" ++ String.ofList (Nat.toDigits 10 n)

/-- The identifiers of a conversion. -/
structure Identifiers where
  /-- The token that all of them have. -/
  token : String
  /-- How many of them were drawn. -/
  count : Nat := 0
deriving DecidableEq, Repr

/-- A part of a conversion that may draw identifiers. -/
abbrev Build := StateM Identifiers

/-- Draws the next identifier, for a module of the given type. -/
def Build.next (type : ModuleType) : Build String := fun ids =>
  (type.identifier ids.token (ids.count + 1), { ids with count := ids.count + 1 })

/-! ### Builders -/

namespace Origin

/-- Draws an identifier, builds what is inside and puts the module around it.  The attributes may
depend on how many modules are inside. -/
def buildAround (type : ModuleType) (attrs : Nat → Attributes)
    (inside : Build (List PageModule)) : Build (List PageModule) := do
  let id ← Build.next type
  let modules ← inside
  return [⟨id, type, attrs modules.length, modules⟩]

/-- Builds what is inside and gives it back if it is one module or none; draws an identifier for the
module around several. -/
def buildAroundSeveral (type : ModuleType) (attrs : Nat → Attributes)
    (inside : Build (List PageModule)) : Build (List PageModule) := do
  let modules ← inside
  if modules.length ≤ 1 then return modules
  let id ← Build.next type
  return [⟨id, type, attrs modules.length, modules⟩]

/-- Builds the modules of an origin around what is inside.  An element without anything to show
draws no identifier. -/
def build (base : Int) (o : Origin) (inside : Build (List PageModule)) : Build (List PageModule) :=
  match o with
  | typed _ type => buildAround type (o.attributes base) inside
  | item _ type => buildAround type (o.attributes base) inside
  | recognized _ r => buildAround r.type (o.attributes base) inside
  | componentItem i => buildAround i.type (o.attributes base) inside
  | text _ => buildAround .text (o.attributes base) inside
  | ownText _ => buildAround .text (o.attributes base) inside
  | dropped => return []
  | shapedSection _ => buildAround .pageSection (o.attributes base) inside
  | looseSection => buildAround .pageSection (o.attributes base) inside
  | shapedRow _ => buildAround .row (o.attributes base) inside
  | looseRow => buildAround .row (o.attributes base) inside
  | shapedColumn _ => buildAround .column (o.attributes base) inside
  | looseColumn => buildAround .column (o.attributes base) inside
  | wrapper _ => buildAroundSeveral .pageSection (o.attributes base) inside

end Origin

namespace Plan

mutual

/-- Builds the modules of a plan. -/
def build (base : Int) : Plan → Build (List PageModule)
  | node _ origin children => origin.build base (buildAll base children)

/-- Builds the modules of several plans, one after the other. -/
def buildAll (base : Int) : List Plan → Build (List PageModule)
  | [] => return []
  | p :: rest => do
    let modules ← build base p
    let others ← buildAll base rest
    return modules ++ others

end

end Plan

end PageModules
