import PageModules.Mapping.Detection
import PageModules.Mapping.Value
import PageModules.Markup.Serialization
import PageModules.Selector.Reader

/-!
# Fields of modules

`Element.fields` reads the fields of a module of a given type from an element by the rules of the
catalog.  Author overrides (`Element.overrides`) win over what the rules read.
-/

namespace PageModules

namespace Element

/-! ### Overrides -/

/-- The key that the name of an attribute overrides. -/
def overrideKey? (name : String) : Option String :=
  (Text.dropPiece? overrideMark name).bind fun key =>
    if key.isEmpty then none else some (Text.replaceChar '-' '_' key)

/-- The author overrides with their values. -/
def overrides (e : Element) : Attributes :=
  .ofList (e.tag.attrs.filterMap fun a =>
    (overrideKey? a.name).map fun k => (k, attributeValue a.value))

end Element

namespace FieldSource

/-! ### Sources -/

/-- The value that an attribute of the given name gives.  A flag that is set without a value, or
with its name as the value, is true. -/
def attrValue? (kind : FieldKind) (name value : String) : Option Json :=
  let trimmed := Text.trim value
  let isFlag := !Text.startsWith Element.overrideMark name &&
    (trimmed.isEmpty || Text.sameIgnoringCase trimmed name)
  if kind = .bool ∧ isFlag then some (.bool true) else kind.cast? value

/-- The text of what a selector found. -/
def hitText (asMarkup : Bool) : Hit → String
  | .attr value => value
  | .element e => if asMarkup then e.innerMarkup else e.text

/-- The value that a selector gives: all that it finds for a list, and otherwise the first. -/
def selectedValue? (kind : FieldKind) (selector : String) (asMarkup : Bool) (e : Element) :
    Option Json :=
  let selector := Selector.ofText selector
  if kind = .array then
    match (selector.findAll e).map (hitText asMarkup) with
    | [] => none
    | texts => some (.array (texts.map .text))
  else
    (selector.find? e).bind fun hit =>
      match kind, hit with
      | .bool, .attr value => attrValue? .bool "" value
      | _, _ => kind.cast? (hitText asMarkup hit)

/-- What a detector tells about an element. -/
def detectedValue? (e : Element) : Detector → Option Json
  | .headingLevel => some (.text e.headingLevel)
  | .inputType => e.inputType?.map .text
  | .formRole => some (.text e.formRole.name)

/-- The value of the given kind that a source gives for an element. -/
def value? (source : FieldSource) (kind : FieldKind) (e : Element) : Option Json :=
  match source with
  | .attr name => (e.attr? name).bind (attrValue? kind name)
  | .selected selector => selectedValue? kind selector false e
  | .selectedMarkup selector => selectedValue? kind selector true e
  | .text => kind.cast? e.text
  | .innerMarkup => some (.text e.innerMarkup)
  | .hasClass name => if e.hasClass name then some (.bool true) else none
  | .classRest start =>
    e.classes.findSome? fun c => (Text.dropPiece? start c).bind fun rest =>
      if rest.isEmpty then none else some (.text rest)
  | .detected detector => detectedValue? e detector

end FieldSource

/-- The value of a field: that of the first source that has one, or else the default. -/
def FieldRule.value? (rule : FieldRule) (e : Element) : Option Json :=
  (rule.sources.findSome? fun source => source.value? rule.kind e).or rule.default

namespace Element

/-! ### Modules -/

/-- The fields that the rules of a type read. -/
def catalogFields (e : Element) (type : ModuleType) : Attributes :=
  match ModuleDefinition.of? type with
  | some d => .ofList (d.fields.filterMap fun rule => (rule.value? e).map fun v => (rule.name, v))
  | none => .empty

/-- The fields of a module of a type. -/
def fields (e : Element) (type : ModuleType) : Attributes :=
  (e.catalogFields type).merge e.overrides

end Element

end PageModules
