import PageModules.Mapping.Fields
import PageModules.Walk.Plan

/-!
# Attributes of modules

The attributes of a module by where it comes from.  `Element.finish` adds the variants of the style
and lets author overrides win; `Origin.attributes` puts the attributes of each kind of module
together.
-/

namespace PageModules

namespace Element

/-! ### Finishing -/

/-- The attributes that never stay. -/
def transientKeys : List String := ["_tablet_styles", "_phone_styles", "_hover_styles"]

/-- Adds the variants of the style and then the author overrides. -/
def finish (e : Element) (base : Int) (attrs : Attributes) : Attributes :=
  ((attrs.merge (e.variantAttributes base)).merge e.overrides).filter fun key _ =>
    !transientKeys.contains key

/-! ### Rows -/

/-- The gap and the alignment of the columns of a row. -/
def rowLayout (e : Element) : Attributes :=
  .ofDraft [("column_gap", e.columnGap?.map .integer),
    ("vertical_align", e.verticalAlign?.map .text)]

/-- The number of columns in a division. -/
def columnTokens (division : String) : Nat :=
  (Text.splitOn ',' division).countP fun t => !Text.isBlankText t

/-- The division of a row with so many columns: the one that is set or the one that the widths of
the children give, if it has as many parts, and otherwise equal columns. -/
def divisionFor (e : Element) (attrs : Attributes) (columns : Nat) : String :=
  let division := ((attrs.find? "column_structure").bind Json.text?).getD e.columnStructure
  if columnTokens division = columns then division else Layout.equalColumns columns

/-- Sets the division of a row with so many columns. -/
def withDivision (e : Element) (columns : Nat) (attrs : Attributes) : Attributes :=
  attrs.insert "column_structure" (.text (e.divisionFor attrs columns))

/-! ### Items -/

/-- The attribute that holds the title of an item, for items that are filled. -/
def titleKey? : ModuleType → Option String
  | .accordionItem => some "title"
  | .tabsItem => some "title"
  | .sliderItem => some "heading"
  | _ => none

/-- The header and the contents of an item of the given type. -/
def itemParts? (e : Element) : ModuleType → Option (Element × Element)
  | .tabsItem => e.headerAndContent? ["tab-title"] Component.tabPanelClasses
  | _ => e.accordionParts?

/-- The values that an item has where its fields say nothing. -/
def itemDraft (e : Element) (type : ModuleType) (titleKey : String) : AttributeDraft :=
  (match e.itemParts? type with
    | some (header, content) => [(titleKey, Json.filledText? header.text),
      ("content", some (.text content.innerMarkup))]
    | none => if type = .tabsItem then [("content", some (.text e.innerMarkup))] else []) ++
  (if type = .accordionItem then
    [("open", some (.bool (e.hasAnyClass Component.openClasses)))] else [])

/-- Fills the attributes of an item that are missing. -/
def fillItem (e : Element) (type : ModuleType) (attrs : Attributes) : Attributes :=
  match titleKey? type with
  | some key => (Attributes.ofDraft (e.itemDraft type key)).merge attrs
  | none => attrs

end Element

/-! ### Modules -/

namespace Origin

/-- The settings of a section. -/
def sectionSettings (e : Element) : AttributeDraft :=
  [("fullwidth", some (.bool e.isFullWidth)), ("inner_width", e.innerWidth?.map .integer),
    ("row_gap", e.rowGap?.map .integer)]

/-- The attributes of an element of a known type; those of a row know the number of columns. -/
def typedAttributes (e : Element) (type : ModuleType) (base : Int) (columns : Nat) : Attributes :=
  let attrs := (e.fields type).merge (e.styleAttributes base)
  if type = .row then e.withDivision columns (attrs.merge e.rowLayout) else attrs

/-- The attributes of a module with so many modules inside. -/
def attributes (base : Int) (inside : Nat) : Origin → Attributes
  | typed e type => e.finish base (typedAttributes e type base inside)
  | item e type => e.finish base ((e.fillItem type (e.fields type)).merge (e.styleAttributes base))
  | recognized e r => e.finish base (r.component.attrs.merge (e.styleAttributes base))
  | componentItem i => i.attrs
  | text e =>
    e.finish base ((Attributes.ofDraft [("content", some (.text e.innerMarkup))]).merge
      (e.styleAttributes base))
  | ownText e => .ofDraft [("content", some (.text e.innerMarkup))]
  | dropped => .empty
  | shapedSection e =>
    e.finish base ((e.styleAttributes base).merge (Attributes.ofDraft (sectionSettings e)))
  | looseSection => .empty
  | shapedRow e =>
    e.finish base (e.withDivision inside ((e.styleAttributes base).merge e.rowLayout))
  | looseRow => .ofDraft [("column_structure", some (.text "1"))]
  | shapedColumn e => e.finish base (e.styleAttributes base)
  | looseColumn => .empty
  | wrapper e => e.styleAttributes base

/-- The type of the modules of an origin; what is dropped has none. -/
def type? : Origin → Option ModuleType
  | typed _ type => some type
  | item _ type => some type
  | recognized _ r => some r.type
  | componentItem i => some i.type
  | text _ => some .text
  | ownText _ => some .text
  | dropped => none
  | shapedSection _ => some .pageSection
  | looseSection => some .pageSection
  | shapedRow _ => some .row
  | looseRow => some .row
  | shapedColumn _ => some .column
  | looseColumn => some .column
  | wrapper _ => some .pageSection

end Origin

end PageModules
