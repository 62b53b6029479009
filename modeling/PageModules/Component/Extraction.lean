import PageModules.Address.Absolute
import PageModules.Address.Query
import PageModules.Component.Parts
import PageModules.Markup.Ancestry
import PageModules.Markup.Serialization
import PageModules.Number.Integer

/-!
# Contents of components

`Component.ofElement` reads the attributes and the items of a component of a given type: the slides
of a slider, the panels of tabs, the fields of a form.
-/

namespace PageModules

open Text (Pattern isDigit isAsciiDigit isWordChar)
open Text.Pattern (sequence plus star blanks)

/-- An item of a component. -/
structure ComponentItem where
  /-- The type of module. -/
  type : ModuleType
  /-- The attributes. -/
  attrs : Attributes

/-- The contents of a component. -/
structure Component where
  /-- The attributes. -/
  attrs : Attributes
  /-- The items in order. -/
  items : List ComponentItem

namespace Component

/-! ### Drafts -/

/-- A component without items. -/
def ofDraft (draft : AttributeDraft) : Component := ⟨.ofDraft draft, []⟩

/-- A text, unless it is missing or empty. -/
def filled (s : Option String) : Option Json := s.bind Json.filledText?

/-- The text of an element, unless that is missing or empty. -/
def textOf (e : Option Element) : Option Json := filled (e.map (·.text))

/-- The markup inside of an element, unless that is missing or empty. -/
def markupOf (e : Option Element) : Option Json := filled (e.map (·.innerMarkup))

/-- Whether the value of a setting does not switch it off. -/
def isOn (value : String) : Bool :=
  !(["false", "0", "no", "off"].contains (Text.lowercase (Text.trim value)))

/-- A setting as a truth value. -/
def switch (value : Option String) : Option Json := value.map fun v => .bool (isOn v)

/-! ### Sliders -/

/-- The children of a slider that are slides. -/
def slides (e : Element) : List Element :=
  (e.repeatedChildren slideClasses).filter fun s =>
    s.hasAnyClass slideClasses || s.tagName == "div"

/-- The item for a slide. -/
def slideItem (s : Element) : ComponentItem :=
  ⟨.sliderItem, .ofDraft ([("heading", textOf (s.findDescendant? ["h1", "h2", "h3", "h4"])),
    ("image", filled s.firstImage?), ("background_image", filled s.backgroundAddress?),
    ("content", markupOf (s.findDescendant? ["p"]))] ++ s.buttonDraft)⟩

/-- A slider. -/
def slider (e : Element) : Component :=
  ⟨.ofDraft [("show_arrows", some (.bool true)), ("show_dots", some (.bool true)),
      ("auto", some (.bool false)), ("loop", some (.bool true)),
      ("auto", switch (e.attr? "data-autoplay")), ("show_arrows", switch (e.attr? "data-arrows")),
      ("show_dots", switch (e.firstFilledAttr? ["data-dots", "data-pagination"])),
      ("loop", switch (e.firstFilledAttr? ["data-loop", "data-infinite"])),
      ("auto_speed", ((e.firstFilledAttr? ["data-autoplay-speed", "data-speed"]).bind fun v =>
        Binary64.ofText? (Text.trim v)).map .ofNumber)],
    (slides e).map slideItem⟩

/-! ### Accordions -/

/-- The classes of open items. -/
def openClasses : List String := ["open", "active", "expanded", "show"]

/-- The item for a child of an accordion; one without a title has none. -/
def accordionItem? (item : Element) : Option ComponentItem :=
  item.accordionParts?.bind fun (header, content) =>
    (Json.filledText? header.text).map fun title =>
      ⟨.accordionItem, .ofDraft [("title", some title), ("content", markupOf (some content)),
        ("open", some (.bool (item.hasAnyClass openClasses)))]⟩

/-- An accordion. -/
def accordion (e : Element) : Component :=
  ⟨.ofDraft [("toggle_icon", some (.text "arrow")), ("toggle_icon_position", some (.text "right"))],
    e.childElements.filterMap accordionItem?⟩

/-! ### Tabs -/

/-- The navigation of tabs: an element with its class, or else a list among the children. -/
def tabNav? (e : Element) : Option Element :=
  (e.findClass? tabNavClasses).or (e.childElements.find? (·.tagName == "ul"))

/-- The titles of tabs: the links and buttons of the navigation, or else its list items. -/
def tabTitles (e : Element) : List String :=
  match tabNav? e with
  | none => []
  | some nav =>
    let controls := nav.descendants.filter (·.isOneOf ["a", "button"])
    ((if controls.isEmpty then nav.descendantsNamed "li" else controls)).map (·.text)

/-- The panels of tabs: the innermost elements with their class. -/
def tabPanels (e : Element) : List Element :=
  (e.descendants.filter (·.hasAnyClass tabPanelClasses)).filter fun p =>
    !p.hasClassBelow tabPanelClasses

/-- The title for a tab without one. -/
def defaultTabTitle (i : Nat) : String := "Tab " ++ String.ofList (Nat.toDigits 10 (i + 1))

/-- The item for the tab of a number. -/
def tabItem (titles : List String) (panels : List Element) (i : Nat) : ComponentItem :=
  let title := ((titles[i]?).filter fun t => !t.isEmpty).getD (defaultTabTitle i)
  let content := ((panels[i]?).map (·.innerMarkup)).getD ""
  ⟨.tabsItem, .ofDraft [("title", some (.text title)), ("content", some (.text content))]⟩

/-- Tabs. -/
def tabs (e : Element) : Component :=
  let titles := tabTitles e
  let panels := tabPanels e
  let active := (panels.findIdx? (·.hasAnyClass ["active", "show", "visible"])).getD 0
  ⟨.ofDraft [("active_tab_idx", some (.integer active))],
    (List.range (max titles.length panels.length)).map (tabItem titles panels)⟩

/-! ### Galleries -/

/-- The number of columns of a grid, captured. -/
def gridColumns : Pattern :=
  sequence [Pattern.text "grid-template-columns", blanks, Pattern.text ":", blanks,
    Pattern.text "repeat(", blanks, .capture 1 (plus isDigit)]

/-- The number of columns of a gallery: that of its grid or the one that is set, if it is a positive
number. -/
def galleryColumns (e : Element) : Int :=
  let written := ((e.attr? "style").bind fun s =>
    ((gridColumns.find? s.toList).bind (·.group? 1)).map String.ofList).or
      (e.filledAttr? "data-columns")
  ((written.bind fun v => Integer.ofText? (Text.trim v)).filter (0 < ·)).getD 3

/-- The caption of a picture that stands in a figure. -/
def caption? (l : Located) : Option String :=
  ((l.ancestors.head?.filter (·.tagName == "figure")).bind (·.findDescendant? ["figcaption"])).bind
    fun c => if c.text.isEmpty then none else some c.text

/-- The entry for a picture; one without an address has none. -/
def galleryEntry? (l : Located) : Option Attributes :=
  (l.element.filledAttr? "src").map fun src =>
    .ofDraft [("src", some (.text src)), ("alt", some (.text ((l.element.attr? "alt").getD ""))),
      ("title", (l.element.filledAttr? "title").map .text), ("caption", (caption? l).map .text)]

/-- A gallery. -/
def gallery (e : Element) : Component :=
  let entries := (e.located.filter (·.element.tagName == "img")).filterMap galleryEntry?
  ofDraft [("columns", some (.integer (galleryColumns e))),
    ("gallery_ids", some (.array (entries.map .ofAttributes))),
    ("show_title_and_caption", some (.bool (entries.any (·.contains "caption"))))]

/-! ### Persons -/

/-- A testimonial. -/
def testimonial (e : Element) : Component :=
  ofDraft [
    ("content", markupOf ((e.findDescendant? ["blockquote"]).or
      (e.findClass? ["content", "quote", "text", "review-text", "testimonial-content"]))),
    ("author", textOf ((e.findClass? authorClasses).or (e.findDescendant? ["cite"]))),
    ("portrait_url", filled e.firstImage?),
    ("job_title", textOf (e.findClass? ["position", "job", "job-title", "role", "title"])),
    ("company", textOf (e.findClass? ["company", "organization"]))]

/-- A member of a team. -/
def teamMember (e : Element) : Component :=
  ofDraft ([
    ("name", textOf ((e.findDescendant? ["h2", "h3", "h4", "h5"]).or
      (e.findClass? ["name", "member-name", "title"]))),
    ("position", textOf (e.findClass? ["position", "role", "job", "designation"])),
    ("image_url", filled e.firstImage?),
    ("content", markupOf (e.findClass? ["bio", "content", "description", "excerpt"]))] ++
    e.socialLinks.map fun l => (l.1 ++ "_url", Json.filledText? l.2))

/-- Links to social networks. -/
def socialFollow (e : Element) : Component :=
  ⟨.empty, e.socialLinks.map fun l => ⟨.socialFollowItem,
    .ofDraft [("social_network", some (.text l.1)), ("url", some (.text l.2))]⟩⟩

/-! ### Prices -/

/-- A price: what stands in front of the number, the number, and what follows it. -/
def pricePattern : Pattern :=
  let fraction := Pattern.optional (.seq (.char fun c => c == '.' || c == ',') (plus isDigit))
  sequence [.textStart, .capture 1 (star fun c => !isDigit c),
    .capture 2 (.seq (plus isDigit) fraction), .capture 3 (star (· != '\n')), .textEnd]

/-- The period of a price, captured. -/
def periodPattern : Pattern := sequence [Pattern.text "/", blanks, .capture 1 (plus isWordChar)]

/-- The attributes for a price text. -/
def priceDraft (s : String) : AttributeDraft :=
  match pricePattern.find? (Chars.squeeze s.toList) with
  | none => []
  | some m =>
    let part := fun i => (m.group? i).getD []
    let period := (periodPattern.find? (part 3)).bind (·.group? 1)
    [("currency", Json.filledText? (String.ofList (Chars.trim (part 1)))),
      ("price", Json.filledText? (String.ofList (part 2))),
      ("per", filled (period.map String.ofList))]

/-- A price table. -/
def pricingTable (e : Element) : Component :=
  let badge := e.findClass? ["badge", "ribbon", "label", "tag"]
  let isFeatured := e.hasAnyClass ["featured", "popular", "recommended", "highlighted"]
  ofDraft ([("currency", some (.text "$")), ("per", some (.text "month")),
      ("title", textOf (e.findDescendant? ["h2", "h3", "h4"]))] ++
    (match e.findClass? ["price", "amount", "cost"] with
      | some p => priceDraft p.text
      | none => []) ++
    [("content", filled ((e.findDescendant? ["ul"]).map (·.outerMarkup)))] ++ e.buttonDraft ++
    [("featured_text", textOf badge), ("featured", some (.bool (isFeatured || badge.isSome)))])

/-! ### Forms -/

/-- The kind of a control of a form; elements that are no controls have none. -/
def controlKind? (e : Element) : Option String :=
  match e.tagName with
  | "input" => some (Text.lowercase (Text.trim ((e.attr? "type").getD "text")))
  | "textarea" => some "textarea"
  | "select" => some "select"
  | _ => none

/-- The type of the field for a kind of controls. -/
def fieldType (kind : String) : String :=
  if ["textarea", "select", "email", "checkbox", "radio"].contains kind then kind else "input"

/-- The text of the label for the control of an identifier. -/
def labelOf? (form : Element) (id : String) : Option Element :=
  (form.descendantsNamed "label").find? fun l => l.attr? "for" == some id

/-- The item for an element of a form; only controls that the reader fills in have one. -/
def formField? (form control : Element) : Option ComponentItem :=
  (controlKind? control).bind fun kind =>
    if ["submit", "button", "hidden"].contains kind then none
    else some ⟨.contactFormField, .ofDraft [("field_type", some (.text (fieldType kind))),
      ("field_id", filled ((control.filledAttr? "name").or (control.filledAttr? "id"))),
      ("placeholder", filled (control.filledAttr? "placeholder")),
      ("field_title", textOf ((control.attr? "id").bind (labelOf? form))),
      ("required_mark", some (.bool (control.attr? "required").isSome))]⟩

/-- The text on the control that sends the form: that of a button, or of an input. -/
def submitText (form : Element) : String :=
  let button := ((form.descendantsNamed "button").find? (·.isSubmitButton)).bind fun b =>
    if b.text.isEmpty then none else some b.text
  let input := form.descendants.findSome? fun c =>
    if controlKind? c = some "submit" then (c.filledAttr? "value").map Text.trim else none
  (button.or input).getD "Submit"

/-- A form for messages. -/
def contactForm (e : Element) : Component :=
  ⟨.ofDraft [("submit_button_text", some (.text (submitText e)))],
    e.descendants.filterMap (formField? e)⟩

/-! ### Numbers and times -/

/-- A countdown. -/
def countdown (e : Element) : Component :=
  ofDraft [("end_date", filled ((e.firstFilledAttr? ["data-countdown", "data-date", "data-end",
      "data-timer"]).map Text.trim)),
    ("show_days", some (.bool true)), ("show_hours", some (.bool true)),
    ("show_minutes", some (.bool true)), ("show_seconds", some (.bool true))]

/-- The number that the digits and points of a text make up, or else these characters. -/
def looseNumber? (s : String) : Option Json :=
  let digits := s.toList.filter fun c => isAsciiDigit c || c == '.'
  match Binary64.ofChars? digits with
  | some x => some (.ofNumber x)
  | none => Json.filledText? (String.ofList digits)

/-- A counter. -/
def numberCounter (e : Element) : Component :=
  let written := (e.firstFilledAttr? ["data-counter", "data-count", "data-target",
    "data-number"]).or ((e.findClass? ["number", "count", "value", "digit"]).map (·.text))
  let isPercentage := written.any (·.contains '%')
  ofDraft [("percent_sign", if isPercentage then some (.bool true) else none),
    ("number", written.bind looseNumber?),
    ("title", textOf (e.findClass? ["label", "title", "text"]))]

/-! ### Embedded pages -/

/-- Drops `px`, any number of times, at the end of a text. -/
def dropPixelUnits (s : List Char) : List Char := (go s.reverse).reverse
where
  /-- Drops `xp` in front. -/
  go : List Char → List Char
    | 'x' :: 'p' :: s => go s
    | s => s

/-- The value of the first pair of a name that can be read. -/
def queryValue? {α : Type} (pairs : List (String × String)) (name : String)
    (read? : String → Option α) : Option α :=
  pairs.findSome? fun p => if p.1 = name then read? p.2 else none

/-- A map: its address and size are set on the element or read from the embedded page. -/
def map (e : Element) : Component :=
  let frame := e.findDescendant? ["iframe"]
  let pairs := (((frame.bind (·.attr? "src")).bind Absolute.query?).map Query.pairs).getD []
  let readInt := fun v : String => Integer.ofText? (Text.trim v)
  let address := (e.filledAttr? "data-address").or (queryValue? pairs "q" some)
  let zoom := ((e.filledAttr? "data-zoom").bind readInt).or (queryValue? pairs "zoom" readInt)
  let height := (frame.bind (·.attr? "height")).bind fun h =>
    Integer.ofText? (Text.mapChars dropPixelUnits (Text.trim h))
  ofDraft [("address", filled address), ("zoom", some (.integer (zoom.getD 14))),
    ("map_height", some (.integer (height.getD 400)))]

/-- A video: the address of an embedded page, or else of the video itself. -/
def video (e : Element) : Component :=
  let frame := (e.findDescendant? ["iframe"]).bind (·.filledAttr? "src")
  let own := (e.findDescendant? ["video"]).bind fun v =>
    (v.filledAttr? "src").or ((v.findDescendant? ["source"]).bind (·.filledAttr? "src"))
  ofDraft [("src", filled (frame.or own))]

/-! ### All components -/

/-- A component without a reading of its own. -/
def plain (e : Element) : Component :=
  ofDraft ([("title", textOf (e.findDescendant? Element.headingNames)),
    ("content", markupOf (e.findDescendant? ["p"])), ("image", filled e.firstImage?)] ++
    e.buttonDraft)

/-- The contents of a component of a type. -/
def ofElement (e : Element) : ModuleType → Component
  | .slider => slider e
  | .accordion => accordion e
  | .tabs => tabs e
  | .gallery => gallery e
  | .testimonial => testimonial e
  | .teamMember => teamMember e
  | .pricingTable => pricingTable e
  | .socialFollow => socialFollow e
  | .contactForm => contactForm e
  | .countdown => countdown e
  | .numberCounter => numberCounter e
  | .map => map e
  | .video => video e
  | _ => plain e

end Component

/-! ### Recognition -/

/-- A component that has been recognized. -/
structure Recognition where
  /-- The type. -/
  type : ModuleType
  /-- How sure the recognition is, at most 100. -/
  confidence : Nat
  /-- The contents. -/
  component : Component

/-- The component that an element is, by the best of the patterns. -/
def Element.recognize? (e : Element) : Option Recognition :=
  (ComponentPattern.best? e).map fun (p, score) =>
    ⟨p.type, min 100 (p.weigh score), .ofElement e p.type⟩

end PageModules
