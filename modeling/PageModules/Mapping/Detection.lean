import PageModules.Address.Site
import PageModules.Catalog.Definitions
import PageModules.Markup.Search
import PageModules.Markup.Styling

/-!
# Module types of elements

The type of module that an element stands for: the one that its marker names, or else what its tag,
its address, its classes and its style suggest.

* `Element.markedType?` is the type named by the marker.
* `Element.likelyType?` is the type that the element suggests; the rules are tried in order.
* `Element.headingLevel`, `Element.inputType?` and `Element.formRole` look at an element as a whole.
-/

namespace PageModules

/-- The role of a form. -/
inductive FormRole where
  /-- A search. -/
  | search
  /-- A login. -/
  | login
  /-- A registration. -/
  | signup
  /-- A message. -/
  | contact
deriving DecidableEq, Repr

namespace FormRole

/-- The name of a role. -/
def name : FormRole → String
  | search => "search"
  | login => "login"
  | signup => "signup"
  | contact => "contact"

/-- The type of module for a form of the role. -/
def type : FormRole → ModuleType
  | search => .search
  | login => .login
  | signup => .signup
  | contact => .contactForm

end FormRole

namespace Element

/-! ### Forms -/

/-- The inputs below. -/
def inputs (e : Element) : List Element := e.descendantsNamed "input"

/-- The type of an input, a text where none is given. -/
def inputKind (e : Element) : String := Text.lowercase (Text.trim ((e.attr? "type").getD "text"))

/-- The name of an input in lowercase. -/
def inputName (e : Element) : String := Text.lowercase (Text.trim ((e.attr? "name").getD ""))

/-- Whether a form is a search. -/
def isSearchForm (e : Element) : Bool :=
  e.inputs.any (fun i => i.inputKind == "search" || ["q", "s", "search"].contains i.inputName) ||
    e.hasAnyClass ["search-form", "search"] ||
    (e.attr? "role").any fun r => Text.sameIgnoringCase r "search"

/-- Whether a form is a registration. -/
def isSignupForm (e : Element) : Bool :=
  2 ≤ e.inputs.countP (·.inputKind == "password") ||
    e.hasAnyClass ["signup-form", "register-form", "registration"]

/-- Whether a form is a login. -/
def isLoginForm (e : Element) : Bool :=
  e.hasAnyClass ["login-form", "signin-form", "login"] ||
    (e.inputs.any (·.inputKind == "password") &&
      e.inputs.any (fun i => ["username", "user", "email", "login"].contains i.inputName) &&
      !e.isSignupForm)

/-- The role of a form; one that is nothing else is for messages. -/
def formRole (e : Element) : FormRole :=
  if e.isSearchForm then .search
  else if e.isLoginForm then .login
  else if e.isSignupForm then .signup
  else .contact

/-- The type of a control or of the first control below. -/
def inputType? (e : Element) : Option String :=
  let controls := ["input", "textarea", "select"]
  let control := if controls.contains e.tagName then some e else e.findDescendant? controls
  control.map fun c => if c.tagName = "input" then c.inputKind else c.tagName

/-! ### Headings and buttons -/

/-- The levels of headings. -/
def headingLevels : List String := ["h1", "h2", "h3", "h4", "h5", "h6"]

/-- The level for a text of the given size in pixels. -/
def levelOfSize (pixels : Int) : String :=
  if 48 ≤ pixels then "h1"
  else if 36 ≤ pixels then "h2"
  else if 28 ≤ pixels then "h3"
  else if 22 ≤ pixels then "h4"
  else if 18 ≤ pixels then "h5"
  else "h6"

/-- The level that an author override sets. -/
def levelOverride? (e : Element) : Option String :=
  (e.override? "level").bind fun l =>
    headingLevels.find? fun h => Text.sameIgnoringCase h (Text.trim l)

/-- The level of the element itself. -/
def ownLevel? (e : Element) : Option String := headingLevels.find? (· == e.tagName)

/-- The level of a heading: the one that is set, that of the element, that of the first heading
below, or the one that the size of the text suggests. -/
def headingLevel (e : Element) : String :=
  ((e.levelOverride?.or e.ownLevel?).or (e.descendants.findSome? ownLevel?)).getD
    (match e.style.get? "font-size" with
      | some size => levelOfSize (Length.pixels size StyleMap.defaultBaseFontSize)
      | none => "h2")

/-- The classes of buttons. -/
def buttonClasses : List String := ["btn", "button", "cta", "cta-button", "action-btn"]

/-- Whether the style makes a link a button: it stands in the line and has a padding or round
corners. -/
def hasButtonStyle (e : Element) : Bool :=
  (e.style.get? "display").any (fun d => Text.containsPiece "inline" (Text.lowercase d)) &&
    e.style.props.any fun p =>
      Text.startsWith "padding" p.1 || Text.startsWith "border-radius" p.1

/-- Whether an element looks like a button. -/
def looksLikeButton (e : Element) : Bool :=
  e.hasAnyClass buttonClasses || e.isNamed "button" || e.hasButtonStyle

/-! ### Types -/

/-- The type that the marker names. -/
def markedType? (e : Element) : Option ModuleType :=
  e.marker?.bind fun m => ModuleType.ofSlug? (Text.lowercase m)

/-- The type that the tag stands for, whatever its classes. -/
def tagType? (e : Element) : Option ModuleType :=
  if headingLevels.contains e.tagName then some .heading
  else match e.tagName with
    | "hr" => some .divider
    | "pre" => some .code
    | "audio" => some .audio
    | "video" => some .video
    | _ => none

/-- The type of an embedded page by its address. -/
def embedType? (e : Element) : Option ModuleType :=
  if e.tagName ≠ "iframe" then none
  else
    let src := (e.attr? "src").getD ""
    if Address.isVideo src then some .video
    else if Address.isMap src then some .map
    else none

/-- The type that the classes name. -/
def classType? (e : Element) : Option ModuleType :=
  (ModuleDefinition.ofClasses? e.classes).map (·.type)

/-- The type of a form without classes. -/
def formType? (e : Element) : Option ModuleType :=
  if e.tagName = "form" then some e.formRole.type else none

/-- The type of a link or button that looks like a button. -/
def buttonType? (e : Element) : Option ModuleType :=
  if ["a", "button"].contains e.tagName && e.looksLikeButton then some .button else none

/-- The type of a picture or of running text. -/
def leafType? (e : Element) : Option ModuleType :=
  if e.tagName = "img" then some .image
  else if e.tagName = "figure" && (e.findDescendant? ["img"]).isSome then some .image
  else if ["p", "blockquote", "ul", "ol"].contains e.tagName then some .text
  else none

/-- The type that the element suggests. -/
def likelyType? (e : Element) : Option ModuleType :=
  ((((e.tagType?.or e.embedType?).or e.classType?).or e.formType?).or e.buttonType?).or e.leafType?

/-- The type that the marker names, or else the one that the element suggests. -/
def type? (e : Element) : Option ModuleType := e.markedType?.or e.likelyType?

end Element

end PageModules
