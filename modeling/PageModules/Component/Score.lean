import PageModules.Address.Site
import PageModules.Component.Pattern
import PageModules.Markup.Search
import PageModules.Text.Pattern

/-!
# Scores of component patterns

`ComponentPattern.score` adds up what speaks for a pattern in an element; it is zero where the tag
differs or the required children are missing.  `ComponentPattern.best?` is the pattern with the
greatest weighted score, the earlier one of two that are equal.

Scores are numbers of 32 bits: a sum or a product that is too large for them wraps around.
-/

namespace PageModules

open Text (Pattern isDigit)
open Text.Pattern (sequence choice plus blanks)

/-- A score as a natural number. -/
instance coeScore : Coe UInt32 Nat := ⟨UInt32.toNat⟩

namespace Element

/-! ### Parts of components -/

/-- The classes of cards. -/
def cardClasses : List String := ["post", "article", "card", "item", "project", "entry"]

/-- The names of headings. -/
def headingNames : List String := ["h1", "h2", "h3", "h4", "h5", "h6"]

/-- Whether an element is a card: by its tag, by a class, or as a block with a picture or a heading.
-/
def isCard (e : Element) : Bool :=
  e.tagName == "article" || e.hasAnyClass cardClasses ||
    (["div", "li"].contains e.tagName && (e.hasBelow ["img"] || e.hasBelow headingNames))

/-- The children with one of the classes, and blocks. -/
def repeatedChildren (e : Element) (classes : List String) : List Element :=
  e.childElements.filter fun c =>
    c.hasAnyClass classes || ["div", "section", "article", "li"].contains c.tagName

/-- The elements that may be the header of an item. -/
def headerTags : List String := ["h1", "h2", "h3", "h4", "h5", "h6", "button"]

/-- The elements that may be the contents of an item. -/
def contentTags : List String := ["div", "section", "p"]

/-- The header and the contents of an item: the first child that looks like a header, and of the
others the first with a class of contents, or else the first block. -/
def headerAndContent? (e : Element) (headerClasses contentClasses : List String) :
    Option (Element × Element) :=
  let parts := e.childElements
  let isHeader := fun p : Element => p.hasAnyClass headerClasses || headerTags.contains p.tagName
  (parts.findIdx? isHeader).bind fun i =>
    let others := parts.eraseIdx i
    let content := (others.find? (·.hasAnyClass contentClasses)).or
      (others.find? fun p => contentTags.contains p.tagName)
    (parts[i]?).bind fun header => content.map fun content => (header, content)

/-- The header and the contents of an item of an accordion. -/
def accordionParts? (e : Element) : Option (Element × Element) :=
  e.headerAndContent? Component.headerClasses Component.contentClasses

/-- Whether there is an icon below. -/
def hasIcon (e : Element) : Bool :=
  e.hasBelow ["i", "svg"] || e.hasClassBelow ["icon", "fa", "feather", "material-icons"]

/-- Whether a page of one of the sites is embedded below. -/
def embeds (e : Element) (sites : List String) : Bool :=
  (e.descendantsNamed "iframe").any fun f => Address.names sites ((f.attr? "src").getD "")

/-- Whether a link below leads to one of the networks. -/
def linksTo (e : Element) (networks : List String) : Bool :=
  (e.descendantsNamed "a").any fun a => Address.names networks ((a.attr? "href").getD "")

/-- Whether an element sends a form when it is pressed as a button. -/
def isSubmitButton (e : Element) : Bool :=
  let kind := Text.trim ((e.attr? "type").getD "")
  kind.isEmpty || Text.sameIgnoringCase kind "submit"

/-- Whether an input takes a line of text. -/
def isTextInput (e : Element) : Bool :=
  ["", "text", "email", "tel", "number", "url"].contains
    (Text.lowercase (Text.trim ((e.attr? "type").getD "")))

end Element

namespace ComponentCheck

/-! ### Checks -/

/-- A price in dollars. -/
def priceText : Pattern :=
  choice [sequence [Pattern.text "$", blanks, plus isDigit],
    sequence [plus isDigit, blanks, Pattern.text "$"]]

/-- A number of at least two digits. -/
def largeNumber : Pattern :=
  sequence [.wordBoundary, .many 2 none false isDigit, .wordBoundary]

/-- The points of a condition. -/
def points (holds : Bool) (n : UInt32) : UInt32 := if holds then n else 0

/-- The points that a check gives an element. -/
def score (e : Element) : ComponentCheck → UInt32
  | iconOrPicture => points (e.hasBelow ["img"] || e.hasIcon) 10
  | title classes =>
    points (e.hasBelow Element.headingNames) 10 +
      points (e.hasClassBelow (classes ++ ["title", "name", "heading"])) 5
  | description =>
    points (e.hasBelow ["p"] || e.hasClassBelow ["description", "content", "text", "excerpt"]) 8
  | button => points (e.hasBelow ["button"] || e.hasClassBelow ["btn", "button", "cta"]) 10
  | quotation classes => points (e.hasBelow ["blockquote"] || e.hasClassBelow classes) 10
  | author classes => points (e.hasClassBelow classes) 10
  | price classes => points (e.hasClassBelow classes || priceText.isIn e.text.toList) 15
  | features classes => points (e.hasBelow ["ul", "ol"] || e.hasClassBelow classes) 10
  | position classes => points (e.hasClassBelow classes) 8
  | socialLinks networks => points (e.linksTo networks || e.hasClassBelow networks) 15
  | videoElement sites => points (e.hasBelow ["video"] || e.embeds sites) 20
  | embeddedPage sites => points (e.hasBelow ["iframe"]) 10 + points (e.embeds sites) 15
  | textInputs =>
    points ((e.descendantsNamed "input").any (·.isTextInput) || e.hasBelow ["textarea"]) 10
  | submit =>
    points ((e.descendantsNamed "button").any (·.isSubmitButton)) 10 +
      points ((e.descendantsNamed "input").any fun i =>
        (i.attr? "type").any fun t => Text.sameIgnoringCase t "submit") 10
  | timeUnits units =>
    points (e.hasClassBelow units ||
      units.any (Text.containsPiece · (Text.lowercase e.text))) 15
  | number =>
    points (e.hasClassBelow ["number", "count", "value", "digit"] ||
      largeNumber.isIn e.text.toList) 10
  | label => points (e.hasClassBelow ["label", "title", "text"]) 5
  | largeHeading => points (e.hasBelow ["h1", "h2"]) 15
  | background =>
    points ((e.attr? "style").any (fun s => Text.containsPiece "background" (Text.lowercase s)) ||
      (e.attr? "data-background").isSome || (e.attr? "data-bg").isSome) 10
  | navAndPanels nav panels =>
    if e.hasClassBelow nav || e.hasBelow ["ul"] then
      if e.hasClassBelow panels then 20 else 5
    else 0

end ComponentCheck

namespace ChildrenRule

/-- The points that the children give; `least` is the number of repeated children that count. -/
def score (e : Element) (least : Nat) : ChildrenRule → UInt32
  | repeated classes =>
    let n := (e.repeatedChildren classes).length
    if least ≤ n then 20 + 3 * .ofNat n else 0
  | headedItems =>
    let n := UInt32.ofNat (e.childElements.countP (·.accordionParts?.isSome))
    if 1 ≤ n then 25 + 5 * n else 0
  | pictures least =>
    let n := e.countDescendants ["img"]
    if least ≤ n then 20 + 2 * .ofNat n else 0
  | cards =>
    let n := UInt32.ofNat (e.childElements.countP (·.isCard))
    if 2 ≤ n then 15 + 3 * n else 0

end ChildrenRule

namespace ComponentPattern

/-! ### Scores -/

/-- The points for classes. -/
def classScore (p : ComponentPattern) (e : Element) : UInt32 :=
  let n := UInt32.ofNat (p.classes.countP e.classes.contains)
  if 0 < n then 30 + 5 * n else 0

/-- The points for an attribute: more where it has the given value. -/
def attrScore (e : Element) : String × Option String → UInt32
  | (name, some value) => ComponentCheck.points (e.attr? name == some value) 15
  | (name, none) => ComponentCheck.points (e.attr? name).isSome 10

/-- The points for the children. -/
def childrenScore (p : ComponentPattern) (e : Element) : UInt32 :=
  match p.children with
  | some rule => rule.score e (p.requiredChildren.getD 2)
  | none => 0

/-- Whether the element cannot be the component: its tag differs or its children are missing. -/
def isVetoed (p : ComponentPattern) (e : Element) : Bool :=
  p.tag.any (fun t => !e.isNamed t) ||
    (p.requiredChildren.isSome && p.children.isSome && p.childrenScore e = 0)

/-- The score of a pattern: the points for the tag and the classes, for the attributes, for the
children and for what stands below. -/
def score (p : ComponentPattern) (e : Element) : UInt32 :=
  if p.isVetoed e then 0
  else
    let own := (if p.tag.isSome then 20 else 0) + p.classScore e
    let withAttrs := p.attrs.foldl (fun n attr => n + attrScore e attr) own
    p.checks.foldl (fun n check => n + check.score e) (withAttrs + p.childrenScore e)

/-- A score times the weight. -/
def weigh (p : ComponentPattern) (score : UInt32) : UInt32 := score * p.weight

/-- The patterns with a score above zero, with their scores. -/
def candidates (e : Element) : List (ComponentPattern × UInt32) :=
  (all.map fun p => (p, p.score e)).filter fun c => c.2 ≠ 0

/-- The later of two candidates if its weighted score is greater, and otherwise the earlier. -/
def better (best : Option (ComponentPattern × UInt32)) (c : ComponentPattern × UInt32) :
    Option (ComponentPattern × UInt32) :=
  match best with
  | none => some c
  | some b => if b.1.weigh b.2 < c.1.weigh c.2 then some c else some b

/-- The pattern with the greatest weighted score, with its score. -/
def best? (e : Element) : Option (ComponentPattern × UInt32) := (candidates e).foldl better none

end ComponentPattern

end PageModules
