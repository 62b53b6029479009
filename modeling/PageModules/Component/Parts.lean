import PageModules.Component.Score
import PageModules.Json.Value

/-!
# Links, buttons and backgrounds

What several kinds of components have in common: buttons with their addresses, links to social
networks, the address of a background.
-/

namespace PageModules

open Text (Pattern isBlank)
open Text.Pattern (sequence plus blanks)

/-- A text with the address that it leads to. -/
structure ButtonLink where
  /-- The text. -/
  text : String
  /-- The address. -/
  address : String

namespace Element

/-! ### Buttons -/

/-- The classes of links that are buttons. -/
def linkClasses : List String := ["btn", "button", "cta", "action"]

/-- The buttons below: first those that do not send a form, then links with a class of buttons. -/
def buttonLinks (e : Element) : List ButtonLink :=
  ((e.descendantsNamed "button").filter fun b =>
      !(b.attr? "type").any fun t => Text.sameIgnoringCase t "submit").map
    (fun b => ⟨b.text, (b.attr? "data-url").getD ""⟩) ++
  ((e.descendantsNamed "a").filter (·.hasAnyClass linkClasses)).map
    fun a => ⟨a.text, (a.attr? "href").getD ""⟩

/-- The attributes for the first button. -/
def buttonDraft (e : Element) : AttributeDraft :=
  match e.buttonLinks.head? with
  | some b => [("button_text", Json.filledText? b.text), ("link_url", Json.filledText? b.address)]
  | none => []

/-! ### Backgrounds -/

/-- Whether a character may stand in the address of a background. -/
def isAddressChar (c : Char) : Bool := c != '\'' && c != '"' && c != ')'

/-- An address in a style, captured without its quotes. -/
def addressPattern : Pattern :=
  let quote := Pattern.optional (.char fun c => c == '\'' || c == '"')
  sequence [Pattern.text "url(", blanks, quote, .capture 1 (plus isAddressChar), quote, blanks,
    Pattern.text ")"]

/-- The address of a background in the `style` attribute, as it is written. -/
def backgroundAddress? (e : Element) : Option String :=
  (e.attr? "style").bind fun s =>
    ((addressPattern.find? s.toList).bind (·.group? 1)).map fun cs => String.ofList (Chars.trim cs)

/-! ### Social networks -/

/-- The social networks with their sites. -/
def socialNetworks : List (String × List String) :=
  [("facebook", ["facebook.com", "fb.com"]), ("twitter", ["twitter.com", "x.com"]),
    ("instagram", ["instagram.com"]), ("linkedin", ["linkedin.com"]), ("youtube", ["youtube.com"]),
    ("pinterest", ["pinterest.com"]), ("tiktok", ["tiktok.com"]), ("github", ["github.com"]),
    ("dribbble", ["dribbble.com"]), ("behance", ["behance.net"])]

/-- The network that an address belongs to. -/
def networkOf? (address : String) : Option String :=
  (socialNetworks.find? fun n => Address.names n.2 address).map (·.1)

/-- Adds the link to a network unless there is one. -/
def addLink (links : List (String × String)) (a : Element) : List (String × String) :=
  let address := (a.attr? "href").getD ""
  match networkOf? address with
  | some network =>
    if links.any (·.1 == network) then links else links ++ [(network, address)]
  | none => links

/-- The networks with the address of the first link to each, in the order of these links. -/
def socialLinks (e : Element) : List (String × String) :=
  (e.descendantsNamed "a").foldl addLink []

end Element

end PageModules
