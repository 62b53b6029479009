import PageModules.Markup.Node

/-!
# Markup text of a tree

`Element.outerMarkup` is the text of an element and `Element.innerMarkup` that of its children,
trimmed.  Text is escaped, except directly inside of the elements whose text is raw
(`rawTextNames`); of an element that is not part of the text itself, the name does not count.
-/

namespace PageModules

namespace Serialization

/-- The character that is written as `&nbsp;`. -/
def noBreakSpace : Char := '\u00A0'

/-- How a character of a text is written. -/
def textChar (c : Char) : List Char :=
  if c = '&' then "&amp;".toList
  else if c = noBreakSpace then "&nbsp;".toList
  else if c = '<' then "&lt;".toList
  else if c = '>' then "&gt;".toList
  else [c]

/-- How a character of the value of an attribute is written. -/
def attrChar (c : Char) : List Char :=
  if c = '&' then "&amp;".toList
  else if c = noBreakSpace then "&nbsp;".toList
  else if c = '"' then "&quot;".toList
  else [c]

/-- The HTML elements whose text is written as it is. -/
def rawTextNames : List String :=
  ["style", "script", "xmp", "iframe", "noembed", "noframes", "plaintext"]

/-- The HTML elements that have no contents and no end tag. -/
def voidNames : List String :=
  ["area", "base", "basefont", "bgsound", "br", "col", "embed", "frame", "hr", "img", "input",
    "keygen", "link", "meta", "param", "source", "track", "wbr"]

/-- What is written in front of the name of an attribute. -/
def attrMark (a : Attr) : String :=
  match a.space with
  | .none => ""
  | .xlink => "xlink:"
  | .xml => "xml:"
  | .xmlns => if a.name = "xmlns" then "" else "xmlns:"

/-- An attribute with the blank in front of it. -/
def attr (a : Attr) : List Char :=
  ' ' :: (attrMark a).toList ++ a.name.toList ++ "=\"".toList ++ a.value.toList.flatMap attrChar ++
    ['"']

/-- A start tag. -/
def startTag (t : Tag) : List Char :=
  '<' :: t.name.toList ++ t.attrs.flatMap attr ++ ['>']

/-- An end tag. -/
def endTag (t : Tag) : List Char := "</".toList ++ t.name.toList ++ ['>']

/-- The name of an HTML element. -/
def htmlName? (t : Tag) : Option String := if t.space = .html then some t.name else none

/-- Whether an element has no end tag. -/
def isVoid (t : Tag) : Bool := (htmlName? t).any voidNames.contains

/-- A text inside of an HTML element of the given name. -/
def text (parent : Option String) (s : String) : List Char :=
  if parent.any rawTextNames.contains then s.toList else s.toList.flatMap textChar

mutual

/-- The text of a tree.  `parent` is the name of the HTML element that it is written in. -/
def node (parent : Option String) : Node → List Char
  | .element tag children =>
    if isVoid tag then startTag tag
    else startTag tag ++ nodes (htmlName? tag) children ++ endTag tag
  | .text s => text parent s
  | .comment s => "<!--".toList ++ s.toList ++ "-->".toList
  | .doctype name => "<!DOCTYPE ".toList ++ name.toList ++ ['>']
  | .fragment children => nodes parent children

/-- The text of several trees. -/
def nodes (parent : Option String) : List Node → List Char
  | [] => []
  | n :: rest => node parent n ++ nodes parent rest

end

end Serialization

namespace Element

/-- The markup of an element. -/
def outerMarkup (e : Element) : String := String.ofList (Serialization.node none e.toNode)

/-- The markup of the children of an element, trimmed. -/
def innerMarkup (e : Element) : String :=
  String.ofList (Chars.trim (Serialization.nodes none e.children))

end Element

end PageModules
