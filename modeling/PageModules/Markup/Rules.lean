import PageModules.Markup.Foreign

/-!
# The rules of the insertion modes

For each insertion mode of tree construction, what a token does.  A rule may change the mode and ask
for the token to be read again; the rules of some modes fall back on those of another.  Scripting
counts as enabled, so the contents of `noscript` are text.

`Builder.read` reads one token to its end, `Builder.run` all tokens of a text.
-/

namespace PageModules.Builder

/-- Nothing is left to do. -/
def ok (b : Builder) : Builder × Rest := (b, .done)

/-- The token is read again in a mode. -/
def retry (b : Builder) (mode : InsertionMode) (token : Token) : Builder × Rest :=
  ({ b with mode := mode }, .again token)

/-- The mode from here on. -/
def enter (b : Builder) (mode : InsertionMode) : Builder := { b with mode := mode }

/-- A set of frames may no longer replace the body. -/
def noFrameset (b : Builder) : Builder := { b with framesetOk := false }

/-! ### Shared rules -/

/-- A second `html` tag: its attributes are added to the root. -/
def htmlTag (b : Builder) (attrs : List (String × String)) : Builder :=
  if b.hasOpen "template" then b
  else { b with forest := b.forest.addAttrs b.root (plainAttrs attrs) }

/-- Puts a comment into the document. -/
def documentComment (b : Builder) (s : String) : Builder :=
  b.putKind Forest.documentId (.comment s)

/-- The end tag of a template. -/
def endTemplate (b : Builder) : Builder :=
  if !b.hasOpen "template" then b
  else
    let b := ((b.impliedEnds isThoroughlyImpliedEnd).popUntilNamed "template").clearFormatting
    let b := { b with templateModes := b.templateModes.drop 1 }
    b.enter b.properMode

/-- The end of the text in a template. -/
def templateEof (b : Builder) : Builder × Rest :=
  if !b.hasOpen "template" then b.ok
  else
    let b := (b.popUntilNamed "template").clearFormatting
    let b := { b with templateModes := b.templateModes.drop 1 }
    b.retry b.properMode .eof

/-- The names of the tags that are read as in the head, wherever they stand. -/
def headNames : List String :=
  ["base", "basefont", "bgsound", "link", "meta", "noframes", "script", "style", "template",
    "title"]

/-! ### The head -/

/-- Rules of the mode `initial`. -/
def initialStep (b : Builder) (token : Token) : Builder × Rest :=
  match token with
  | .comment s => (b.documentComment s).ok
  | .chars s => if s.all Token.isSpace then b.ok
    else { b with quirks := true }.retry .beforeHtml token
  | _ => { b with quirks := true }.retry .beforeHtml token

/-- Rules of the mode `beforeHtml`. -/
def beforeHtmlStep (b : Builder) (token : Token) : Builder × Rest :=
  let other := (b.createRoot []).retry .beforeHead token
  match token with
  | .comment s => (b.documentComment s).ok
  | .chars s => if s.all Token.isSpace then b.ok else other
  | .startTag "html" attrs _ => ((b.createRoot attrs).enter .beforeHead).ok
  | .endTag name => if ["head", "body", "html", "br"].contains name then other else b.ok
  | _ => other

/-- Opens a `head` element. -/
def openHead (b : Builder) (attrs : List (String × String)) : Builder :=
  let (b, id) := b.insertOpen ⟨.html, "head", plainAttrs attrs⟩
  { b with head := some id, mode := .inHead }

/-- Rules of the mode `beforeHead`. -/
def beforeHeadStep (b : Builder) (token : Token) : Builder × Rest :=
  let other := (b.openHead []).retry .inHead token
  match token with
  | .comment s => (b.putComment s).ok
  | .chars s => if s.all Token.isSpace then b.ok else other
  | .startTag "html" attrs _ => (b.htmlTag attrs).ok
  | .startTag "head" attrs _ => (b.openHead attrs).ok
  | .endTag name => if ["head", "body", "html", "br"].contains name then other else b.ok
  | _ => other

/-- Rules of the mode `inHead`. -/
def inHeadStep (b : Builder) (token : Token) : Builder × Rest :=
  let other := b.pop.retry .afterHead token
  match token with
  | .chars s => if s.all Token.isSpace then (b.putText s).ok else other
  | .comment s => (b.putComment s).ok
  | .startTag name attrs _ =>
    match name with
    | "html" => (b.htmlTag attrs).ok
    | "title" => (b.insertText name attrs (.referenceText name)).ok
    | "noframes" => (b.insertText name attrs (.rawText name)).ok
    | "style" => (b.insertText name attrs (.rawText name)).ok
    | "noscript" => (b.insertText name attrs (.rawText name)).ok
    | "script" => (b.insertText name attrs .script).ok
    | "template" =>
      let b := ((b.insert name attrs).markFormatting).noFrameset
      { b with mode := .inTemplate, templateModes := .inTemplate :: b.templateModes }.ok
    | "head" => b.ok
    | _ =>
      if ["base", "basefont", "bgsound", "link", "meta"].contains name then
        (b.insertVoid name attrs).ok
      else other
  | .endTag name =>
    match name with
    | "head" => (b.pop.enter .afterHead).ok
    | "template" => b.endTemplate.ok
    | _ => if ["body", "html", "br"].contains name then other else b.ok
  | _ => other

/-- Rules of the mode `afterHead`. -/
def afterHeadStep (b : Builder) (token : Token) : Builder × Rest :=
  let other := (b.insert "body" []).retry .inBody token
  match token with
  | .chars s => if s.all Token.isSpace then (b.putText s).ok else other
  | .comment s => (b.putComment s).ok
  | .startTag name attrs _ =>
    match name with
    | "html" => (b.htmlTag attrs).ok
    | "body" => (((b.insert name attrs).noFrameset).enter .inBody).ok
    | "frameset" => ((b.insert name attrs).enter .inFrameset).ok
    | "head" => b.ok
    | _ =>
      if headNames.contains name then
        match b.head with
        | some head =>
          let (b, rest) := (b.push head).inHeadStep token
          (b.removeOpen head, rest)
        | none => b.inHeadStep token
      else other
  | .endTag name =>
    if name = "template" then b.endTemplate.ok
    else if ["body", "html", "br"].contains name then other
    else b.ok
  | _ => other

/-! ### The body -/

/-- The start tags that end a paragraph and open an element. -/
def blockNames : List String :=
  ["address", "article", "aside", "blockquote", "center", "details", "dialog", "dir", "div", "dl",
    "fieldset", "figcaption", "figure", "footer", "header", "hgroup", "main", "menu", "nav", "ol",
    "p", "section", "summary", "ul"]

/-- The end tags that close an element together with what it implies. -/
def blockEndNames : List String :=
  ["address", "article", "aside", "blockquote", "button", "center", "details", "dialog", "dir",
    "div", "dl", "fieldset", "figcaption", "figure", "footer", "header", "hgroup", "listing",
    "main", "menu", "nav", "ol", "pre", "section", "summary", "ul"]

/-- The formatting elements without rules of their own. -/
def formattingNames : List String :=
  ["b", "big", "code", "em", "font", "i", "s", "small", "strike", "strong", "tt", "u"]

/-- The elements without contents that stand in text. -/
def voidNames : List String := ["area", "br", "embed", "img", "keygen", "wbr", "input"]

/-- The start tags that are ignored in the body. -/
def strayNames : List String :=
  ["caption", "col", "colgroup", "frame", "head", "tbody", "td", "tfoot", "th", "thead", "tr"]

/-- The names of headings. -/
def headingNames : List String := ["h1", "h2", "h3", "h4", "h5", "h6"]

/-- Whether the attributes say that an input is hidden. -/
def isHiddenInput (attrs : List (String × String)) : Bool :=
  (attrs.lookup "type").any fun v => Text.sameIgnoringCase v "hidden"

/-- Closes the list item that a new one ends. -/
def closeItem (b : Builder) (names : List String) : Builder :=
  match go b.opened with
  | some name => (b.impliedEndsExcept name).popUntilNamed name
  | none => b
where
  /-- The name of the innermost open item with nothing but lighter elements inside of it. -/
  go : List Nat → Option String
    | [] => none
    | id :: rest =>
      let t := b.tagOf id
      if isHtml names t then some t.name
      else if isSpecial t && !isHtml ["address", "div", "p"] t then none
      else go rest

/-- A void element in text. -/
def voidTag (b : Builder) (name : String) (attrs : List (String × String)) : Builder :=
  let b := b.reconstruct.insertVoid name attrs
  if name = "input" && isHiddenInput attrs then b else b.noFrameset

/-- The start tag of a link: an open link is closed first. -/
def linkTag (b : Builder) (attrs : List (String × String)) : Builder :=
  let open' := b.formattingToMarker.findSome? fun p =>
    match p.2 with
    | .element id name _ => if name == "a" then some id else none
    | .marker => none
  let b := match open' with
    | some id => ((b.adopt "a").removeFormatting id).removeOpen id
    | none => b
  b.reconstruct.insertFormatting "a" attrs

/-- The start tag of a set of frames in the body. -/
def framesetTag (b : Builder) (attrs : List (String × String)) : Builder :=
  if !b.framesetOk then b
  else match b.body? with
    | none => b
    | some body =>
      let b := { b with
        forest := b.forest.detach body, opened := b.opened.drop (b.opened.length - 1) }
      (b.insert "frameset" attrs).enter .inFrameset

/-- A start tag in the body. -/
def bodyStart (b : Builder) (name : String) (attrs : List (String × String))
    (selfClosing : Bool) : Builder × Rest :=
  match name with
  | "html" => (b.htmlTag attrs).ok
  | "body" =>
    match b.body? with
    | some body =>
      if b.hasOpen "template" then b.ok
      else { b with framesetOk := false, forest := b.forest.addAttrs body (plainAttrs attrs) }.ok
    | none => b.ok
  | "frameset" => (b.framesetTag attrs).ok
  | "pre" =>
    { (b.closeOpenParagraph.insert name attrs).noFrameset with dropLineFeed := true }.ok
  | "listing" =>
    { (b.closeOpenParagraph.insert name attrs).noFrameset with dropLineFeed := true }.ok
  | "form" =>
    if b.form.isSome && !b.hasOpen "template" then b.ok
    else
      let (b, id) := b.closeOpenParagraph.insertOpen ⟨.html, name, plainAttrs attrs⟩
      (if b.hasOpen "template" then b else { b with form := some id }).ok
  | "li" => ((b.noFrameset.closeItem ["li"]).closeOpenParagraph.insert name attrs).ok
  | "dd" => ((b.noFrameset.closeItem ["dd", "dt"]).closeOpenParagraph.insert name attrs).ok
  | "dt" => ((b.noFrameset.closeItem ["dd", "dt"]).closeOpenParagraph.insert name attrs).ok
  | "plaintext" =>
    { b.closeOpenParagraph.insert name attrs with content := .plain }.ok
  | "button" =>
    let b := if b.inScopeNamed isDefaultScope "button" then
        (b.impliedEnds isImpliedEnd).popUntilNamed "button"
      else b
    ((b.reconstruct.insert name attrs).noFrameset).ok
  | "a" => (b.linkTag attrs).ok
  | "nobr" =>
    let b := b.reconstruct
    let b := if b.inScopeNamed isDefaultScope "nobr" then (b.adopt "nobr").reconstruct else b
    (b.insertFormatting name attrs).ok
  | "table" =>
    let b := if b.quirks then b else b.closeOpenParagraph
    (((b.insert name attrs).noFrameset).enter .inTable).ok
  | "hr" => ((b.closeOpenParagraph.insertVoid name attrs).noFrameset).ok
  | "image" => (b.voidTag "img" attrs).ok
  | "textarea" =>
    ({ b.noFrameset with dropLineFeed := true }.insertText name attrs (.referenceText name)).ok
  | "xmp" =>
    ((b.closeOpenParagraph.reconstruct.noFrameset).insertText name attrs (.rawText name)).ok
  | "iframe" => (b.noFrameset.insertText name attrs (.rawText name)).ok
  | "noembed" => (b.insertText name attrs (.rawText name)).ok
  | "noscript" => (b.insertText name attrs (.rawText name)).ok
  | "select" =>
    let b := (b.reconstruct.insert name attrs).noFrameset
    (b.enter (if [InsertionMode.inTable, .inCaption, .inTableBody, .inRow, .inCell].contains b.mode
      then .inSelectInTable else .inSelect)).ok
  | "math" => (b.insertForeign .mathml name attrs selfClosing).ok
  | "svg" => (b.insertForeign .svg name attrs selfClosing).ok
  | _ =>
    if headNames.contains name then b.inHeadStep (.startTag name attrs selfClosing)
    else if blockNames.contains name then (b.closeOpenParagraph.insert name attrs).ok
    else if headingNames.contains name then
      let b := b.closeOpenParagraph
      ((if isHeading b.currentTag then b.pop else b).insert name attrs).ok
    else if formattingNames.contains name then (b.reconstruct.insertFormatting name attrs).ok
    else if ["applet", "marquee", "object"].contains name then
      ((b.reconstruct.insert name attrs).markFormatting.noFrameset).ok
    else if voidNames.contains name then (b.voidTag name attrs).ok
    else if ["param", "source", "track"].contains name then (b.insertVoid name attrs).ok
    else if ["optgroup", "option"].contains name then
      ((if b.currentIs ["option"] then b.pop else b).reconstruct.insert name attrs).ok
    else if ["rb", "rtc"].contains name then
      ((if b.inScopeNamed isDefaultScope "ruby" then b.impliedEnds isImpliedEnd else b).insert
        name attrs).ok
    else if ["rp", "rt"].contains name then
      ((if b.inScopeNamed isDefaultScope "ruby" then b.impliedEndsExcept "rtc" else b).insert
        name attrs).ok
    else if strayNames.contains name then b.ok
    else (b.reconstruct.insert name attrs).ok

/-- The end tag of a form. -/
def endForm (b : Builder) : Builder :=
  if b.hasOpen "template" then
    if b.inScopeNamed isDefaultScope "form" then
      (b.impliedEnds isImpliedEnd).popUntilNamed "form"
    else b
  else match b.form with
    | none => b
    | some form =>
      let b := { b with form := none }
      if b.inScope isDefaultScope (· = form) then (b.impliedEnds isImpliedEnd).removeOpen form
      else b

/-- An end tag in the body. -/
def bodyEnd (b : Builder) (name : String) : Builder × Rest :=
  match name with
  | "template" => b.endTemplate.ok
  | "body" => (if b.inScopeNamed isDefaultScope "body" then b.enter .afterBody else b).ok
  | "html" =>
    if b.inScopeNamed isDefaultScope "body" then b.retry .afterBody (.endTag name) else b.ok
  | "form" => b.endForm.ok
  | "p" =>
    ((if b.inScopeNamed isButtonScope "p" then b else b.insert "p" []).closeParagraph).ok
  | "li" =>
    (if b.inScopeNamed isListScope name then (b.impliedEndsExcept name).popUntilNamed name
      else b).ok
  | "a" => (b.adopt name).ok
  | "nobr" => (b.adopt name).ok
  | "br" => (b.voidTag name []).ok
  | _ =>
    if ["dd", "dt"].contains name then
      (if b.inScopeNamed isDefaultScope name then (b.impliedEndsExcept name).popUntilNamed name
        else b).ok
    else if blockEndNames.contains name then
      (if b.inScopeNamed isDefaultScope name then
        (b.impliedEnds isImpliedEnd).popUntilNamed name else b).ok
    else if headingNames.contains name then
      (if b.inScope isDefaultScope fun id => isHeading (b.tagOf id) then
        (b.impliedEnds isImpliedEnd).popUntil isHeading else b).ok
    else if formattingNames.contains name then (b.adopt name).ok
    else if ["applet", "marquee", "object"].contains name then
      (if b.inScopeNamed isDefaultScope name then
        ((b.impliedEnds isImpliedEnd).popUntilNamed name).clearFormatting else b).ok
    else (b.closeAny name).ok

/-- Rules of the mode `inBody`. -/
def inBodyStep (b : Builder) (token : Token) : Builder × Rest :=
  match token with
  | .null => b.ok
  | .chars s =>
    let b := b.reconstruct
    ((if s.all Token.isSpace then b else b.noFrameset).putText s).ok
  | .comment s => (b.putComment s).ok
  | .startTag name attrs selfClosing => b.bodyStart name attrs selfClosing
  | .endTag name => b.bodyEnd name
  | .doctype _ => b.ok
  | .eof => if b.templateModes.isEmpty then b.ok else b.templateEof

/-- Rules of the mode `text`. -/
def textStep (b : Builder) (token : Token) : Builder × Rest :=
  match token with
  | .chars s => (b.putText s).ok
  | .eof => b.pop.retry b.returnMode token
  | .endTag _ => (b.pop.enter b.returnMode).ok
  | _ => b.ok

/-! ### Tables -/

/-- Reads a token as in the body, and puts what does not belong in a table in front of it. -/
def foster (b : Builder) (token : Token) : Builder × Rest :=
  let (b, rest) := { b with fostering := true, fostered := b.fostered + 1 }.inBodyStep token
  ({ b with fostering := false }, rest)

/-- Characters in a table. -/
def tableChars (b : Builder) (token : Token) : Builder × Rest :=
  if b.currentIs ["table", "tbody", "tfoot", "thead", "tr"] then
    { b with returnMode := b.mode, tableText := [] }.retry .inTableText token
  else b.foster token

/-- Rules of the mode `inTable`. -/
def inTableStep (b : Builder) (token : Token) : Builder × Rest :=
  match token with
  | .null => b.tableChars token
  | .chars _ => b.tableChars token
  | .comment s => (b.putComment s).ok
  | .startTag name attrs _ =>
    match name with
    | "caption" =>
      (((b.popTo isTableScope).markFormatting.insert name attrs).enter .inCaption).ok
    | "colgroup" => (((b.popTo isTableScope).insert name attrs).enter .inColumnGroup).ok
    | "col" => ((b.popTo isTableScope).insert "colgroup" []).retry .inColumnGroup token
    | "table" =>
      if b.inScopeNamed isTableScope "table" then
        let b := b.popUntilNamed "table"
        b.retry b.properMode token
      else b.ok
    | "input" =>
      if isHiddenInput attrs then (b.insertVoid name attrs).ok else b.foster token
    | "form" =>
      if b.hasOpen "template" || b.form.isSome then b.ok
      else
        let (b, id) := b.insertClosed ⟨.html, name, plainAttrs attrs⟩
        { b with form := some id }.ok
    | _ =>
      if ["tbody", "tfoot", "thead"].contains name then
        (((b.popTo isTableScope).insert name attrs).enter .inTableBody).ok
      else if ["td", "th", "tr"].contains name then
        ((b.popTo isTableScope).insert "tbody" []).retry .inTableBody token
      else if ["style", "script", "template"].contains name then b.inHeadStep token
      else b.foster token
  | .endTag name =>
    match name with
    | "table" =>
      if b.inScopeNamed isTableScope "table" then
        let b := b.popUntilNamed "table"
        (b.enter b.properMode).ok
      else b.ok
    | "template" => b.endTemplate.ok
    | _ =>
      if ["body", "caption", "col", "colgroup", "html", "tbody", "td", "tfoot", "th", "thead",
        "tr"].contains name then b.ok
      else b.foster token
  | .doctype _ => b.ok
  | .eof => b.inBodyStep token

/-- Puts the text read in a table: into the table if it is blank, or else in front of it. -/
def flushTableText (b : Builder) : Builder :=
  let pieces := b.tableText.reverse
  let b := { b with tableText := [] }
  if pieces.all fun s => s.all Token.isSpace then pieces.foldl putText b
  else pieces.foldl (fun b s => (b.foster (.chars s)).1) b

/-- Rules of the mode `inTableText`. -/
def inTableTextStep (b : Builder) (token : Token) : Builder × Rest :=
  match token with
  | .null => b.ok
  | .chars s => { b with tableText := s :: b.tableText }.ok
  | _ => b.flushTableText.retry b.returnMode token

/-- Rules of the mode `inCaption`. -/
def inCaptionStep (b : Builder) (token : Token) : Builder × Rest :=
  let close := fun (next : Builder → Builder × Rest) =>
    if b.inScopeNamed isTableScope "caption" then
      next ((b.impliedEnds isImpliedEnd).popUntilNamed "caption").clearFormatting
    else b.ok
  match token with
  | .startTag name _ _ =>
    if ["caption", "col", "colgroup", "tbody", "td", "tfoot", "th", "thead", "tr"].contains name
    then close fun b => b.retry .inTable token
    else b.inBodyStep token
  | .endTag name =>
    if name = "caption" then close fun b => (b.enter .inTable).ok
    else if name = "table" then close fun b => b.retry .inTable token
    else if ["body", "col", "colgroup", "html", "tbody", "td", "tfoot", "th", "thead",
      "tr"].contains name then b.ok
    else b.inBodyStep token
  | _ => b.inBodyStep token

/-- Rules of the mode `inColumnGroup`. -/
def inColumnGroupStep (b : Builder) (token : Token) : Builder × Rest :=
  let other := if b.currentIs ["colgroup"] then b.pop.retry .inTable token else b.ok
  match token with
  | .chars s => if s.all Token.isSpace then (b.putText s).ok else other
  | .comment s => (b.putComment s).ok
  | .startTag name attrs _ =>
    match name with
    | "html" => (b.htmlTag attrs).ok
    | "col" => (b.insertVoid name attrs).ok
    | "template" => b.inHeadStep token
    | _ => other
  | .endTag name =>
    match name with
    | "colgroup" => (if b.currentIs ["colgroup"] then b.pop.enter .inTable else b).ok
    | "col" => b.ok
    | "template" => b.endTemplate.ok
    | _ => other
  | .eof => b.inBodyStep token
  | _ => other

/-- Closes a group of rows. -/
def closeRows (b : Builder) : Builder :=
  (b.popTo (isHtml ["tbody", "tfoot", "thead", "template", "html"])).pop

/-- Rules of the mode `inTableBody`. -/
def inTableBodyStep (b : Builder) (token : Token) : Builder × Rest :=
  let inBody := b.popTo (isHtml ["tbody", "tfoot", "thead", "template", "html"])
  let outer :=
    if b.inScope isTableScope fun id => isHtml ["table", "tbody", "tfoot"] (b.tagOf id) then
      b.closeRows.retry .inTable token
    else b.ok
  match token with
  | .startTag name attrs _ =>
    if name = "tr" then ((inBody.insert name attrs).enter .inRow).ok
    else if ["th", "td"].contains name then (inBody.insert "tr" []).retry .inRow token
    else if ["caption", "col", "colgroup", "tbody", "tfoot", "thead"].contains name then outer
    else b.inTableStep token
  | .endTag name =>
    if ["tbody", "tfoot", "thead"].contains name then
      (if b.inScopeNamed isTableScope name then b.closeRows.enter .inTable else b).ok
    else if name = "table" then outer
    else if ["body", "caption", "col", "colgroup", "html", "td", "th", "tr"].contains name then b.ok
    else b.inTableStep token
  | _ => b.inTableStep token

/-- Closes a row. -/
def closeRow (b : Builder) : Builder := (b.popTo (isHtml ["tr", "template", "html"])).pop

/-- Rules of the mode `inRow`. -/
def inRowStep (b : Builder) (token : Token) : Builder × Rest :=
  let hasRow := b.inScopeNamed isTableScope "tr"
  let outer := if hasRow then b.closeRow.retry .inTableBody token else b.ok
  match token with
  | .startTag name attrs _ =>
    if ["th", "td"].contains name then
      ((((b.popTo (isHtml ["tr", "template", "html"])).insert name attrs).enter
        .inCell).markFormatting).ok
    else if ["caption", "col", "colgroup", "tbody", "tfoot", "thead", "tr"].contains name then outer
    else b.inTableStep token
  | .endTag name =>
    if name = "tr" then (if hasRow then b.closeRow.enter .inTableBody else b).ok
    else if name = "table" then outer
    else if ["tbody", "tfoot", "thead"].contains name then
      if b.inScopeNamed isTableScope name then outer else b.ok
    else if ["body", "caption", "col", "colgroup", "html", "td", "th"].contains name then b.ok
    else b.inTableStep token
  | _ => b.inTableStep token

/-- Closes a cell. -/
def closeCell (b : Builder) : Builder :=
  ((b.impliedEnds isImpliedEnd).popUntil (isHtml ["td", "th"])).clearFormatting

/-- Rules of the mode `inCell`. -/
def inCellStep (b : Builder) (token : Token) : Builder × Rest :=
  match token with
  | .startTag name _ _ =>
    if ["caption", "col", "colgroup", "tbody", "td", "tfoot", "th", "thead",
        "tr"].contains name then
      if b.inScope isTableScope fun id => isHtml ["td", "th"] (b.tagOf id) then
        b.closeCell.retry .inRow token
      else b.ok
    else b.inBodyStep token
  | .endTag name =>
    if ["td", "th"].contains name then
      (if b.inScopeNamed isTableScope name then
        (((b.impliedEnds isImpliedEnd).popUntilNamed name).clearFormatting).enter .inRow
      else b).ok
    else if ["body", "caption", "col", "colgroup", "html"].contains name then b.ok
    else if ["table", "tbody", "tfoot", "thead", "tr"].contains name then
      if b.inScopeNamed isTableScope name then b.closeCell.retry .inRow token else b.ok
    else b.inBodyStep token
  | _ => b.inBodyStep token

/-! ### Choices -/

/-- The end tag of a group of options. -/
def endOptions (b : Builder) : Builder :=
  let b := match b.opened with
    | option :: group :: _ =>
      if isHtml ["option"] (b.tagOf option) && isHtml ["optgroup"] (b.tagOf group) then b.pop else b
    | _ => b
  if b.currentIs ["optgroup"] then b.pop else b

/-- Rules of the mode `inSelect`. -/
def inSelectStep (b : Builder) (token : Token) : Builder × Rest :=
  let isOpen := b.inScopeNamed isSelectScope "select"
  let close := if isOpen then
      let b := b.popUntilNamed "select"
      b.enter b.properMode
    else b
  match token with
  | .null => b.ok
  | .chars s => (b.putText s).ok
  | .comment s => (b.putComment s).ok
  | .startTag name attrs _ =>
    match name with
    | "html" => (b.htmlTag attrs).ok
    | "option" => ((if b.currentIs ["option"] then b.pop else b).insert name attrs).ok
    | "optgroup" =>
      let b := if b.currentIs ["option"] then b.pop else b
      ((if b.currentIs ["optgroup"] then b.pop else b).insert name attrs).ok
    | "select" => close.ok
    | _ =>
      if ["input", "keygen", "textarea"].contains name then
        if isOpen then (close, .again token) else b.ok
      else if ["script", "template"].contains name then b.inHeadStep token
      else b.ok
  | .endTag name =>
    match name with
    | "optgroup" => b.endOptions.ok
    | "option" => (if b.currentIs ["option"] then b.pop else b).ok
    | "select" => close.ok
    | "template" => b.endTemplate.ok
    | _ => b.ok
  | .doctype _ => b.ok
  | .eof => b.inBodyStep token

/-- Rules of the mode `inSelectInTable`. -/
def inSelectInTableStep (b : Builder) (token : Token) : Builder × Rest :=
  let names := ["caption", "table", "tbody", "tfoot", "thead", "tr", "td", "th"]
  let close :=
    let b := b.popUntilNamed "select"
    b.retry b.properMode token
  match token with
  | .startTag name _ _ => if names.contains name then close else b.inSelectStep token
  | .endTag name =>
    if names.contains name then if b.inScopeNamed isTableScope name then close else b.ok
    else b.inSelectStep token
  | _ => b.inSelectStep token

/-! ### Templates, frames and the end -/

/-- Rules of the mode `inTemplate`. -/
def inTemplateStep (b : Builder) (token : Token) : Builder × Rest :=
  let as := fun (mode : InsertionMode) =>
    { b with templateModes := mode :: b.templateModes.drop 1 }.retry mode token
  match token with
  | .chars _ => b.inBodyStep token
  | .comment _ => b.inBodyStep token
  | .startTag name _ _ =>
    if headNames.contains name then b.inHeadStep token
    else if ["caption", "colgroup", "tbody", "tfoot", "thead"].contains name then as .inTable
    else if name = "col" then as .inColumnGroup
    else if name = "tr" then as .inTableBody
    else if ["td", "th"].contains name then as .inRow
    else as .inBody
  | .endTag name => (if name = "template" then b.endTemplate else b).ok
  | .eof => b.templateEof
  | _ => b.ok

/-- Rules of the mode `afterBody`. -/
def afterBodyStep (b : Builder) (token : Token) : Builder × Rest :=
  let other := b.retry .inBody token
  match token with
  | .chars s => if s.all Token.isSpace then b.inBodyStep token else other
  | .comment s => (b.putKind b.root (.comment s)).ok
  | .startTag "html" attrs _ => (b.htmlTag attrs).ok
  | .endTag "html" => (if b.context.isSome then b else b.enter .afterAfterBody).ok
  | .eof => b.ok
  | _ => other

/-- Rules of the mode `inFrameset`. -/
def inFramesetStep (b : Builder) (token : Token) : Builder × Rest :=
  match token with
  | .chars s => (if s.all Token.isSpace then b.putText s else b).ok
  | .comment s => (b.putComment s).ok
  | .startTag name attrs _ =>
    match name with
    | "html" => (b.htmlTag attrs).ok
    | "frameset" => (b.insert name attrs).ok
    | "frame" => (b.insertVoid name attrs).ok
    | "noframes" => b.inHeadStep token
    | _ => b.ok
  | .endTag "frameset" =>
    if b.opened.length = 1 then b.ok
    else
      let b := b.pop
      (if b.context.isNone && !b.currentIs ["frameset"] then b.enter .afterFrameset else b).ok
  | _ => b.ok

/-- Rules of the mode `afterFrameset`. -/
def afterFramesetStep (b : Builder) (token : Token) : Builder × Rest :=
  match token with
  | .chars s => (if s.all Token.isSpace then b.putText s else b).ok
  | .comment s => (b.putComment s).ok
  | .startTag "html" attrs _ => (b.htmlTag attrs).ok
  | .startTag "noframes" _ _ => b.inHeadStep token
  | .endTag "html" => (b.enter .afterAfterFrameset).ok
  | _ => b.ok

/-- Rules of the mode `afterAfterBody`. -/
def afterAfterBodyStep (b : Builder) (token : Token) : Builder × Rest :=
  let other := b.retry .inBody token
  match token with
  | .chars s => if s.all Token.isSpace then b.inBodyStep token else other
  | .comment s => (b.documentComment s).ok
  | .startTag "html" attrs _ => (b.htmlTag attrs).ok
  | .eof => b.ok
  | _ => other

/-- Rules of the mode `afterAfterFrameset`. -/
def afterAfterFramesetStep (b : Builder) (token : Token) : Builder × Rest :=
  match token with
  | .chars s => if s.all Token.isSpace then b.inBodyStep token else b.ok
  | .comment s => (b.documentComment s).ok
  | .startTag "html" attrs _ => (b.htmlTag attrs).ok
  | .startTag "noframes" _ _ => b.inHeadStep token
  | _ => b.ok

/-! ### Document types -/

/-- Public identifiers of documents with quirks. -/
def quirkyPublicIds : List String :=
  ["-//w3o//dtd w3 html strict 3.0//en//", "-/w3c/dtd html 4.0 transitional/en", "html"]

/-- What the public identifiers of documents with quirks start with. -/
def quirkyPublicMarks : List String :=
  ["+//silmaril//dtd html pro v0r11 19970101//", "-//as//dtd html 3.0 aswedit + extensions//",
    "-//advasoft ltd//dtd html 3.0 aswedit + extensions//", "-//ietf//dtd html 2.0 level 1//",
    "-//ietf//dtd html 2.0 level 2//", "-//ietf//dtd html 2.0 strict level 1//",
    "-//ietf//dtd html 2.0 strict level 2//", "-//ietf//dtd html 2.0 strict//",
    "-//ietf//dtd html 2.0//", "-//ietf//dtd html 2.1e//", "-//ietf//dtd html 3.0//",
    "-//ietf//dtd html 3.2 final//", "-//ietf//dtd html 3.2//", "-//ietf//dtd html 3//",
    "-//ietf//dtd html level 0//", "-//ietf//dtd html level 1//", "-//ietf//dtd html level 2//",
    "-//ietf//dtd html level 3//", "-//ietf//dtd html strict level 0//",
    "-//ietf//dtd html strict level 1//", "-//ietf//dtd html strict level 2//",
    "-//ietf//dtd html strict level 3//", "-//ietf//dtd html strict//", "-//ietf//dtd html//",
    "-//metrius//dtd metrius presentational//",
    "-//microsoft//dtd internet explorer 2.0 html strict//",
    "-//microsoft//dtd internet explorer 2.0 html//",
    "-//microsoft//dtd internet explorer 2.0 tables//",
    "-//microsoft//dtd internet explorer 3.0 html strict//",
    "-//microsoft//dtd internet explorer 3.0 html//",
    "-//microsoft//dtd internet explorer 3.0 tables//",
    "-//netscape comm. corp.//dtd html//", "-//netscape comm. corp.//dtd strict html//",
    "-//o'reilly and associates//dtd html 2.0//",
    "-//o'reilly and associates//dtd html extended 1.0//",
    "-//o'reilly and associates//dtd html extended relaxed 1.0//",
    "-//softquad software//dtd hotmetal pro 6.0::19990601::extensions to html 4.0//",
    "-//softquad//dtd hotmetal pro 4.0::19971010::extensions to html 4.0//",
    "-//spyglass//dtd html 2.0 extended//", "-//sq//dtd html 2.0 hotmetal + extensions//",
    "-//sun microsystems corp.//dtd hotjava html//",
    "-//sun microsystems corp.//dtd hotjava strict html//", "-//w3c//dtd html 3 1995-03-24//",
    "-//w3c//dtd html 3.2 draft//", "-//w3c//dtd html 3.2 final//", "-//w3c//dtd html 3.2//",
    "-//w3c//dtd html 3.2s draft//", "-//w3c//dtd html 4.0 frameset//",
    "-//w3c//dtd html 4.0 transitional//", "-//w3c//dtd html experimental 19960712//",
    "-//w3c//dtd html experimental 970421//", "-//w3c//dtd w3 html//",
    "-//w3o//dtd w3 html 3.0//", "-//webtechs//dtd mozilla html 2.0//",
    "-//webtechs//dtd mozilla html//"]

/-- What the public identifiers of documents that have quirks only without a system identifier
start with. -/
def html4PublicMarks : List String :=
  ["-//w3c//dtd html 4.01 frameset//", "-//w3c//dtd html 4.01 transitional//"]

/-- The system identifier of documents with quirks. -/
def quirkySystemId : String := "http://www.ibm.com/data/dtd/v11/ibmxhtml1-transitional.dtd"

/-- Whether a document of the given type is read with quirks. -/
def asksForQuirks (d : Doctype) : Bool :=
  let publicId := (d.publicId.map Text.lowercase)
  let systemId := (d.systemId.map Text.lowercase)
  d.forceQuirks || d.name != some "html" || publicId.any quirkyPublicIds.contains ||
    systemId == some quirkySystemId ||
    publicId.any (fun p => quirkyPublicMarks.any fun mark => Text.startsWith mark p) ||
    (systemId.isNone &&
      publicId.any fun p => html4PublicMarks.any fun mark => Text.startsWith mark p)

/-- Reads a document type; it counts at the start only. -/
def doctypeStep (b : Builder) (d : Doctype) : Builder :=
  if b.mode = .initial then
    let b := b.putKind Forest.documentId (.doctype (d.name.getD ""))
    { b with quirks := asksForQuirks d, mode := .beforeHtml }
  else b

/-! ### All tokens -/

/-- Reads a token by the rules of the insertion mode. -/
def modeStep (b : Builder) (token : Token) : Builder × Rest :=
  match b.mode with
  | .initial => b.initialStep token
  | .beforeHtml => b.beforeHtmlStep token
  | .beforeHead => b.beforeHeadStep token
  | .inHead => b.inHeadStep token
  | .afterHead => b.afterHeadStep token
  | .inBody => b.inBodyStep token
  | .text => b.textStep token
  | .inTable => b.inTableStep token
  | .inTableText => b.inTableTextStep token
  | .inCaption => b.inCaptionStep token
  | .inColumnGroup => b.inColumnGroupStep token
  | .inTableBody => b.inTableBodyStep token
  | .inRow => b.inRowStep token
  | .inCell => b.inCellStep token
  | .inSelect => b.inSelectStep token
  | .inSelectInTable => b.inSelectInTableStep token
  | .inTemplate => b.inTemplateStep token
  | .afterBody => b.afterBodyStep token
  | .inFrameset => b.inFramesetStep token
  | .afterFrameset => b.afterFramesetStep token
  | .afterAfterBody => b.afterAfterBodyStep token
  | .afterAfterFrameset => b.afterAfterFramesetStep token

/-- Reads a token, again as long as a rule asks for it.  `asHtml` says that it is read by the
insertion mode even in SVG and MathML. -/
def readFrom (b : Builder) (asHtml : Bool) (token : Token) : (fuel : Nat) → Builder
  | 0 => b
  | fuel + 1 =>
    let (b, rest) :=
      if !asHtml && b.isForeign token then b.foreignStep token else b.modeStep token
    match rest with
    | .done => b
    | .again token => b.readFrom false token fuel
    | .asHtml token => b.readFrom true token fuel

/-- Reads a token.  Each time a token is read again, an element has been closed or the mode has
moved on. -/
def readToken (b : Builder) (token : Token) : Builder :=
  b.readFrom false token (4 * b.opened.length + 64)

/-- Whether blanks and other characters are read apart from each other in a mode. -/
def separatesSpaces : InsertionMode → Bool
  | .initial | .beforeHtml | .beforeHead | .inHead | .afterHead => true
  | .inColumnGroup | .afterBody | .inFrameset => true
  | .afterFrameset | .afterAfterBody | .afterAfterFrameset => true
  | _ => false

/-- Reads characters.  `fuel` is at least their number. -/
def readChars (b : Builder) (s : List Char) : (fuel : Nat) → Builder
  | 0 => b
  | fuel + 1 =>
    match s with
    | [] => b
    | c :: _ =>
      if separatesSpaces b.mode && !b.isForeign (.chars s) then
        let alike := fun d => Token.isSpace d == Token.isSpace c
        (b.readToken (.chars (s.takeWhile alike))).readChars (s.dropWhile alike) fuel
      else b.readToken (.chars s)

/-- Reads a token from the text. -/
def read (b : Builder) (token : Token) : Builder :=
  let drops := b.dropLineFeed
  let b := { b with dropLineFeed := false, content := .data }
  match token with
  | .chars s =>
    b.readChars (match drops, s with
      | true, '\n' :: s => s
      | _, s => s) s.length
  | .doctype d => b.doctypeStep d
  | token => b.readToken token

/-- Whether the text of an element is being read, which goes on until its end tag. -/
def keepsContent : Token → Bool
  | .chars _ => true
  | .null => true
  | _ => false

/-- Reads tokens that were taken off the text at once. -/
def readAll (b : Builder) : List Token → Builder
  | [] => b
  | token :: rest =>
    let after := b.read token
    (if keepsContent token then { after with content := b.content } else after).readAll rest

/-- Whether a token is the end. -/
def isEof : Token → Bool
  | .eof => true
  | _ => false

/-- Reads the tokens of a text.  `fuel` is greater than its length. -/
def run (b : Builder) (bound : Token.Bound) (s : List Char) : (fuel : Nat) → Builder
  | 0 => b
  | fuel + 1 =>
    let taken := Token.next b.content b.knowsSections bound s
    let after := b.readAll taken.tokens
    if taken.tokens.any isEof then after else after.run taken.bound taken.rest fuel

end PageModules.Builder
