import PageModules.Markup.Reference

/-!
# Tokens of HTML text

`Token.next` takes the next token off a text: a run of characters, a tag, a comment, a document type
or the end.  What counts as a tag depends on the `Content` that is being read: after the start tag
of a `script`, a `style` or a `textarea`, for example, only the matching end tag ends the text.

A text may have any line ends; tokens have line feeds.  Characters come in pieces: a line feed and a
reference are pieces of their own, and where the reader has looked ahead in vain, a piece ends with
what it has looked at (`Bound`).  Malformed markup never fails; it is read the way the HTML standard
prescribes.
-/

namespace PageModules

/-- A document type declaration. -/
structure Doctype where
  /-- The name. -/
  name : Option String
  /-- The public identifier. -/
  publicId : Option String
  /-- The system identifier. -/
  systemId : Option String
  /-- Whether the declaration was malformed in a way that asks for quirks. -/
  forceQuirks : Bool
deriving DecidableEq, Repr

/-- A token of HTML text. -/
inductive Token where
  /-- Characters, none of them NUL; there may be none where markup was dropped. -/
  | chars (text : List Char)
  /-- The character NUL. -/
  | null
  /-- A start tag with its attributes in source order. -/
  | startTag (name : String) (attrs : List (String × String)) (selfClosing : Bool)
  /-- An end tag. -/
  | endTag (name : String)
  /-- A comment. -/
  | comment (text : String)
  /-- A document type. -/
  | doctype (declaration : Doctype)
  /-- The end of the text. -/
  | eof
deriving Repr

/-- What is being read. -/
inductive Content where
  /-- Text and markup. -/
  | data
  /-- Text with character references, up to the end tag of the given name. -/
  | referenceText (name : String)
  /-- Text without character references, up to the end tag of the given name. -/
  | rawText (name : String)
  /-- The text of a script. -/
  | script
  /-- Text up to the end. -/
  | plain
deriving DecidableEq, Repr

namespace Token

open Text (isAsciiLetter isAsciiDigit isHexDigit hexValue? digitValue lower)

/-! ### Characters -/

/-- Writes every line end as a line feed. -/
def normalizeLines : List Char → List Char
  | [] => []
  | [c] => if c = '\r' then ['\n'] else [c]
  | c :: d :: s =>
    if c = '\r' then
      if d = '\n' then normalizeLines (d :: s) else '\n' :: normalizeLines (d :: s)
    else c :: normalizeLines (d :: s)

/-- The blanks of HTML. -/
def isSpace (c : Char) : Bool :=
  c = ' ' || c = '\n' || c = '\t' || c = '\x0c' || c = '\r'

/-- The character that stands for what cannot be shown. -/
def replacement : Char := '\uFFFD'

/-- The character itself, or the replacement for NUL. -/
def shown (c : Char) : Char := if c = '\x00' then replacement else c

/-- Whether a character may follow the name of a tag. -/
def endsTagName (c : Char) : Bool := isSpace c || c = '/' || c = '>'

/-! ### Character references -/

/-- What the code points from `0x80` to `0x9F` stand for in a numeric reference; the code point
itself where the list has 0. -/
def windowsCodes : List Nat :=
  [0x20AC, 0, 0x201A, 0x192, 0x201E, 0x2026, 0x2020, 0x2021, 0x2C6, 0x2030, 0x160, 0x2039, 0x152,
    0, 0x17D, 0, 0, 0x2018, 0x2019, 0x201C, 0x201D, 0x2022, 0x2013, 0x2014, 0x2DC, 0x2122, 0x161,
    0x203A, 0x153, 0, 0x17E, 0x178]

/-- The character of a numeric reference. -/
def numericChar (n : Nat) : Char :=
  if n = 0 ∨ 0x10FFFF < n ∨ (0xD800 ≤ n ∧ n ≤ 0xDFFF) then replacement
  else if 0x80 ≤ n ∧ n ≤ 0x9F then
    let code := windowsCodes.getD (n - 0x80) 0
    Char.ofNat (if code = 0 then n else code)
  else Char.ofNat n

/-- Drops a semicolon in front. -/
def dropSemicolon : List Char → List Char
  | ';' :: s => s
  | s => s

/-- A numeric reference from its digits on; none where there are no digits. -/
def numericReference? (isDigit : Char → Bool) (base : Nat) (value : Char → Nat) (s : List Char) :
    Option (List Char × List Char) :=
  let digits := s.takeWhile isDigit
  if digits.isEmpty then none
  else
    let n := digits.foldl (fun n c => min 0x110000 (base * n + value c)) 0
    some ([numericChar n], dropSemicolon (s.dropWhile isDigit))

/-- The reference behind an ampersand: what it stands for and what follows it.  In an attribute a
name without a semicolon does not count in front of a letter, a digit or an equals sign. -/
def reference? (inAttribute : Bool) (s : List Char) : Option (List Char × List Char) :=
  match s with
  | '#' :: 'x' :: t => numericReference? isHexDigit 16 (fun c => (hexValue? c).getD 0) t
  | '#' :: 'X' :: t => numericReference? isHexDigit 16 (fun c => (hexValue? c).getD 0) t
  | '#' :: t => numericReference? isAsciiDigit 10 digitValue t
  | _ =>
    match Reference.named? s with
    | none => none
    | some (cs, last, rest) =>
      let goesOn := rest.head?.any fun c => c = '=' || isAsciiLetter c || isAsciiDigit c
      if inAttribute && last != ';' && goesOn then none else some (cs, rest)

/-- The number of characters that are looked at behind an ampersand, and that are not part of a
number. -/
def lookedAt (s : List Char) : Nat :=
  match s with
  | [] => 0
  | '#' :: t =>
    match t with
    | 'x' :: u => if u.head?.any isHexDigit then 0 else 2
    | 'X' :: u => if u.head?.any isHexDigit then 0 else 2
    | _ => if t.head?.any isAsciiDigit then 0 else 1
  | c :: _ => if c = '\t' || c = '\n' || c = '\x0c' || c = ' ' || c = '<' || c = '&' then 0
    else Reference.lookedAt s

/-- Replaces the references of a text.  `fuel` is at least its length. -/
def decode (inAttribute : Bool) : (fuel : Nat) → List Char → List Char
  | 0, s => s
  | _ + 1, [] => []
  | fuel + 1, c :: s =>
    if c = '&' then
      match reference? inAttribute s with
      | some (cs, rest) => cs ++ decode inAttribute fuel rest
      | none => '&' :: decode inAttribute fuel s
    else c :: decode inAttribute fuel s

/-- The value of an attribute as it was written. -/
def attributeValue (s : List Char) : String :=
  let lines := normalizeLines s
  String.ofList (decode true lines.length (lines.map shown))

/-! ### Tags -/

/-- The value of an attribute and what follows it; none at the end of the text. -/
def readValue? (s : List Char) : Option (List Char × List Char) :=
  match s.dropWhile isSpace with
  | [] => none
  | '"' :: t =>
    match t.dropWhile (· != '"') with
    | [] => none
    | _ :: rest => some (t.takeWhile (· != '"'), rest)
  | '\'' :: t =>
    match t.dropWhile (· != '\'') with
    | [] => none
    | _ :: rest => some (t.takeWhile (· != '\''), rest)
  | t =>
    let inValue := fun c => !(isSpace c || c = '>')
    match t.dropWhile inValue with
    | [] => none
    | rest => some (t.takeWhile inValue, rest)

/-- Adds an attribute unless one of its name is there. -/
def addAttribute (attrs : List (String × String)) (name value : String) :
    List (String × String) :=
  if attrs.any (·.1 == name) then attrs else attrs ++ [(name, value)]

/-- Reads attributes up to the end of the tag: the attributes, whether the tag closes itself, and
what follows it.  The text may end before the tag does. -/
def readAttributes? (attrs : List (String × String)) :
    (fuel : Nat) → List Char → Option (List (String × String) × Bool × List Char)
  | 0, _ => none
  | fuel + 1, s =>
    match s.dropWhile isSpace with
    | [] => none
    | '>' :: t => some (attrs, false, t)
    | '/' :: '>' :: t => some (attrs, true, t)
    | '/' :: t => readAttributes? attrs fuel t
    | c :: t =>
      let inName := fun c => !(endsTagName c || c = '=')
      let name := String.ofList ((c :: t.takeWhile inName).map fun c => shown (lower c))
      let rest := t.dropWhile inName
      match rest.dropWhile isSpace with
      | '=' :: u =>
        match readValue? u with
        | some (value, v) => readAttributes? (addAttribute attrs name (attributeValue value)) fuel v
        | none => none
      | _ => readAttributes? (addAttribute attrs name "") fuel rest

/-- Reads a tag from its name on. -/
def readTag? (s : List Char) :
    Option (String × List (String × String) × Bool × List Char) :=
  let inName := fun c => !endsTagName c
  let name := String.ofList ((s.takeWhile inName).map fun c => shown (lower c))
  let rest := s.dropWhile inName
  (readAttributes? [] (rest.length + 1) rest).map fun (attrs, closing, rest) =>
    (name, attrs, closing, rest)

/-! ### Comments -/

/-- Where in a comment a character stands. -/
inductive CommentPlace where
  /-- At the start. -/
  | start
  /-- Behind a dash at the start. -/
  | startDash
  /-- Inside. -/
  | body
  /-- Behind one dash. -/
  | dash
  /-- Behind two dashes. -/
  | dashes
  /-- Behind two dashes and an exclamation mark. -/
  | bang

/-- The place behind a character inside a comment, and the text with it, its last character
first. -/
def commentStep (done : List Char) (c : Char) : CommentPlace × List Char :=
  if c = '-' then (.dash, done) else (.body, shown c :: done)

/-- Reads a comment to its end: its text and what follows it.  `done` is the text before, its last
character first. -/
def readComment (place : CommentPlace) (done : List Char) : List Char → List Char × List Char
  | [] => (done.reverse, [])
  | c :: s =>
    let goOn := fun (p : CommentPlace × List Char) => readComment p.1 p.2 s
    match place with
    | .start =>
      if c = '-' then readComment .startDash done s
      else if c = '>' then (done.reverse, s)
      else goOn (commentStep done c)
    | .startDash =>
      if c = '-' then readComment .dashes done s
      else if c = '>' then (done.reverse, s)
      else goOn (commentStep ('-' :: done) c)
    | .body => goOn (commentStep done c)
    | .dash =>
      if c = '-' then readComment .dashes done s else goOn (commentStep ('-' :: done) c)
    | .dashes =>
      if c = '>' then (done.reverse, s)
      else if c = '!' then readComment .bang done s
      else if c = '-' then readComment .dashes ('-' :: done) s
      else goOn (commentStep ('-' :: '-' :: done) c)
    | .bang =>
      if c = '-' then readComment .dash ('!' :: '-' :: '-' :: done) s
      else if c = '>' then (done.reverse, s)
      else goOn (commentStep ('!' :: '-' :: '-' :: done) c)

/-- A comment of the given text. -/
def commentOf (s : List Char) : Token := .comment (String.ofList (normalizeLines s))

/-- What stands up to the next `>`, as a comment. -/
def bogusComment (s : List Char) : Token × List Char :=
  (commentOf ((s.takeWhile (· != '>')).map shown), (s.dropWhile (· != '>')).drop 1)

/-! ### Document types -/

/-- A quoted identifier in front: the identifier, whether it was closed by its quote, and what
follows. -/
def readIdentifier? : List Char → Option (String × Bool × List Char)
  | c :: s =>
    if c = '"' ∨ c = '\'' then
      let inside := fun d => d != c && d != '>'
      let id := String.ofList ((normalizeLines (s.takeWhile inside)).map shown)
      match s.dropWhile inside with
      | d :: rest => some (id, d = c, if d = c then rest else d :: rest)
      | [] => some (id, false, [])
    else none
  | [] => none

/-- What follows the next `>`. -/
def afterTagEnd (s : List Char) : List Char := (s.dropWhile (· != '>')).drop 1

/-- Ends a document type: in order where only blanks stand before the `>`. -/
def finishDoctype (d : Doctype) (strict : Bool) (s : List Char) : Doctype × List Char :=
  match s.dropWhile isSpace with
  | '>' :: rest => (d, rest)
  | [] => ({ d with forceQuirks := true }, [])
  | rest => (if strict then { d with forceQuirks := true } else d, afterTagEnd rest)

/-- Reads the system identifier of a document type. -/
def readSystem (d : Doctype) (s : List Char) : Doctype × List Char :=
  match readIdentifier? (s.dropWhile isSpace) with
  | some (id, true, rest) => finishDoctype { d with systemId := some id } false rest
  | some (id, false, rest) =>
    ({ d with systemId := some id, forceQuirks := true }, afterTagEnd rest)
  | none => ({ d with forceQuirks := true }, afterTagEnd s)

/-- Reads the public identifier of a document type and what follows it. -/
def readPublic (d : Doctype) (s : List Char) : Doctype × List Char :=
  match readIdentifier? (s.dropWhile isSpace) with
  | some (id, true, rest) =>
    let d := { d with publicId := some id }
    match rest.dropWhile isSpace with
    | '>' :: rest => (d, rest)
    | rest => readSystem d rest
  | some (id, false, rest) =>
    ({ d with publicId := some id, forceQuirks := true }, afterTagEnd rest)
  | none => ({ d with forceQuirks := true }, afterTagEnd s)

/-- Drops a lowercase word, in any case, off a text. -/
def dropWord? (word : String) (s : List Char) : Option (List Char) :=
  let n := word.length
  if Chars.lowercase (s.take n) = word.toList then some (s.drop n) else none

/-- Reads a document type from behind the word `DOCTYPE`. -/
def readDoctype (s : List Char) : Doctype × List Char :=
  let unnamed : Doctype := ⟨none, none, none, true⟩
  match s.dropWhile isSpace with
  | [] => (unnamed, [])
  | '>' :: rest => (unnamed, rest)
  | t =>
    let inName := fun c => !(isSpace c || c = '>')
    let name := String.ofList ((t.takeWhile inName).map fun c => shown (lower c))
    let d : Doctype := ⟨some name, none, none, false⟩
    let rest := (t.dropWhile inName).dropWhile isSpace
    match rest with
    | '>' :: rest => (d, rest)
    | _ =>
      match dropWord? "public" rest, dropWord? "system" rest with
      | some rest, _ => readPublic d rest
      | none, some rest => readSystem d rest
      | none, none => finishDoctype d true rest

/-! ### Text up to an end tag -/

/-- Whether a text starts with the end tag of the given name. -/
def startsEndTag (name : String) (s : List Char) : Bool :=
  match s with
  | '<' :: '/' :: t => (dropWord? name t).any fun rest => rest.head?.any endsTagName
  | _ => false

/-- Cuts a text in front of the end tag of the given name. -/
def splitAtEndTag (name : String) : List Char → List Char × List Char
  | [] => ([], [])
  | c :: s =>
    if startsEndTag name (c :: s) then ([], c :: s)
    else
      let (before, rest) := splitAtEndTag name s
      (shown c :: before, rest)

/-- How deep a script is inside a comment of its own. -/
inductive ScriptPlace where
  /-- Outside of a comment. -/
  | outside
  /-- In a comment. -/
  | escaped
  /-- In a comment, behind a start tag of a script. -/
  | nested
deriving DecidableEq

/-- Whether a text starts with the word `script` as the name of a tag. -/
def startsScriptName (s : List Char) : Bool :=
  (dropWord? "script" s).any fun rest => rest.head?.any endsTagName

/-- Cuts the text of a script in front of its end tag.  `dashes` counts the dashes just read,
up to two. -/
def splitScript (place : ScriptPlace) (dashes : Nat) : List Char → List Char × List Char
  | [] => ([], [])
  | c :: s =>
    if place ≠ .nested ∧ startsEndTag "script" (c :: s) then ([], c :: s)
    else
      let next : ScriptPlace × Nat :=
        match place with
        | .outside =>
          if c = '<' ∧ "!--".toList.isPrefixOf s then (.escaped, 0)
          else (.outside, 0)
        | .escaped =>
          if c = '-' then (.escaped, min 2 (dashes + 1))
          else if c = '>' ∧ dashes = 2 then (.outside, 0)
          else if c = '<' ∧ startsScriptName s then (.nested, 0)
          else (.escaped, 0)
        | .nested =>
          if c = '-' then (.nested, min 2 (dashes + 1))
          else if c = '>' ∧ dashes = 2 then (.outside, 0)
          else if c = '<' ∧ s.head? = some '/' ∧ startsScriptName (s.drop 1) then (.escaped, 0)
          else (.nested, 0)
      let (before, rest) := splitScript next.1 next.2 s
      (shown c :: before, rest)

/-! ### Tokens -/

/-- A start tag, or the end where the text ends inside the tag. -/
def startTagAt (s : List Char) : Token × List Char :=
  match readTag? s with
  | some (name, attrs, closing, rest) => (.startTag name attrs closing, rest)
  | none => (.eof, [])

/-- An end tag, or the end where the text ends inside the tag. -/
def endTagAt (s : List Char) : Token × List Char :=
  match readTag? s with
  | some (name, _, _, rest) => (.endTag name, rest)
  | none => (.eof, [])

/-- The text of a section of character data and what follows the section. -/
def readSection : List Char → List Char × List Char
  | [] => ([], [])
  | c :: s =>
    match "]]>".toList.isPrefixOf? (c :: s) with
    | some rest => ([], rest)
    | none =>
      let (text, rest) := readSection s
      (c :: text, rest)

/-- The pieces between the NULs of a text, with a token for each NUL. -/
def sectionTokens (s : List Char) : List Token :=
  (((normalizeLines s).splitOn '\x00').map chars).intersperse null

/-- The tokens behind `<!`. -/
def declarationAt (sections : Bool) (s : List Char) : List Token × List Char :=
  match "--".toList.isPrefixOf? s, dropWord? "doctype" s,
      "[CDATA[".toList.isPrefixOf? s with
  | some rest, _, _ =>
    let (text, rest) := readComment .start [] rest
    ([commentOf text], rest)
  | none, some rest, _ =>
    let (d, rest) := readDoctype rest
    ([.doctype d], rest)
  | none, none, some rest =>
    if sections then
      let (text, rest) := readSection rest
      (sectionTokens text, rest)
    else
      let (token, rest) := bogusComment s
      ([token], rest)
  | none, none, none =>
    let (token, rest) := bogusComment s
    ([token], rest)

/-! ### Pieces of text -/

/-- The number of characters after which the next piece of text ends at the latest, if there is such
a number. -/
abbrev Bound := Option Nat

/-- The bound behind `n` more characters. -/
def Bound.behind (bound : Bound) (n : Nat) : Bound :=
  bound.bind fun m => if n < m then some (m - n) else none

/-- What is taken off a text. -/
structure Taken where
  /-- The tokens, mostly one. -/
  tokens : List Token
  /-- What follows them. -/
  rest : List Char
  /-- The bound of the next piece of text. -/
  bound : Bound := none

/-- Takes a piece of text off a text that starts with neither NUL nor markup.  A piece holds one
line end or none, `isPlain` has the other characters, and behind a carriage return the next piece is
a single character. -/
def takePiece (isPlain : Char → Bool) (bound : Bound) (s : List Char) : Taken :=
  match s with
  | '\r' :: '\n' :: t => ⟨[.chars ['\n']], t, some 1⟩
  | '\r' :: t => ⟨[.chars ['\n']], t, some 1⟩
  | '\n' :: t => ⟨[.chars ['\n']], t, bound.behind 1⟩
  | _ =>
    let run := s.takeWhile fun c => isPlain c && !(c = '\x00' || c = '\n' || c = '\r')
    let piece := match bound with
      | some n => run.take n
      | none => run
    ⟨[.chars piece], s.drop piece.length, bound.behind piece.length⟩

/-- Takes a reference or an ampersand off a text that stands behind an ampersand. -/
def takeReference (s : List Char) : Taken :=
  let seen := lookedAt s
  match reference? false s with
  | some (cs, rest) =>
    let used := s.length - rest.length
    ⟨cs.map fun c => .chars [c], rest, if used < seen then some (seen - used) else none⟩
  | none => ⟨[.chars ['&']], s, if seen = 0 then none else some seen⟩

/-- Takes markup off a text that stands behind a `<`. -/
def takeMarkup (sections : Bool) (s : List Char) : Taken :=
  let one := fun (p : Token × List Char) => (⟨[p.1], p.2, none⟩ : Taken)
  match s with
  | [] => ⟨[.chars ['<']], [], none⟩
  | '!' :: t =>
    let (tokens, rest) := declarationAt sections t
    ⟨tokens, rest, none⟩
  | '?' :: _ => one (bogusComment s)
  | '/' :: [] => ⟨[.chars ['<'], .chars ['/']], [], none⟩
  | '/' :: c :: t =>
    if isAsciiLetter c then one (endTagAt (c :: t))
    else if c = '>' then ⟨[.chars []], t, none⟩
    else one (bogusComment (c :: t))
  | c :: _ => if isAsciiLetter c then one (startTagAt s) else ⟨[.chars ['<']], s, some 1⟩

/-! ### Tokens -/

/-- Takes a token off a text that is being read as data.  `sections` says whether sections of
character data are known. -/
def nextData (sections : Bool) (bound : Bound) (s : List Char) : Taken :=
  match s with
  | [] => ⟨[.eof], [], none⟩
  | '\x00' :: t => ⟨[.null], t, bound.behind 1⟩
  | '&' :: t => takeReference t
  | '<' :: t => takeMarkup sections t
  | _ => takePiece (fun c => !(c = '&' || c = '<')) bound s

/-- Takes a token off a text without markup. -/
def nextPlain (bound : Bound) (s : List Char) : Taken :=
  match s with
  | [] => ⟨[.eof], [], none⟩
  | '\x00' :: t => ⟨[.chars [replacement]], t, bound.behind 1⟩
  | _ => takePiece (fun _ => true) bound s

/-- A run of text, or the end tag where the run is empty. -/
def textOrEndTag (text rest : List Char) : Taken :=
  if text.isEmpty then
    match rest with
    | [] => ⟨[.eof], [], none⟩
    | _ =>
      let (token, rest) := endTagAt (rest.drop 2)
      ⟨[token], rest, none⟩
  else ⟨[.chars text], rest, none⟩

/-- Takes a token off a text. -/
def next (content : Content) (sections : Bool) (bound : Bound) (s : List Char) : Taken :=
  match content with
  | .data => nextData sections bound s
  | .referenceText name =>
    let (text, rest) := splitAtEndTag name s
    let lines := normalizeLines text
    textOrEndTag (decode false lines.length lines) rest
  | .rawText name =>
    let (text, rest) := splitAtEndTag name s
    textOrEndTag (normalizeLines text) rest
  | .script =>
    let (text, rest) := splitScript .outside 0 s
    textOrEndTag (normalizeLines text) rest
  | .plain => nextPlain bound s

end Token

end PageModules
