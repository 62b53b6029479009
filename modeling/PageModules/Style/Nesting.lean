import PageModules.Text.Basic

/-!
# Cutting style text outside of parentheses and quotes

Style text is cut at separators that stand outside of parentheses, and for declarations outside of
quotes too.

* `splitDeclarations` cuts at semicolons; a blank last piece is left out.
* `splitTokens` cuts at white space, so a colour such as `rgba(0, 0, 0, .5)` stays one token.
* `splitCommas` cuts at commas, `firstItem` is what stands before the first one.
* `balancedParens?` is the group of parentheses that a text starts with.

In all but `splitCommas` the depth stays at zero when more parentheses are closed than opened.
-/

namespace PageModules.Style

open Text (isBlank)

/-! ### Declarations -/

/-- What surrounds a place in style text: the number of open parentheses and the open quote. -/
structure Nesting where
  /-- The number of open parentheses. -/
  depth : Nat
  /-- The quote that is open. -/
  quote : Option Char
deriving DecidableEq

namespace Nesting

/-- The start of a text: nothing is open. -/
def outside : Nesting := ⟨0, none⟩

/-- Whether nothing is open. -/
def isOutside (n : Nesting) : Bool := n.depth = 0 && n.quote.isNone

/-- What surrounds the place behind one more character. -/
def step (n : Nesting) (c : Char) : Nesting :=
  if c = '"' ∨ c = '\'' then
    match n.quote with
    | none => { n with quote := some c }
    | some q => if q = c then { n with quote := none } else n
  else if n.quote.isSome then n
  else if c = '(' then { n with depth := n.depth + 1 }
  else if c = ')' then { n with depth := n.depth - 1 }
  else n

end Nesting

/-- The pieces from a place on; `piece` is the one being read, its last character first. -/
def splitDeclarationsFrom (n : Nesting) (piece : List Char) : List Char → List (List Char)
  | [] => if Chars.isBlankText piece then [] else [piece.reverse]
  | c :: s =>
    if c = ';' && n.isOutside then piece.reverse :: splitDeclarationsFrom n [] s
    else splitDeclarationsFrom (n.step c) (c :: piece) s

/-- Cuts at the semicolons outside of parentheses and quotes. -/
def splitDeclarations (s : List Char) : List (List Char) :=
  splitDeclarationsFrom .outside [] s

/-! ### Tokens -/

/-- The tokens from a place on, at the given depth; `token` is the one being read, its last
character first. -/
def splitTokensFrom (depth : Nat) (token : List Char) : List Char → List (List Char)
  | [] => if token.isEmpty then [] else [token.reverse]
  | c :: s =>
    if c = '(' then splitTokensFrom (depth + 1) (c :: token) s
    else if c = ')' then
      splitTokensFrom (depth - 1) (if token.isEmpty then [] else c :: token) s
    else if isBlank c && depth = 0 then
      if token.isEmpty then splitTokensFrom 0 [] s else token.reverse :: splitTokensFrom 0 [] s
    else splitTokensFrom depth (c :: token) s

/-- Cuts at the white space outside of parentheses.  A closing parenthesis at the start of a token
is dropped. -/
def splitTokens (s : List Char) : List (List Char) := splitTokensFrom 0 [] s

/-! ### Commas -/

/-- The pieces from a place on, at the given depth; `piece` is the one being read, its last
character first.  The depth has no bounds: one of 32 bits would differ from it only in a text with
2 ^ 31 parentheses. -/
def splitCommasFrom (depth : Int) (piece : List Char) : List Char → List (List Char)
  | [] => [piece.reverse]
  | c :: s =>
    if c = '(' then splitCommasFrom (depth + 1) (c :: piece) s
    else if c = ')' then splitCommasFrom (depth - 1) (c :: piece) s
    else if c = ',' && depth = 0 then piece.reverse :: splitCommasFrom depth [] s
    else splitCommasFrom depth (c :: piece) s

/-- Cuts at the commas where as many parentheses were opened as closed. -/
def splitCommas (s : List Char) : List (List Char) := splitCommasFrom 0 [] s

/-- The text before the first comma outside of parentheses, from a place on. -/
def firstItemFrom (depth : Nat) : List Char → List Char
  | [] => []
  | c :: s =>
    if c = '(' then c :: firstItemFrom (depth + 1) s
    else if c = ')' then c :: firstItemFrom (depth - 1) s
    else if c = ',' && depth = 0 then []
    else c :: firstItemFrom depth s

/-- The text before the first comma outside of parentheses, trimmed. -/
def firstItem (s : List Char) : List Char := Chars.trim (firstItemFrom 0 s)

/-! ### Groups -/

/-- The text up to the parenthesis that closes the group, with `depth` more groups open inside. -/
def closeGroup? (depth : Nat) : List Char → Option (List Char)
  | [] => none
  | c :: s =>
    if c = '(' then (closeGroup? (depth + 1) s).map (c :: ·)
    else if c = ')' then
      match depth with
      | 0 => some [c]
      | depth + 1 => (closeGroup? depth s).map (c :: ·)
    else (closeGroup? depth s).map (c :: ·)

/-- The group of parentheses that a text starts with, up to its closing parenthesis. -/
def balancedParens? : List Char → Option (List Char)
  | [] => none
  | c :: s => if c = '(' then (closeGroup? 0 s).map (c :: ·) else none

end PageModules.Style
