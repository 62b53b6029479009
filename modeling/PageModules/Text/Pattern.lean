import PageModules.Text.Basic

/-!
# Patterns over text

A small pattern language with captures: characters of a class, bounded repetition of a class,
sequence, ordered choice, word boundaries and the two ends of the text.  A match is searched from
left to right; at each place the first way of matching counts, where a choice prefers its left side
and a repetition prefers more characters (`lazy` ones prefer fewer).

`Pattern.run` explores the ways of matching in that order.  Its continuation receives the place
where a way ends and the captured texts, and may refuse it; repetition is over a class of single
characters only, so the search ends for a structural reason.
-/

namespace PageModules.Text

/-- A place in a text: the character before it and the characters after it. -/
structure Place where
  /-- The character in front, none at the start of the text. -/
  behind : Option Char
  /-- The characters that follow. -/
  rest : List Char

namespace Place

/-- The place at the start of a text. -/
def start (s : List Char) : Place := ⟨none, s⟩

/-- Whether exactly one of the two neighbours of the place is a word character. -/
def isWordBoundary (p : Place) : Bool :=
  (p.behind.any isWordChar) != (p.rest.head?.any isWordChar)

/-- The text between a place and a later one. -/
def textUpTo (p q : Place) : List Char := p.rest.take (p.rest.length - q.rest.length)

end Place

/-- A pattern over text. -/
inductive Pattern where
  /-- The empty text. -/
  | empty
  /-- One character of a class. -/
  | char (holds : Char → Bool)
  /-- At least `least` and, where a bound is given, at most `most` characters of a class. -/
  | many (least : Nat) (most : Option Nat) (lazy : Bool) (holds : Char → Bool)
  /-- One pattern after the other. -/
  | seq (first second : Pattern)
  /-- The first pattern or else the second. -/
  | alt (first second : Pattern)
  /-- The text matched by a pattern, kept under a number. -/
  | capture (index : Nat) (inner : Pattern)
  /-- The empty text between a word character and another. -/
  | wordBoundary
  /-- The empty text at the start. -/
  | textStart
  /-- The empty text at the end. -/
  | textEnd

namespace Pattern

/-- The captured texts, the latest first. -/
abbrev Captures := List (Nat × List Char)

/-- The ways of reading between `least` and `most` characters of a class, tried in order; `most` is
none where there is no bound. -/
def runMany {α : Type} (least : Nat) (most : Option Nat) (lazy : Bool) (holds : Char → Bool)
    (behind : Option Char) (rest : List Char) (next : Place → Option α) : Option α :=
  match rest with
  | [] => if least = 0 then next ⟨behind, []⟩ else none
  | c :: s =>
    if holds c && most != some 0 then
      let longer := fun _ : Unit =>
        runMany (least - 1) (most.map (· - 1)) lazy holds (some c) s next
      if least = 0 then
        if lazy then (next ⟨behind, c :: s⟩).orElse longer
        else (longer ()).orElse fun _ => next ⟨behind, c :: s⟩
      else longer ()
    else if least = 0 then next ⟨behind, c :: s⟩ else none

/-- The first way of matching the pattern at a place that `next` accepts. -/
def run {α : Type} (p : Pattern) (place : Place) (captures : Captures)
    (next : Place → Captures → Option α) : Option α :=
  match p with
  | empty => next place captures
  | char holds =>
    match place.rest with
    | [] => none
    | c :: s => if holds c then next ⟨some c, s⟩ captures else none
  | many least most lazy holds =>
    runMany least most lazy holds place.behind place.rest fun q => next q captures
  | seq first second => first.run place captures fun q caps => second.run q caps next
  | alt first second =>
    (first.run place captures next).orElse fun _ => second.run place captures next
  | capture index inner =>
    inner.run place captures fun q caps => next q ((index, place.textUpTo q) :: caps)
  | wordBoundary => if place.isWordBoundary then next place captures else none
  | textStart => if place.behind.isNone then next place captures else none
  | textEnd => if place.rest.isEmpty then next place captures else none

/-- A match within a text: what stands before it, the matched text, what stands after it, and the
captured texts. -/
structure Match where
  /-- The text before the match. -/
  before : List Char
  /-- The matched text. -/
  text : List Char
  /-- The text after the match. -/
  after : List Char
  /-- The captured texts. -/
  captures : Captures

/-- The text captured under a number, if that part of the pattern took part in the match. -/
def Match.group? (m : Match) (index : Nat) : Option (List Char) := m.captures.lookup index

/-- The match that starts at a place. -/
def matchAt? (p : Pattern) (place : Place) : Option Match :=
  p.run place [] fun q captures =>
    some ⟨[], place.textUpTo q, q.rest, captures⟩

/-- The first match at or after a place. -/
def findFrom? (p : Pattern) (behind : Option Char) : List Char → Option Match
  | [] => p.matchAt? ⟨behind, []⟩
  | c :: s =>
    match p.matchAt? ⟨behind, c :: s⟩ with
    | some m => some m
    | none => (p.findFrom? (some c) s).map fun m => { m with before := c :: m.before }

/-- The first match in a text. -/
def find? (p : Pattern) (s : List Char) : Option Match := p.findFrom? none s

/-- Whether the pattern matches somewhere in a text. -/
def isIn (p : Pattern) (s : List Char) : Bool := (p.find? s).isSome

/-- The matches of a text from left to right, none overlapping the one before.  A match of the
empty text ends the list. -/
def findAllFrom (p : Pattern) (behind : Option Char) (s : List Char) : List Match :=
  match p.findFrom? behind s with
  | none => []
  | some m =>
    if _h : m.after.length < s.length then
      m :: findAllFrom p (m.text.getLast?.or (m.before.getLast?.or behind)) m.after
    else [m]
termination_by s.length

/-- The matches of a text from left to right, none overlapping the one before. -/
def findAll (p : Pattern) (s : List Char) : List Match := p.findAllFrom none s

/-! ### Building patterns -/

/-- The given text. -/
def text (s : String) : Pattern :=
  s.toList.foldr (fun c p => seq (char (· == c)) p) empty

/-- The given lowercase text in any case. -/
def folded (s : String) : Pattern :=
  s.toList.foldr (fun c p => seq (char fun d => foldCase d == c) p) empty

/-- One pattern after the other. -/
def sequence (ps : List Pattern) : Pattern := ps.foldr seq empty

/-- The first of several patterns that fits. -/
def choice : List Pattern → Pattern
  | [] => char fun _ => false
  | [p] => p
  | p :: ps => alt p (choice ps)

/-- The given lowercase words in any case, the earlier ones first. -/
def foldedChoice (ss : List String) : Pattern := choice (ss.map folded)

/-- The pattern or nothing. -/
def optional (p : Pattern) : Pattern := alt p empty

/-- As many characters of a class as possible. -/
def star (holds : Char → Bool) : Pattern := many 0 none false holds

/-- As many characters of a class as possible, at least one. -/
def plus (holds : Char → Bool) : Pattern := many 1 none false holds

/-- White space, as much as possible. -/
def blanks : Pattern := star isBlank

/-- White space, at least one character and as much as possible. -/
def blanks1 : Pattern := plus isBlank

end Pattern

end PageModules.Text
