import PageModules.Address.Host

/-!
# Absolute addresses

`Absolute.query?` is the query of an absolute address; an address that is relative or malformed has
none.  An address has a scheme; those of the web go on with a host and a port, others may.
-/

namespace PageModules.Absolute

open Text (isAsciiLetter isAsciiDigit)

/-! ### Parts -/

/-- Whether a character is dropped at the ends of an address. -/
def isEdge (c : Char) : Bool := c.toNat ≤ 0x20

/-- Whether a character is dropped everywhere in an address. -/
def isBreak (c : Char) : Bool := c = '\t' || c = '\n' || c = '\r'

/-- The characters of an address that count. -/
def clean (s : List Char) : List Char := (Chars.trimOf isEdge s).filter fun c => !isBreak c

/-- Whether a character may stand in a scheme. -/
def isSchemeChar (c : Char) : Bool :=
  isAsciiLetter c || isAsciiDigit c || c = '+' || c = '-' || c = '.'

/-- The scheme in lowercase and what follows its colon. -/
def scheme? (s : List Char) : Option (String × List Char) :=
  match s.head?, s.dropWhile isSchemeChar with
  | some c, ':' :: rest =>
    if isAsciiLetter c then some (String.ofList (Chars.lowercase (s.takeWhile isSchemeChar)), rest)
    else none
  | _, _ => none

/-- The schemes of the web. -/
def webSchemes : List String := ["http", "https", "ws", "wss", "ftp"]

/-- Whether a character ends the host and port. -/
def endsAuthority (isWeb : Bool) (c : Char) : Bool :=
  c = '/' || c = '?' || c = '#' || (isWeb && c = '\\')

/-! ### Hosts with ports -/

/-- Cuts a host off its port: at the first colon outside of brackets. -/
def splitPort (inBrackets : Bool) : List Char → List Char × Option (List Char)
  | [] => ([], none)
  | c :: s =>
    if c = ':' ∧ !inBrackets then ([], some s)
    else
      let (host, port) := splitPort (c = '[' || (inBrackets && c ≠ ']')) s
      (c :: host, port)

/-- Whether a port is well-formed; a backslash ends it. -/
def isPort (s : List Char) : Bool :=
  let digits := s.takeWhile (· != '\\')
  digits.all isAsciiDigit && Binary64.digitsValue digits ≤ 65535

/-- Whether a user with a password is a written one. -/
def namesUser (user : List Char) : Bool := !user.isEmpty && user != [':']

/-- Whether a host may be missing: not on the web, not behind a user and not in front of a port.  An
`@` alone names nobody, but it has to be the last thing in the address. -/
def mayLackHost (isWeb : Bool) (user port : Option (List Char)) (isLast : Bool) : Bool :=
  !isWeb && !user.any namesUser && port.isNone && (user != some [] || isLast)

/-- Whether what stands between the slashes and the path is well-formed; `isLast` tells whether
nothing follows it. -/
def isAuthority (isWeb isLast : Bool) (s : List Char) : Bool :=
  let (user, rest) := match Chars.splitLast? '@' s with
    | some (user, rest) => (some user, rest)
    | none => (none, s)
  let (host, port) := splitPort false rest
  if host.isEmpty then mayLackHost isWeb user port isLast
  else (if isWeb then isWebHost host else isPlainHost host) && port.all isPort

/-! ### The query -/

/-- The query of what follows the host. -/
def queryOf (s : List Char) : List Char :=
  match (s.takeWhile (· != '#')).dropWhile (· != '?') with
  | _ :: query => query
  | [] => []

/-- The query behind a host. -/
def queryAfterHost? (isWeb : Bool) (s : List Char) : Option (List Char) :=
  let rest := s.dropWhile fun c => !endsAuthority isWeb c
  if isAuthority isWeb rest.isEmpty (s.takeWhile fun c => !endsAuthority isWeb c) then
    some (queryOf rest)
  else none

/-- Whether the host of a file is well-formed; it may be missing. -/
def isFileHost (s : List Char) : Bool :=
  let slash := fun c => c = '/' || c = '\\'
  match s with
  | a :: b :: rest =>
    if slash a && slash b then
      let host := rest.takeWhile fun c => !endsAuthority true c
      let isDrive := host.length = 2 && host.head?.any isAsciiLetter &&
        host.getLast?.any fun c => c = ':' || c = '|'
      host.isEmpty || isDrive || isWebHost host
    else true
  | _ => true

/-- The query of an absolute address, empty where it has none. -/
def query? (address : String) : Option (List Char) :=
  match scheme? (clean address.toList) with
  | none => none
  | some (scheme, rest) =>
    if webSchemes.contains scheme then
      queryAfterHost? true (rest.dropWhile fun c => c = '/' || c = '\\')
    else if scheme = "file" then if isFileHost rest then some (queryOf rest) else none
    else match rest with
      | '/' :: '/' :: t => queryAfterHost? false t
      | t => some (queryOf t)

end PageModules.Absolute
