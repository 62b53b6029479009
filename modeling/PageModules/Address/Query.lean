import PageModules.Address.Escapes

/-!
# Queries of addresses

`Query.pairs` reads the query of an address as names with values: the pieces between `&`, each cut
at its first `=`, with `+` for a blank and `%41` for a byte.
-/

namespace PageModules.Query

/-- The byte that a byte outside of an escape stands for. -/
def plainByte (b : UInt8) : UInt8 := if b = 0x2B then 0x20 else b

/-- The text of a piece. -/
def decode (s : List Char) : String := String.ofList (Escapes.decode plainByte s)

/-- The names of a query with their values. -/
def pairs (query : List Char) : List (String × String) :=
  ((query.splitOn '&').filter fun piece => !piece.isEmpty).map fun piece =>
    match Chars.splitAt? '=' piece with
    | some (name, value) => (decode name, decode value)
    | none => (decode piece, "")

end PageModules.Query
