import SqlDialect.Scan.Sweep

/-!
# String literals and their concatenation

A literal stands in single quotes, and a quote inside it is written twice. `'a' + 'b'` becomes
`'a' || 'b'`. The sweep goes on behind the second literal, so a longer chain takes several turns;
each removes a `+`, so their number bounds the number of turns.

* `closeLiteral?` finds the end of a literal;
* `literal?` reads a whole literal, quotes included;
* `literalSum` reads two literals with a `+` between them.
-/

namespace SqlDialect.Query

open Scan

/-- The text of a literal after its opening quote, closing quote included, and the rest. A literal
that is never closed ends at the first quote of its last doubled one, if it has one. -/
def closeLiteral? : List Char → Option (List Char × List Char)
  | [] => none
  | '\'' :: '\'' :: s =>
    match closeLiteral? s with
    | some (body, rest) => some ('\'' :: '\'' :: body, rest)
    | none => some (['\''], '\'' :: s)
  | c :: s =>
    if c = '\'' then some (['\''], s)
    else (closeLiteral? s).map fun (body, rest) => (c :: body, rest)

/-- A literal with its quotes, and the rest. -/
def literal? : List Char → Option (List Char × List Char)
  | [] => none
  | c :: s =>
    if c = '\'' then (closeLiteral? s).map fun (body, rest) => ('\'' :: body, rest) else none

/-- Reads two literals with a `+` between them. -/
def literalSum : Scanner (List Char × List Char) := fun _ s => do
  let (left, s) ← literal? s
  let s ← symbol? '+' (Text.skipBlanks s)
  let (right, s) ← literal? (Text.skipBlanks s)
  return ((left, right), s)

/-- Writes the concatenation of two literals. -/
def concatText (sum : List Char × List Char) : List Char := sum.1 ++ " || ".toList ++ sum.2

/-- One turn: the sums found in one sweep. -/
def concatPass (s : List Char) : List Char := replaceAll literalSum concatText s

/-- Writes all sums of literals as concatenations. -/
def concatLiterals (s : List Char) : List Char := settle concatPass (s.count '+') s

end SqlDialect.Query
