import SqlDialect.Query.RowLimit
import SqlDialect.Query.StatementTail

/-!
# The first rows of a query

`SELECT TOP n`, also with `DISTINCT` and with the count in parentheses, becomes `SELECT` with a
limit at the end of the statement. The count is that of the first `TOP` in the query as it was
before any rule; a query that limits its rows in some way gets no second limit.

* `selectTop` reads `SELECT`, `TOP` and the count;
* `topCount?` is the count of the first one;
* `limitTop` leaves out all of them and adds the limit.
-/

namespace SqlDialect.Query

open Scan

/-- What `SELECT TOP` says: `DISTINCT` with the blanks after it, or nothing, and the count. -/
structure SelectTop where
  distinct : List Char
  count : List Char
  deriving DecidableEq, Repr

/-- `DISTINCT` and the blanks after it, if they stand here, and the rest. -/
def distinctWord (s : List Char) : List Char × List Char :=
  match (keyword? "distinct".toList s).bind Text.skipBlanks1? with
  | some rest => (s.take (s.length - rest.length), rest)
  | none => ([], s)

/-- The rest after a count: in parentheses, or bare with blanks after it. -/
def topRows? (s : List Char) : Option (List Char × List Char) :=
  match symbol? '(' s with
  | some s => do
    let (n, s) ← digits? (Text.skipBlanks s)
    let s ← symbol? ')' (Text.skipBlanks s)
    return (n, Text.skipBlanks s)
  | none => do
    let (n, s) ← digits? s
    let s ← Text.skipBlanks1? s
    return (n, s)

/-- Reads `SELECT`, perhaps `DISTINCT`, `TOP` and a count. -/
def selectTop : Scanner SelectTop := fun before s => do
  guard (Text.atWordStart before)
  let s ← keyword? "select".toList s
  let s ← Text.skipBlanks1? s
  let (distinct, s) := distinctWord s
  let s ← keyword? "top".toList s
  let (n, s) ← topRows? (Text.skipBlanks s)
  return (⟨distinct, n⟩, s)

/-- The count of the first `SELECT TOP`. -/
def topCount? (s : List Char) : Option (List Char) := (first? selectTop s).map SelectTop.count

/-- The same selection without its count. -/
def SelectTop.bare (t : SelectTop) : List Char := "SELECT ".toList ++ t.distinct

/-- Leaves out every `TOP` with its count. -/
def stripTop (s : List Char) : List Char := replaceAll selectTop SelectTop.bare s

/-- The clause that limits the rows to a count. -/
def limitClause (count : List Char) : List Char := " LIMIT ".toList ++ count

/-- Turns the `TOP` of a query into a limit; `whole` is the query before any rule. -/
def limitTop (whole s : List Char) : List Char :=
  match topCount? whole with
  | none => stripTop s
  | some n =>
    if hasRowLimit (stripTop s) then stripTop s
    else insertBeforeTail (stripTop s) (limitClause n)

end SqlDialect.Query
