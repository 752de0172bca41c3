import SqlDialect.Scan.Sweep

/-!
# Paging by fetch

`OFFSET m ROWS FETCH NEXT n ROWS ONLY`, with the blanks before it, becomes ` OFFSET m LIMIT n`.
`ROW` may stand for `ROWS` and `FIRST` for `NEXT`.
-/

namespace SqlDialect.Query

open Scan

/-- The rows to skip and the rows to fetch, as they are written. -/
structure FetchClause where
  offset : List Char
  rows : List Char
  deriving DecidableEq, Repr

/-- The rest after `ROW` or `ROWS`. -/
def rowsWord? (s : List Char) : Option (List Char) :=
  (keyword? "row".toList s).map (opt? (keyword? "s".toList))

/-- Reads blanks and a fetch clause. -/
def fetchClause : Scanner FetchClause := fun _ s => do
  let s ← Text.skipBlanks1? s
  let s ← keyword? "offset".toList s
  let s ← Text.skipBlanks1? s
  let (offset, s) ← digits? s
  let s ← Text.skipBlanks1? s
  let s ← rowsWord? s
  let s ← Text.skipBlanks1? s
  let s ← keyword? "fetch".toList s
  let s ← Text.skipBlanks1? s
  let s ← oneOf? (keyword? "next".toList) (keyword? "first".toList) s
  let s ← Text.skipBlanks1? s
  let (rows, s) ← digits? s
  let s ← Text.skipBlanks1? s
  let s ← rowsWord? s
  let s ← Text.skipBlanks1? s
  let s ← keyword? "only".toList s
  return (⟨offset, rows⟩, s)

/-- The same page by offset and limit. -/
def FetchClause.asLimit (f : FetchClause) : List Char :=
  " OFFSET ".toList ++ f.offset ++ " LIMIT ".toList ++ f.rows

/-- Writes fetch clauses by offset and limit. -/
def limitFetchClauses (s : List Char) : List Char := replaceAll fetchClause FetchClause.asLimit s

end SqlDialect.Query
