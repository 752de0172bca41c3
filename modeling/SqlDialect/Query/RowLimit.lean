import SqlDialect.Scan.Sweep

/-!
# Row limits

A query limits its rows when the keyword `OFFSET` or `LIMIT` stands in it as a word of its own,
wherever that is.
-/

namespace SqlDialect.Query

open Scan

/-- Reads `OFFSET` or `LIMIT` as a whole word. -/
def rowLimit : Scanner Unit := fun before s => do
  guard (Text.atWordStart before)
  let s ← oneOf? (keyword? "offset".toList) (keyword? "limit".toList) s
  guard (Text.atWordEnd s)
  return ((), s)

/-- The number of row limit keywords. -/
def rowLimits (s : List Char) : Nat := count rowLimit s

/-- The query has a row limit keyword. -/
def hasRowLimit (s : List Char) : Bool := occurs rowLimit s

end SqlDialect.Query
