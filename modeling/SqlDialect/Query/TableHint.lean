import SqlDialect.Scan.Sweep

/-!
# Table hints

`WITH (…)` after a table, with the blanks before it. A hint list ends at the first closing
parenthesis and is not empty.
-/

namespace SqlDialect.Query

open Scan

/-- Reads blanks, `WITH` and a list in parentheses. -/
def tableHint : Scanner Unit := fun _ s => do
  let s ← Text.skipBlanks1? s
  let s ← keyword? "with".toList s
  let s ← symbol? '(' (Text.skipBlanks s)
  let (_, s) ← enclosed1? [')'] ')' s
  return ((), s)

/-- Leaves out all table hints. -/
def stripTableHints (s : List Char) : List Char := replaceAll tableHint (fun _ => []) s

end SqlDialect.Query
