import SqlDialect.Scan.Sweep

/-!
# Random order

`NEWID()`, with blanks in any place, becomes `RANDOM()`.
-/

namespace SqlDialect.Query

open Scan

/-- Reads a call of `NEWID` without arguments. -/
def newidCall : Scanner Unit := fun before s => do
  guard (Text.atWordStart before)
  let s ← keyword? "newid".toList s
  let s ← symbol? '(' (Text.skipBlanks s)
  let s ← symbol? ')' (Text.skipBlanks s)
  return ((), s)

/-- Writes `RANDOM()` for every `NEWID()`. -/
def renameRandomCalls (s : List Char) : List Char :=
  replaceAll newidCall (fun _ => "RANDOM()".toList) s

end SqlDialect.Query
