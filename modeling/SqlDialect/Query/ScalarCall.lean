import SqlDialect.Scan.Sweep

/-!
# Renamed functions

`LEN(` becomes `LENGTH(` and `ISNULL(` becomes `COALESCE(`; the arguments stay.
-/

namespace SqlDialect.Query

open Scan

/-- Reads the name of a function and its opening parenthesis. -/
def openCall (name : List Char) : Scanner Unit := fun before s => do
  guard (Text.atWordStart before)
  let s ← keyword? name s
  let s ← symbol? '(' (Text.skipBlanks s)
  return ((), s)

/-- Reads `LEN(`. -/
def lenCall : Scanner Unit := openCall "len".toList

/-- Reads `ISNULL(`. -/
def isnullCall : Scanner Unit := openCall "isnull".toList

/-- Gives the functions their other names. -/
def renameScalarCalls (s : List Char) : List Char :=
  replaceAll isnullCall (fun _ => "COALESCE(".toList)
    (replaceAll lenCall (fun _ => "LENGTH(".toList) s)

end SqlDialect.Query
