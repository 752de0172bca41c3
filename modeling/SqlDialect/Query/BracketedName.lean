import SqlDialect.Scan.Sweep

/-!
# Bracketed names

A name in square brackets is written in double quotes instead. A name with a bracket or a double
quote in it is not taken for one.
-/

namespace SqlDialect.Query

open Scan

/-- Reads a name in square brackets. -/
def bracketedName : Scanner (List Char) := fun _ s => do
  let s ← symbol? '[' s
  enclosed1? ['[', ']', '"'] ']' s

/-- Writes bracketed names in double quotes. -/
def quoteBracketedNames (s : List Char) : List Char :=
  replaceAll bracketedName (fun name => '"' :: name ++ ['"']) s

end SqlDialect.Query
