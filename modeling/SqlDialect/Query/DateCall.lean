import SqlDialect.Scan.Sweep

/-!
# Date functions

* `DATENAME(MONTH, d)` becomes `TO_CHAR(d, 'Month')`;
* `MONTH(d)` becomes `EXTRACT(MONTH FROM d)`;
* `CONVERT(VARCHAR(10), d)` becomes `TO_CHAR(d, 'YYYY-MM-DD')`.

An argument ends at the first closing parenthesis, so the calls inside an argument are only seen
once the call around them is written anew. The three are therefore applied in turn until nothing
changes. Each change removes one of the call heads that `callHead` reads, so their number bounds
the number of turns.
-/

namespace SqlDialect.Query

open Scan

/-- Reads `DATENAME(MONTH, d)` as its argument. -/
def monthNameCall : Scanner (List Char) := fun before s => do
  guard (Text.atWordStart before)
  let s ← keyword? "datename".toList s
  let s ← symbol? '(' (Text.skipBlanks s)
  let s ← keyword? "month".toList (Text.skipBlanks s)
  let s ← symbol? ',' (Text.skipBlanks s)
  let (raw, s) ← enclosed? [')'] ')' s
  let arg ← bareArgument? raw
  return (arg, s)

/-- Reads `MONTH(d)` as its argument, blanks included. -/
def monthCall : Scanner (List Char) := fun before s => do
  guard (Text.atWordStart before)
  let s ← keyword? "month".toList s
  let s ← symbol? '(' (Text.skipBlanks s)
  enclosed1? [')'] ')' s

/-- Reads `CONVERT(VARCHAR(10), d)` as its argument. -/
def dateTextCall : Scanner (List Char) := fun before s => do
  guard (Text.atWordStart before)
  let s ← keyword? "convert".toList s
  let s ← symbol? '(' (Text.skipBlanks s)
  let s ← keyword? "varchar".toList (Text.skipBlanks s)
  let s ← symbol? '(' (Text.skipBlanks s)
  let s ← symbol? '1' (Text.skipBlanks s)
  let s ← symbol? '0' s
  let s ← symbol? ')' (Text.skipBlanks s)
  let s ← symbol? ',' (Text.skipBlanks s)
  let (raw, s) ← enclosed? [',', ')'] ')' s
  let arg ← bareArgument? raw
  return (arg, s)

/-- Writes the name of the month of a date. -/
def monthNameText (arg : List Char) : List Char :=
  "TO_CHAR(".toList ++ arg ++ ", 'Month')".toList

/-- Writes the month of a date. -/
def monthText (arg : List Char) : List Char :=
  "EXTRACT(MONTH FROM ".toList ++ arg ++ ")".toList

/-- Writes a date as text. -/
def dateText (arg : List Char) : List Char :=
  "TO_CHAR(".toList ++ arg ++ ", 'YYYY-MM-DD')".toList

/-- One turn: names of months, then months, then dates as text. -/
def datePass (s : List Char) : List Char :=
  replaceAll dateTextCall dateText
    (replaceAll monthCall monthText (replaceAll monthNameCall monthNameText s))

/-- Reads the head of a date call: one of the three names and its opening parenthesis. -/
def callHead : Scanner Unit := fun before s => do
  guard (Text.atWordStart before)
  let s ← oneOf? (keyword? "datename".toList)
    (oneOf? (keyword? "month".toList) (keyword? "convert".toList)) s
  let s ← symbol? '(' (Text.skipBlanks s)
  return ((), s)

/-- The number of heads of date calls. -/
def callHeads (s : List Char) : Nat := count callHead s

/-- Writes all date calls anew. -/
def renameDateCalls (s : List Char) : List Char := settle datePass (callHeads s) s

end SqlDialect.Query
