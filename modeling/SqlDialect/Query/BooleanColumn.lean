import SqlDialect.Scan.Sweep

/-!
# Boolean columns

A quoted column whose name holds one of a list of fragments, in any letter case, is taken for a
boolean. Compared with `1` or `0` it is compared with `true` or `false` instead, provided that the
number ends there: a blank, `)`, `,`, `;` or the end of the text follows.

* `BooleanColumns` is an accepted list of fragments, `BooleanColumns.ofList` accepts or refuses one,
  on the word of a search engine;
* `columnEnds` are the places where a column that starts here can end, the preferred one first;
* `flagComparison` reads a column, `=`, a digit and what ends it;
* `spellBooleans` writes the comparisons anew.
-/

namespace SqlDialect.Query

open Scan

/-- The fragments of names that mark boolean columns. None of them is empty. -/
structure BooleanColumns where
  fragments : List (List Char)
  ne_nil : ∀ f ∈ fragments, f ≠ []

/-- Why a list of fragments is refused. -/
inductive ColumnsError where
  /-- A fragment is empty or all blank. -/
  | emptyFragment
  /-- The fragments cannot be searched for, for the reason that the search engine gives. -/
  | unsearchable (reason : String)
  deriving DecidableEq, Repr

namespace BooleanColumns

/-- What a search engine has against a list of fragments, if anything. -/
abbrev Objection := List (List Char) → Option String

/-- Accepts a list of fragments, each without the blanks around it, unless the search engine objects
to it. The engine is not asked about the empty list. -/
def ofList (objection : Objection) (columns : List String) : Except ColumnsError BooleanColumns :=
  let fragments := columns.map fun c => Text.trim c.toList
  if h : ∀ f ∈ fragments, f ≠ [] then
    match if fragments.isEmpty then none else objection fragments with
    | some reason => .error (.unsearchable reason)
    | none => .ok ⟨fragments, h⟩
  else .error .emptyFragment

/-- The fragments used when none are given. -/
def defaultNames : List String :=
  ["is_breached", "active", "enabled", "disabled", "deleted", "archived", "published", "verified",
    "approved"]

/-- The columns marked by `defaultNames`. -/
def standard : BooleanColumns where
  fragments := defaultNames.map String.toList
  ne_nil := by decide

instance : Inhabited BooleanColumns := ⟨standard⟩

end BooleanColumns

/-- The rest after the next double quote. -/
def closeName? (s : List Char) : Option (List Char) := symbol? '"' (s.dropWhile (· != '"'))

/-- The ends of a name that has a fragment right here. -/
def fragmentEnds (columns : BooleanColumns) (s : List Char) : List (List Char) :=
  columns.fragments.filterMap fun f => (Text.dropFolded? f s).bind closeName?

/-- The places of a name where a fragment can start, from the text after its opening quote: all up
to the next quote. -/
def namePlaces : List Char → List (List Char)
  | [] => [[]]
  | c :: s => (c :: s) :: if c = '"' then [] else namePlaces s

/-- The ends of a name that has a fragment, from the text after its opening quote. A fragment
further on is preferred, and of two in one place the first in the list. -/
def nameEnds (columns : BooleanColumns) (s : List Char) : List (List Char) :=
  (namePlaces s).reverse.flatMap (fragmentEnds columns)

/-- The text after `table"."`, from the text after the opening quote. -/
def afterQualifier? (s : List Char) : Option (List Char) := do
  let (_, s) ← enclosed1? ['"'] '"' s
  let s ← symbol? '.' s
  symbol? '"' s

/-- The ends of a boolean column that starts here; with a table in front is preferred. -/
def columnEnds (columns : BooleanColumns) (s : List Char) : List (List Char) :=
  match symbol? '"' s with
  | none => []
  | some s => ((afterQualifier? s).elim [] (nameEnds columns)) ++ nameEnds columns s

/-- Reads `=` and the digit. Gives the character that ends the number, none at the end of the text,
and the rest after it. -/
def comparedWith? (digit : Char) (s : List Char) : Option (List Char × List Char) := do
  let s ← symbol? '=' (Text.skipBlanks s)
  let s ← symbol? digit (Text.skipBlanks s)
  match s with
  | [] => some ([], [])
  | c :: s => if Text.isBlank c || [')', ',', ';'].contains c then some ([c], s) else none

/-- A comparison of a boolean column: the column as written and what ends the number. -/
structure FlagComparison where
  column : List Char
  stop : List Char
  deriving DecidableEq, Repr

/-- Reads a boolean column compared with a digit. -/
def flagComparison (columns : BooleanColumns) (digit : Char) : Scanner FlagComparison :=
  fun _ s => (columnEnds columns s).findSome? fun rest => do
    let (stop, after) ← comparedWith? digit rest
    return (⟨s.take (s.length - rest.length), stop⟩, after)

/-- Writes a comparison with a truth value. -/
def FlagComparison.comparedTo (value : List Char) (f : FlagComparison) : List Char :=
  f.column ++ " = ".toList ++ value ++ f.stop

/-- Compares boolean columns with `true` and `false`. -/
def spellBooleans (columns : BooleanColumns) (s : List Char) : List Char :=
  replaceAll (flagComparison columns '0') (FlagComparison.comparedTo "false".toList)
    (replaceAll (flagComparison columns '1') (FlagComparison.comparedTo "true".toList) s)

end SqlDialect.Query
