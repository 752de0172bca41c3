import SqlDialect.Query.BooleanColumn
import SqlDialect.Query.BracketedName
import SqlDialect.Query.DateCall
import SqlDialect.Query.FetchClause
import SqlDialect.Query.Literal
import SqlDialect.Query.RandomCall
import SqlDialect.Query.ScalarCall
import SqlDialect.Query.SelectTop
import SqlDialect.Query.TableHint

/-!
# Rules

A rule writes one kind of construct anew. `Rule.apply` takes the query as it was before any rule
as well, since the rule for `TOP` looks up its count there.
-/

namespace SqlDialect

open Query

/-- The rules, by the construct they write anew. -/
inductive Rule where
  | tableHints
  | bracketedNames
  | randomCalls
  | fetchClauses
  | selectTop
  | dateCalls
  | scalarCalls
  | literalSums
  | booleanColumns (columns : BooleanColumns)

namespace Rule

/-- The name of a rule in listings and logs. -/
def id : Rule → String
  | tableHints => "strip_table_hints"
  | bracketedNames => "bracket_identifiers"
  | randomCalls => "random_function"
  | fetchClauses => "offset_fetch"
  | selectTop => "top_to_limit"
  | dateCalls => "date_functions"
  | scalarCalls => "scalar_renames"
  | literalSums => "literal_concat"
  | booleanColumns _ => "boolean_literals"

/-- Applies a rule to a text; `whole` is the query before any rule. -/
def apply (whole : List Char) : Rule → List Char → List Char
  | tableHints, s => stripTableHints s
  | bracketedNames, s => quoteBracketedNames s
  | randomCalls, s => renameRandomCalls s
  | fetchClauses, s => limitFetchClauses s
  | selectTop, s => limitTop whole s
  | dateCalls, s => renameDateCalls s
  | scalarCalls, s => renameScalarCalls s
  | literalSums, s => concatLiterals s
  | booleanColumns columns, s => spellBooleans columns s

/-- No rule writes anything into the empty query. -/
theorem apply_nil (rule : Rule) : rule.apply [] [] = [] := by
  cases rule <;> rfl

/-- The rule with a given name. A rule for boolean columns takes its columns from the list given,
or the standard ones. -/
def ofId? (objection : BooleanColumns.Objection) (id : String) (columns : Option (List String)) :
    Option (Except ColumnsError Rule) :=
  match id with
  | "strip_table_hints" => some (.ok tableHints)
  | "bracket_identifiers" => some (.ok bracketedNames)
  | "random_function" => some (.ok randomCalls)
  | "offset_fetch" => some (.ok fetchClauses)
  | "top_to_limit" => some (.ok selectTop)
  | "date_functions" => some (.ok dateCalls)
  | "scalar_renames" => some (.ok scalarCalls)
  | "literal_concat" => some (.ok literalSums)
  | "boolean_literals" =>
    match columns with
    | none => some (.ok (booleanColumns .standard))
    | some list => some ((BooleanColumns.ofList objection list).map booleanColumns)
  | _ => none

end Rule

end SqlDialect
