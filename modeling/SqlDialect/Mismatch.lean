import SqlDialect.Decimal.Shortest
import SqlDialect.Text.Quoted

/-!
# Values of the wrong kind

How a message describes the value found where another one was expected, and how it lists the names
that were expected.
-/

namespace SqlDialect

/-- The kind of a value, with the value itself where a message shows it. -/
inductive Found where
  | null
  | boolean (b : Bool)
  | integer (n : Int)
  | float (x : Binary64)
  | string (s : String)
  | sequence
  | map
  deriving DecidableEq, Repr

/-- A value as a message shows it. -/
def Found.describe (style : NumberStyle) : Found → String
  | null => "null"
  | boolean true => "boolean `true`"
  | boolean false => "boolean `false`"
  | integer n => s!"integer `{n}`"
  | float x => "floating point `" ++ x.render style ++ "`"
  | string s => "string " ++ Text.quoted s
  | sequence => "sequence"
  | map => "map"

/-- A name between marks. -/
def marked (name : String) : String := s!"`{name}`"

/-- A choice of names: two are joined by `or`, more are listed. -/
def choiceText : List String → String
  | [] => "nothing"
  | [a] => marked a
  | [a, b] => marked a ++ " or " ++ marked b
  | names => "one of " ++ ", ".intercalate (names.map marked)

end SqlDialect
