import SqlDialect.Decimal.Shortest

/-!
# JSON values

`Json.lookup?` finds a member of an object, `Json.insert` keeps one member for each name: the
last one written, in the place of the first.
-/

namespace SqlDialect

/-- A JSON value. Whole numbers are kept apart from the others. -/
inductive Json where
  | null
  | bool (b : Bool)
  | integer (n : Int)
  | float (x : Binary64)
  | string (s : String)
  | array (items : List Json)
  | object (members : List (String × Json))

namespace Json

/-- Sets a member of an object. -/
def insert (name : String) (value : Json) : List (String × Json) → List (String × Json)
  | [] => [(name, value)]
  | (n, v) :: members =>
    if n = name then (n, value) :: members else (n, v) :: insert name value members

/-- The member of an object with a given name. -/
def lookup? (name : String) : Json → Option Json
  | object members => members.lookup name
  | _ => none

end Json

end SqlDialect
