import SqlDialect.Dialect
import SqlDialect.Json.Printer
import SqlDialect.Mismatch

/-!
# Dialects in JSON

A dialect is written as its name. It is read from its exact name, or from an object whose only
member has that name and is null.
-/

namespace SqlDialect

/-- What a JSON value is, for messages. -/
def Json.found : Json → Found
  | null => .null
  | bool b => .boolean b
  | integer n => .integer n
  | float x => .float x
  | string s => .string s
  | array _ => .sequence
  | object _ => .map

namespace Dialect

/-- Why a JSON value is not a dialect. -/
inductive JsonError where
  /-- A name that no dialect has. -/
  | unknownName (name : String)
  /-- Neither a string nor an object. -/
  | wrongKind (found : Found)
  /-- An object that has not exactly one member. -/
  | notSingle
  /-- The member of the object is not null. -/
  | notNull (found : Found)
  deriving DecidableEq, Repr

/-- The wording of an error. -/
def JsonError.message : JsonError → String
  | unknownName name =>
    s!"unknown variant `{name}`, expected " ++ choiceText (Dialect.all.map Dialect.name)
  | wrongKind found =>
    "invalid type: " ++ found.describe Json.numberStyle ++ ", expected string or map"
  | notSingle => "invalid value: map, expected map with a single key"
  | notNull found => "invalid type: " ++ found.describe Json.numberStyle ++ ", expected unit"

/-- The dialect with exactly this name. -/
def ofJsonName (name : String) : Except JsonError Dialect :=
  match ofName? name with
  | some d => .ok d
  | none => .error (.unknownName name)

/-- Writes a dialect. -/
def toJson (d : Dialect) : Json := .string d.name

/-- Reads a dialect. -/
def ofJson : Json → Except JsonError Dialect
  | .string name => ofJsonName name
  | .object [(name, value)] => do
    let d ← ofJsonName name
    match value with
    | .null => return d
    | v => .error (.notNull v.found)
  | .object _ => .error .notSingle
  | v => .error (.wrongKind v.found)

end Dialect

end SqlDialect
