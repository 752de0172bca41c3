import SqlDialect.Dialect
import SqlDialect.Mismatch
import SqlDialect.Pipeline
import SqlDialect.Toml.Parser

/-!
# Configuration

A configuration names a default dialect and says whether, and for which columns, booleans are
spelled out. It is read from a TOML document, whose keys override the defaults one by one.

* `Config.decode` reads the parsed document; of several faults the first in the document counts;
* `Config.parse` reads the text;
* `Config.pipeline` is the pipeline that a configuration asks for.
-/

namespace SqlDialect

/-- Whether booleans are spelled out, and the fragments of names that mark boolean columns. -/
structure BooleanSettings where
  enabled : Bool := true
  columns : List String := Query.BooleanColumns.defaultNames
  deriving DecidableEq, Repr

/-- The default dialect, as it was spelled, and the settings for booleans. -/
structure Config where
  dialect : Option String := none
  booleans : BooleanSettings := {}
  deriving DecidableEq, Repr

/-- Why a text is no configuration. -/
inductive ConfigError where
  /-- The text is no TOML document. -/
  | malformed
  /-- A key that has no meaning here, and those that have one. -/
  | unknownKey (key : String) (expected : List String)
  /-- A value of the wrong kind, and what was expected. -/
  | wrongKind (found : Found) (expected : String)
  deriving DecidableEq, Repr

/-- What a TOML value is, for messages. A date-time counts as a table. -/
def Toml.Value.found : Toml.Value → Found
  | string s => .string s
  | integer n => .integer n
  | float x => .float x
  | boolean b => .boolean b
  | dateTime _ => .map
  | array _ => .sequence
  | table _ => .map

namespace ConfigError

/-- Floats in messages are always written without a power of ten. -/
def numberStyle : NumberStyle := ⟨true, fun _ => true, false⟩

/-- The wording of an error. -/
def message : ConfigError → String
  | malformed => "the text is not a TOML document"
  | unknownKey key expected => s!"unknown field `{key}`, expected " ++ choiceText expected
  | wrongKind found expected =>
    "invalid type: " ++ found.describe numberStyle ++ ", expected " ++ expected

end ConfigError

namespace Config

open Toml (Value)

/-- Reads a string. -/
def decodeString : Value → Except ConfigError String
  | .string s => .ok s
  | v => .error (.wrongKind v.found "a string")

/-- Reads a truth value. -/
def decodeBool : Value → Except ConfigError Bool
  | .boolean b => .ok b
  | v => .error (.wrongKind v.found "a boolean")

/-- Reads a list of strings. -/
def decodeStrings : Value → Except ConfigError (List String)
  | .array items => items.mapM decodeString
  | v => .error (.wrongKind v.found "a sequence")

/-- The only key of a date-time that is read as a table. -/
def dateTimeKey : String := "$__toml_private_datetime"

/-- Reads one setting for booleans. -/
def decodeBooleanEntry (b : BooleanSettings) (key : String) (v : Value) :
    Except ConfigError BooleanSettings :=
  match key with
  | "enabled" => do return { b with enabled := ← decodeBool v }
  | "columns" => do return { b with columns := ← decodeStrings v }
  | key => .error (.unknownKey key ["enabled", "columns"])

/-- Reads the settings for booleans: a table, or an array with the settings in their order. What is
missing keeps its default, and items beyond the settings are ignored. -/
def decodeBooleans : Value → Except ConfigError BooleanSettings
  | .table entries => entries.foldlM (fun b (key, v) => decodeBooleanEntry b key v) {}
  | .array [] => .ok {}
  | .array [enabled] => do return { enabled := ← decodeBool enabled }
  | .array (enabled :: columns :: _) => do
    let enabled ← decodeBool enabled
    let columns ← decodeStrings columns
    return { enabled, columns }
  | .dateTime _ => .error (.unknownKey dateTimeKey ["enabled", "columns"])
  | v => .error (.wrongKind v.found "struct BooleanConfig")

/-- Reads one setting. -/
def decodeEntry (c : Config) (key : String) (v : Value) : Except ConfigError Config :=
  match key with
  | "dialect" => do return { c with dialect := some (← decodeString v) }
  | "booleans" => do return { c with booleans := ← decodeBooleans v }
  | key => .error (.unknownKey key ["dialect", "booleans"])

/-- Reads a parsed document. -/
def decode (entries : List (String × Value)) : Except ConfigError Config :=
  entries.foldlM (fun c (key, v) => decodeEntry c key v) {}

/-- Reads the text of a document. -/
def parse (text : String) : Except ConfigError Config :=
  match Toml.parse? text with
  | none => .error .malformed
  | some entries => decode entries

/-- The default dialect. -/
def defaultDialect (c : Config) : Dialect := Dialect.resolve c.dialect

/-- The boolean columns in force: none if booleans are not spelled out. -/
def booleanColumns (objection : Query.BooleanColumns.Objection) (c : Config) :
    Except Query.ColumnsError (Option Query.BooleanColumns) :=
  if c.booleans.enabled then (Query.BooleanColumns.ofList objection c.booleans.columns).map some
  else .ok none

/-- The pipeline that a configuration asks for. -/
def pipeline (objection : Query.BooleanColumns.Objection) (c : Config) :
    Except Query.ColumnsError Pipeline :=
  (c.booleanColumns objection).map Pipeline.standard

end Config

end SqlDialect
