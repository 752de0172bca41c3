import SqlDialect.Text.Blank
import SqlDialect.Text.Lowercase

/-!
# Dialects

The four dialects, their names, and the spellings under which they are recognised. Blanks, `-`,
`_` and `.` in a spelling do not count, and neither does letter case.

* `Dialect.lookup?` recognises a spelling; `Dialect.resolve` falls back to the default;
  `Dialect.parse` refuses what it does not recognise;
* `Dialect.limitStyle`, `Dialect.randomFunction` say how a dialect writes row limits and random
  values.
-/

namespace SqlDialect

/-- A dialect of SQL. -/
inductive Dialect where
  | sqlServer
  | postgres
  | mysql
  | sqlite
  deriving DecidableEq, Repr

/-- A spelling that names no dialect. -/
structure UnknownDialect where
  name : String
  deriving DecidableEq, Repr

namespace Dialect

instance : Inhabited Dialect := ⟨sqlServer⟩

/-- All dialects. -/
def all : List Dialect := [sqlServer, postgres, mysql, sqlite]

/-- The name of a dialect. -/
def name : Dialect → String
  | sqlServer => "sqlserver"
  | postgres => "postgres"
  | mysql => "mysql"
  | sqlite => "sqlite"

/-- The spellings of a dialect. -/
def aliases : Dialect → List String
  | sqlServer => ["sqlserver", "mssql", "tsql"]
  | postgres => ["postgres", "postgresql", "pg", "pgsql"]
  | mysql => ["mysql", "mariadb"]
  | sqlite => ["sqlite", "sqlite3"]

/-- Blanks and punctuation do not count in a spelling. -/
def counts (c : Char) : Bool := !(Text.isBlank c || ['-', '_', '.'].contains c)

/-- A spelling in lower case, with only the characters that count. -/
def normalize (spelling : String) : String :=
  String.ofList ((spelling.toList.filter counts).flatMap Text.lowercase)

/-- The dialect with a given spelling. -/
def lookup? (spelling : String) : Option Dialect :=
  all.find? fun d => d.aliases.contains (normalize spelling)

/-- The dialect with a given spelling, or the default dialect. -/
def resolve (spelling : Option String) : Dialect := (spelling.bind lookup?).getD sqlServer

/-- The dialect with a given spelling; an unknown one is an error. -/
def parse (spelling : String) : Except UnknownDialect Dialect :=
  match lookup? spelling with
  | some d => .ok d
  | none => .error ⟨spelling⟩

/-- The dialect with exactly this name. -/
def ofName? (s : String) : Option Dialect := all.find? fun d => d.name == s

/-- The dialect limits rows by `LIMIT` at the end of a query. -/
def limitStyle : Dialect → Bool
  | sqlServer => false
  | _ => true

/-- The call that gives a random value. -/
def randomFunction : Dialect → String
  | sqlServer => "NEWID()"
  | postgres => "RANDOM()"
  | mysql => "RAND()"
  | sqlite => "RANDOM()"

end Dialect

end SqlDialect
