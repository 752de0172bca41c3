import SqlDialect.Pipeline
import SqlDialect.Text.Quoted

/-!
# Log events

* `Level` says how much is logged; `Level.parse?` reads one;
* `Event` is what the program has to report; `Event.line` writes it.
-/

namespace SqlDialect.Log

/-- How much is logged: nothing, or everything up to a kind of event. -/
inductive Level where
  | off
  | error
  | warn
  | info
  | debug
  | trace
  deriving DecidableEq, Repr

namespace Level

/-- The rank of a level. -/
def rank : Level → Nat
  | off => 0
  | error => 1
  | warn => 2
  | info => 3
  | debug => 4
  | trace => 5

/-- The name of a level in log lines. -/
def name : Level → String
  | off => "OFF"
  | error => "ERROR"
  | warn => "WARN"
  | info => "INFO"
  | debug => "DEBUG"
  | trace => "TRACE"

/-- The levels by rank. -/
def all : List Level := [off, error, warn, info, debug, trace]

/-- The whole number that a text writes in digits, perhaps after a plus sign. -/
def rankOf? (s : List Char) : Option Nat :=
  let ds := match s with
    | '+' :: ds => ds
    | ds => ds
  if ds.isEmpty || !ds.all Char.isDigit then none
  else some (ds.foldl (fun n d => 10 * n + (d.toNat - '0'.toNat)) 0)

/-- Reads a level: by its rank, by its name in any letter case, or nothing at all for errors. -/
def parse? (s : List Char) : Option Level :=
  if s.isEmpty then some error
  else
    match (rankOf? s).bind fun n => all.find? fun l => l.rank == n with
    | some l => some l
    | none => all.find? fun l => l.name.toList == s.map Char.toUpper

end Level

/-- Something to report. -/
structure Event where
  level : Level
  target : String
  message : String
  fields : List (String × String)
  deriving DecidableEq, Repr

namespace Event

/-- The line of an event. -/
def line (e : Event) : String :=
  e.level.name ++ " " ++ e.target ++ ": " ++ e.message ++
    String.join (e.fields.map fun (k, v) => s!" {k}={v}")

/-- A configuration was read from a file. -/
def configLoaded (path : String) : Event where
  level := .debug
  target := "sqlshift::config"
  message := "loaded config"
  fields := [("path", path)]

/-- A rule changed a query. -/
def ruleFired (rule : Rule) : Event where
  level := .trace
  target := "sqlshift::rewrite::registry"
  message := "rule rewrote query"
  fields := [("rule", Text.quoted rule.id)]

/-- A pipeline was run. -/
def queryTranslated (r : Report) : Event where
  level := .debug
  target := "sqlshift::rewrite::registry"
  message := "query translated"
  fields := [("rules", toString r.rules), ("changed", toString r.changed)]

/-- The events of a run: one for each rule that changed the query, and one for the whole. -/
def ofReport (r : Report) : List Event := r.fired.map ruleFired ++ [queryTranslated r]

end Event

end SqlDialect.Log
