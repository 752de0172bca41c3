import SqlDialect.Config
import SqlDialect.Error

/-!
# Translating queries

A query is put through a pipeline; the empty query is left alone and nothing is reported for it.
-/

namespace SqlDialect

/-- A pipeline that queries are put through. -/
structure Translator where
  pipeline : Pipeline := default

namespace Translator

/-- The translator that a configuration asks for. -/
def ofConfig (objection : Query.BooleanColumns.Objection) (c : Config) :
    Except Error Translator :=
  match c.pipeline objection with
  | .ok pipeline => .ok { pipeline }
  | .error e => .error (.columns e)

/-- What was done to a query; nothing for the empty one. -/
def report? (t : Translator) (query : String) : Option Report :=
  if query.isEmpty then none else some (t.pipeline.run query.toList)

/-- The translated query. -/
def translate (t : Translator) (query : String) : String :=
  match t.report? query with
  | none => ""
  | some r => String.ofList r.text

/-- A translated query is what the pipeline leaves, since it leaves the empty query empty. -/
theorem translate_eq (t : Translator) (query : String) :
    t.translate query = t.pipeline.translate query := by
  unfold translate report?
  split
  · rename_i h
    split at h
    · rename_i hempty
      have hq : query = "" := by simpa using hempty
      rw [hq, Pipeline.translate, Pipeline.run_text]
      exact (congrArg String.ofList (Pipeline.runRules_nil _)).symm
    · cases h
  · rename_i r h
    split at h
    · cases h
    · cases h
      rfl

end Translator

/-- Translates a query with the standard rules. -/
def translate (query : String) : String := ({} : Translator).translate query

end SqlDialect
