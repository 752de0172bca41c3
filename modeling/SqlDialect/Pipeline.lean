import SqlDialect.Rule

/-!
# Pipelines of rules

A pipeline applies its rules in order, each to what the one before it left. `Pipeline.run` also
reports which rules changed the text.

* `Pipeline.standard` has the standard rules in their order, with or without the rule for boolean
  columns at the end;
* `Pipeline.translate` is the text that a run leaves.
-/

namespace SqlDialect

/-- Rules in the order in which they apply. -/
structure Pipeline where
  rules : List Rule

/-- What a run did: the text it left, the rules that changed the text, in order, and the number of
rules applied. -/
structure Report where
  text : List Char
  fired : List Rule
  rules : Nat

namespace Pipeline

/-- No rules. -/
def empty : Pipeline := ⟨[]⟩

/-- The standard rules. The rule for boolean columns is left out if there are none; it comes last,
since it looks for names that are already in double quotes. -/
def standard (booleans : Option Query.BooleanColumns) : Pipeline where
  rules :=
    [.tableHints, .bracketedNames, .randomCalls, .fetchClauses, .selectTop, .dateCalls,
      .scalarCalls, .literalSums] ++ (booleans.map Rule.booleanColumns).toList

instance : Inhabited Pipeline := ⟨standard (some .standard)⟩

/-- The pipeline with one more rule at its end. -/
def push (p : Pipeline) (rule : Rule) : Pipeline := ⟨p.rules ++ [rule]⟩

/-- The names of the rules, in order. -/
def ids (p : Pipeline) : List String := p.rules.map Rule.id

/-- Applies rules in order to a text; gives the text left and the rules that changed it. -/
def runRules (whole : List Char) : List Rule → List Char → List Char × List Rule
  | [], s => (s, [])
  | rule :: rules, s =>
    let next := rule.apply whole s
    let (text, fired) := runRules whole rules next
    if next = s then (text, fired) else (text, rule :: fired)

/-- Rules in two groups are applied one group after the other. -/
theorem runRules_append (whole : List Char) (p r : List Rule) (s : List Char) :
    runRules whole (p ++ r) s =
      ((runRules whole r (runRules whole p s).1).1,
        (runRules whole p s).2 ++ (runRules whole r (runRules whole p s).1).2) := by
  induction p generalizing s with
  | nil => rfl
  | cons rule p ih =>
    simp only [List.cons_append, runRules, ih]
    split <;> rfl

/-- The first rule is applied to the text, the others to what it leaves. -/
theorem runRules_cons_fst (whole : List Char) (rule : Rule) (rules : List Rule) (s : List Char) :
    (runRules whole (rule :: rules) s).1 = (runRules whole rules (rule.apply whole s)).1 := by
  simp only [runRules]
  split <;> rfl

/-- The first rule fires if it changes the text. -/
theorem runRules_cons_snd (whole : List Char) (rule : Rule) (rules : List Rule) (s : List Char) :
    (runRules whole (rule :: rules) s).2 =
      if rule.apply whole s = s then (runRules whole rules (rule.apply whole s)).2
      else rule :: (runRules whole rules (rule.apply whole s)).2 := by
  simp only [runRules]
  split <;> rfl

/-- What each of the rules keeps, a run of them keeps. -/
theorem runRules_induction {whole : List Char} {rules : List Rule} {P : List Char → Prop}
    (step : ∀ rule ∈ rules, ∀ s, P s → P (rule.apply whole s)) {s : List Char} (h : P s) :
    P (runRules whole rules s).1 := by
  induction rules generalizing s with
  | nil => exact h
  | cons rule rules ih =>
    rw [runRules_cons_fst]
    exact ih (fun r hr => step r (by simp [hr])) (step rule (by simp) s h)

/-- The empty query stays empty. -/
theorem runRules_nil (rules : List Rule) : (runRules [] rules []).1 = [] :=
  runRules_induction (P := fun t => t = []) (fun rule _ s hs => by rw [hs, rule.apply_nil]) rfl

/-- Applies all rules to a query. -/
def run (p : Pipeline) (query : List Char) : Report :=
  let (text, fired) := runRules query p.rules query
  ⟨text, fired, p.rules.length⟩

theorem run_text (p : Pipeline) (query : List Char) :
    (p.run query).text = (runRules query p.rules query).1 := rfl

theorem run_fired (p : Pipeline) (query : List Char) :
    (p.run query).fired = (runRules query p.rules query).2 := rfl

/-- The query as all rules leave it. -/
def translate (p : Pipeline) (query : String) : String :=
  String.ofList (p.run query.toList).text

theorem toList_translate (p : Pipeline) (query : String) :
    (p.translate query).toList = (runRules query.toList p.rules query.toList).1 := by
  rw [translate, String.toList_ofList, run_text]

end Pipeline

/-- The number of rules that changed the text. -/
def Report.changed (r : Report) : Nat := r.fired.length

end SqlDialect
