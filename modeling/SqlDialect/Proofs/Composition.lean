import SqlDialect.Pipeline

/-!
# One pipeline behind another

Every rule is handed the query as it was before any rule, so a pipeline is more than the chain of
its rules. Only the rule for `TOP` looks at that query, and all it takes from there is a count.

* `Pipeline.append` — the rules of one pipeline registered behind those of another.
* `limitTop_congr_whole`, `runRules_congr_whole` — what a run takes from the query before any rule
  is the count of its `TOP`, and without the rule for `TOP` it takes nothing.
* `translate_append` — a pipeline behind another one does what the two do one after the other.
-/

namespace SqlDialect

open Query

/-! ## What a rule takes from the query before any rule -/

/-- The rule for `TOP` takes the count of the first `TOP`, and nothing else. -/
theorem limitTop_congr_whole {whole whole' : List Char} (h : topCount? whole = topCount? whole')
    (s : List Char) : limitTop whole s = limitTop whole' s := by
  unfold limitTop
  rw [h]

theorem Rule.apply_congr_whole {whole whole' : List Char} (rule : Rule)
    (h : rule = .selectTop → topCount? whole = topCount? whole') (s : List Char) :
    rule.apply whole s = rule.apply whole' s := by
  cases rule with
  | selectTop => exact limitTop_congr_whole (h rfl) s
  | tableHints | bracketedNames | randomCalls | fetchClauses => rfl
  | dateCalls | scalarCalls | literalSums | booleanColumns _ => rfl

namespace Pipeline

/-- Rules leave the same text for two queries with the same count, and the same of them fire. -/
theorem runRules_congr_whole {whole whole' : List Char} {rules : List Rule}
    (h : Rule.selectTop ∈ rules → topCount? whole = topCount? whole') (s : List Char) :
    runRules whole rules s = runRules whole' rules s := by
  induction rules generalizing s with
  | nil => rfl
  | cons rule rules ih =>
    have hrule : rule.apply whole s = rule.apply whole' s :=
      rule.apply_congr_whole (fun heq => h (by simp [heq])) s
    have hrest : ∀ t, runRules whole rules t = runRules whole' rules t :=
      ih fun hmem => h (List.mem_cons_of_mem rule hmem)
    simp only [runRules, hrule, hrest]

/-! ## Pipelines in a row -/

/-- The first pipeline with the rules of the second registered behind its own, one by one. -/
def append (p r : Pipeline) : Pipeline := r.rules.foldl push p

theorem rules_append (p r : Pipeline) : (p.append r).rules = p.rules ++ r.rules := by
  have hfold : ∀ (rules : List Rule) (p : Pipeline),
      (rules.foldl push p).rules = p.rules ++ rules := by
    intro rules
    induction rules with
    | nil => simp
    | cons rule rules ih =>
      intro p
      rw [List.foldl_cons, ih]
      simp [push]
  exact hfold r.rules p

/-- Every pipeline comes about by registering its rules, so nothing is left out by `append`. -/
theorem empty_append (p : Pipeline) : empty.append p = p := by
  have hrules := rules_append empty p
  cases p with
  | mk rules => exact congrArg Pipeline.mk hrules

/-- A run of both is a run of the first and then one of the second, on what the first left. If the
rule for `TOP` is in the second, the first must have kept the count. -/
theorem run_append (p r : Pipeline) (query : List Char)
    (h : Rule.selectTop ∈ r.rules → topCount? query = topCount? (p.run query).text) :
    (p.append r).run query =
      ⟨(r.run (p.run query).text).text, (p.run query).fired ++ (r.run (p.run query).text).fired,
        (p.run query).rules + (r.run (p.run query).text).rules⟩ := by
  have hsecond := runRules_congr_whole h (p.run query).text
  unfold run at hsecond ⊢
  simp only [rules_append, runRules_append, List.length_append, hsecond]

/-- **Pipelines compose.** Behind a pipeline `p`, the rules of a pipeline `r` without the one for
`TOP` do what `r` does to the output of `p`: the names of the rules follow each other, so do the
rules that fire, and the numbers of changes add up. -/
theorem translate_append (p r : Pipeline) (hr : Rule.selectTop ∉ r.rules) (query : String) :
    (p.append r).ids = p.ids ++ r.ids ∧
      (p.append r).translate query = r.translate (p.translate query) ∧
      ((p.append r).run query.toList).fired =
        (p.run query.toList).fired ++ (r.run (p.translate query).toList).fired ∧
      ((p.append r).run query.toList).changed =
        (p.run query.toList).changed + (r.run (p.translate query).toList).changed := by
  have hids : (p.append r).ids = p.ids ++ r.ids := by
    unfold ids
    rw [rules_append, List.map_append]
  have htext : (p.translate query).toList = (p.run query.toList).text := String.toList_ofList
  have hrun := run_append p r query.toList fun hmem => absurd hmem hr
  rw [← htext] at hrun
  refine ⟨hids, ?_, ?_, ?_⟩
  · rw [translate, hrun]
    rfl
  · rw [hrun]
  · rw [hrun]
    exact List.length_append

/-- The first pipeline moves a `TOP` to the end, the second one works on the arguments of a call. -/
theorem translate_append_top_len :
    Rule.selectTop ∉ (⟨[.scalarCalls, .literalSums]⟩ : Pipeline).rules ∧
      (append ⟨[.tableHints, .selectTop]⟩ ⟨[.scalarCalls, .literalSums]⟩).translate
          "SELECT TOP 5 LEN('a' + 'b') FROM t WITH (NOLOCK)" =
        translate ⟨[.scalarCalls, .literalSums]⟩ (translate ⟨[.tableHints, .selectTop]⟩
          "SELECT TOP 5 LEN('a' + 'b') FROM t WITH (NOLOCK)") := by
  have hr : Rule.selectTop ∉ (⟨[.scalarCalls, .literalSums]⟩ : Pipeline).rules := by simp
  obtain ⟨-, htext, -⟩ := translate_append ⟨[.tableHints, .selectTop]⟩ _ hr
    "SELECT TOP 5 LEN('a' + 'b') FROM t WITH (NOLOCK)"
  exact ⟨hr, htext⟩

/-- With the rule for `TOP` in the second pipeline the count may come from another text: here a
table hint hides the `TOP` of the query. -/
example : (append ⟨[.tableHints]⟩ ⟨[.selectTop]⟩).translate "SELECT WITH (x) TOP 5 a" ≠
    translate ⟨[.selectTop]⟩ (translate ⟨[.tableHints]⟩ "SELECT WITH (x) TOP 5 a") := by
  decide

end Pipeline

end SqlDialect
