import SqlDialect.Log.Event
import SqlDialect.Proofs.CaseBlind
import SqlDialect.Proofs.Changes

/-!
# Letter case under translation

Two queries that differ in the case of ASCII letters only are translated alike, up to letter case
again, and the same rules change them.

* `Respects` — a function on texts that keeps texts alike which are alike up to letter case.
* `lower_apply`, `apply_eq_self_congr` — every rule is such a function, and it changes both texts or
  neither.
* `translate_letterCase` — so is every pipeline, and it reports the same.
-/

namespace SqlDialect

open Query Scan Text

/-! ## Functions on texts -/

/-- Texts that are alike up to letter case are taken to such texts. -/
def Respects (f : List Char → List Char) : Prop :=
  ∀ s t, lower s = lower t → lower (f s) = lower (f t)

variable {f g : List Char → List Char} {s t whole whole' : List Char}

theorem Respects.comp (hf : Respects f) (hg : Respects g) : Respects fun s => g (f s) :=
  fun s t h => hg (f s) (f t) (hf s t h)

/-- The same number of turns is taken on both texts. -/
theorem Respects.settle (hf : Respects f) (n : Nat) : Respects (Scan.settle f n) := by
  induction n with
  | zero => exact fun _ _ h => h
  | succ n ih =>
    intro s t h
    rw [settle_succ, settle_succ]
    exact ih (f s) (f t) (hf s t h)

theorem respects_replaceAll {α : Type} {scan : Scanner α} {low : α → α} (h : CaseBlind scan low)
    {write : α → List Char} (hwrite : ∀ a, lower (write (low a)) = lower (write a)) :
    Respects (replaceAll scan write) := by
  intro s t heq
  rw [← lower_replaceAll_lower h hwrite s, heq, lower_replaceAll_lower h hwrite t]

/-- A construct can be read in both texts or in neither. -/
theorem readable_congr {α : Type} {scan : Scanner α} {low : α → α}
    {Shape : Option Char → List Char → α → List Char → Prop} (hscan : Reads scan Shape)
    (h : CaseBlind scan low) (heq : lower s = lower t) : Readable scan s ↔ Readable scan t := by
  rw [← occurs_iff_readable hscan, ← occurs_iff_readable hscan, ← occurs_lower h s, heq,
    occurs_lower h t]

/-! ## Rules -/

theorem respects_stripTop : Respects stripTop :=
  respects_replaceAll selectTop_caseBlind fun t => by
    unfold SelectTop.bare SelectTop.lower
    simp

theorem respects_datePass : Respects datePass := by
  have hname : ∀ arg, lower (monthNameText (lower arg)) = lower (monthNameText arg) := by
    intro arg
    unfold monthNameText
    simp
  have hmonth : ∀ arg, lower (monthText (lower arg)) = lower (monthText arg) := by
    intro arg
    unfold monthText
    simp
  have hdate : ∀ arg, lower (dateText (lower arg)) = lower (dateText arg) := by
    intro arg
    unfold dateText
    simp
  exact ((respects_replaceAll monthNameCall_caseBlind hname).comp
    (respects_replaceAll monthCall_caseBlind hmonth)).comp
    (respects_replaceAll dateTextCall_caseBlind hdate)

theorem respects_concatPass : Respects concatPass :=
  respects_replaceAll literalSum_caseBlind fun sum => by
    unfold concatText
    simp

theorem respects_spellBooleans (columns : BooleanColumns) : Respects (spellBooleans columns) := by
  have hwrite : ∀ value (c : FlagComparison),
      lower (c.lower.comparedTo value) = lower (c.comparedTo value) := by
    intro value c
    unfold FlagComparison.comparedTo FlagComparison.lower
    simp
  exact (respects_replaceAll (flagComparison_caseBlind columns rfl) (hwrite _)).comp
    (respects_replaceAll (flagComparison_caseBlind columns rfl) (hwrite _))

theorem lower_insertBeforeTail (s clause : List Char) :
    lower (insertBeforeTail s clause) = insertBeforeTail (lower s) (lower clause) := by
  unfold insertBeforeTail
  rw [splitTail_lower, lower_append, lower_append]
  rfl

/-- The rule for `TOP` puts in the same limit, at the same place. -/
theorem lower_limitTop (hwhole : lower whole = lower whole') (h : lower s = lower t) :
    lower (limitTop whole s) = lower (limitTop whole' t) := by
  have hstrip := respects_stripTop s t h
  have hcount : (topCount? whole).map lower = (topCount? whole').map lower := by
    rw [← topCount?_lower, hwhole, topCount?_lower]
  have hlimit : hasRowLimit (stripTop s) = hasRowLimit (stripTop t) := by
    rw [← hasRowLimit_lower, hstrip, hasRowLimit_lower]
  unfold limitTop
  rw [hlimit]
  cases hn : topCount? whole with
  | none =>
    rw [hn, Option.map_none, eq_comm, Option.map_eq_none_iff] at hcount
    rw [hcount]
    exact hstrip
  | some n =>
    rw [hn, Option.map_some, eq_comm, Option.map_eq_some_iff] at hcount
    obtain ⟨m, hm, hmn⟩ := hcount
    have hclause : lower (limitClause n) = lower (limitClause m) := by
      unfold limitClause
      rw [lower_append, lower_append, hmn]
    rw [hm]
    by_cases hl : hasRowLimit (stripTop t) = true
    · simp only [hl, if_true]
      exact hstrip
    · simp only [hl, Bool.false_eq_true, if_false]
      rw [lower_insertBeforeTail, lower_insertBeforeTail, hstrip, hclause]

/-- Every rule takes texts that are alike up to letter case to such texts. -/
theorem lower_apply (rule : Rule) (hwhole : lower whole = lower whole') (h : lower s = lower t) :
    lower (rule.apply whole s) = lower (rule.apply whole' t) := by
  cases rule with
  | tableHints => exact respects_replaceAll tableHint_caseBlind (fun _ => rfl) s t h
  | bracketedNames => exact respects_replaceAll bracketedName_caseBlind (fun _ => by simp) s t h
  | randomCalls => exact respects_replaceAll newidCall_caseBlind (fun _ => rfl) s t h
  | fetchClauses =>
    refine respects_replaceAll fetchClause_caseBlind (fun c => ?_) s t h
    unfold FetchClause.asLimit FetchClause.lower
    simp
  | selectTop => exact lower_limitTop hwhole h
  | dateCalls =>
    have hturns : callHeads s = callHeads t := by
      unfold callHeads
      rw [← count_lower callHead_caseBlind, h, count_lower callHead_caseBlind]
    simp only [Rule.apply, renameDateCalls, hturns]
    exact respects_datePass.settle _ s t h
  | scalarCalls =>
    exact (respects_replaceAll (openCall_caseBlind _) (fun _ => rfl)).comp
      (respects_replaceAll (openCall_caseBlind _) (fun _ => rfl)) s t h
  | literalSums =>
    have hturns : s.count '+' = t.count '+' := by
      rw [← count_sign_lower rfl, h, count_sign_lower rfl]
    simp only [Rule.apply, concatLiterals, hturns]
    exact respects_concatPass.settle _ s t h
  | booleanColumns columns => exact respects_spellBooleans columns s t h

/-- A rule applies to both texts or to neither. -/
theorem applies_congr (rule : Rule) (h : lower s = lower t) : rule.Applies s ↔ rule.Applies t := by
  cases rule with
  | tableHints => exact readable_congr tableHint_reads tableHint_caseBlind h
  | bracketedNames => exact readable_congr bracketedName_reads bracketedName_caseBlind h
  | randomCalls => exact readable_congr newidCall_reads newidCall_caseBlind h
  | fetchClauses => exact readable_congr fetchClause_reads fetchClause_caseBlind h
  | selectTop => exact readable_congr selectTop_reads selectTop_caseBlind h
  | dateCalls =>
    exact or_congr (or_congr (readable_congr monthNameCall_reads monthNameCall_caseBlind h)
      (readable_congr monthCall_reads monthCall_caseBlind h))
      (readable_congr dateTextCall_reads dateTextCall_caseBlind h)
  | scalarCalls =>
    exact or_congr (readable_congr (openCall_reads "len") (openCall_caseBlind _) h)
      (readable_congr (openCall_reads "isnull") (openCall_caseBlind _) h)
  | literalSums => exact readable_congr literalSum_reads literalSum_caseBlind h
  | booleanColumns columns =>
    exact or_congr
      (readable_congr (flagComparison_reads columns '1') (flagComparison_caseBlind columns rfl) h)
      (readable_congr (flagComparison_reads columns '0') (flagComparison_caseBlind columns rfl) h)

/-- A rule changes both texts or neither. -/
theorem apply_eq_self_congr (rule : Rule) (hwhole : lower whole = lower whole')
    (h : lower s = lower t) : rule.apply whole s = s ↔ rule.apply whole' t = t := by
  by_cases hrule : rule = .selectTop
  · have hcount : topCount? whole = none ↔ topCount? whole' = none := by
      rw [← Option.map_eq_none_iff (f := lower), ← topCount?_lower, hwhole, topCount?_lower,
        Option.map_eq_none_iff]
    have hlimit : hasRowLimit s = hasRowLimit t := by
      rw [← hasRowLimit_lower, h, hasRowLimit_lower]
    rw [hrule]
    change limitTop whole s = s ↔ limitTop whole' t = t
    rw [limitTop_eq_self_iff, limitTop_eq_self_iff, applies_congr .selectTop h, hcount, hlimit]
  · rw [apply_eq_self_iff hrule, apply_eq_self_iff hrule, applies_congr rule h]

/-! ## Pipelines -/

/-- The rules leave texts that are alike up to letter case, and the same of them fire. -/
theorem runRules_congr (hwhole : lower whole = lower whole') (rules : List Rule)
    (h : lower s = lower t) :
    lower (Pipeline.runRules whole rules s).1 = lower (Pipeline.runRules whole' rules t).1 ∧
      (Pipeline.runRules whole rules s).2 = (Pipeline.runRules whole' rules t).2 := by
  induction rules generalizing s t with
  | nil => exact ⟨h, rfl⟩
  | cons rule rules ih =>
    have hrest := ih (lower_apply rule hwhole h)
    rw [Pipeline.runRules_cons_fst, Pipeline.runRules_cons_fst, Pipeline.runRules_cons_snd,
      Pipeline.runRules_cons_snd, hrest.2]
    refine ⟨hrest.1, ?_⟩
    simp only [apply_eq_self_congr rule hwhole h]

/-- **Translation does not depend on letter case.** Of two queries that are equal in lower case, a
pipeline of any rules makes texts that are equal in lower case. The same rules fire in the same order
on both, the same number of changes is reported, and the same events are logged. -/
theorem translate_letterCase (p : Pipeline) (query query' : String)
    (h : lower query.toList = lower query'.toList) :
    lower (p.translate query).toList = lower (p.translate query').toList ∧
      (p.run query.toList).fired = (p.run query'.toList).fired ∧
      (p.run query.toList).changed = (p.run query'.toList).changed ∧
      Log.Event.ofReport (p.run query.toList) = Log.Event.ofReport (p.run query'.toList) := by
  obtain ⟨htext, hfired⟩ := runRules_congr h p.rules h
  rw [← p.run_fired, ← p.run_fired] at hfired
  have hrules : (p.run query.toList).rules = (p.run query'.toList).rules := rfl
  have hchanged : (p.run query.toList).changed = (p.run query'.toList).changed := by
    unfold Report.changed
    rw [hfired]
  refine ⟨?_, hfired, hchanged, ?_⟩
  · rw [p.toList_translate, p.toList_translate]
    exact htext
  · unfold Log.Event.ofReport Log.Event.queryTranslated
    rw [hfired, hchanged, hrules]

/-- A rule applied twice, to a query in mixed case and to one in capitals. -/
theorem translate_letterCase_top :
    lower "Select Top 3 Len(a) From t".toList = lower "SELECT TOP 3 LEN(A) FROM T".toList ∧
      lower (Pipeline.translate ⟨[.scalarCalls, .selectTop, .scalarCalls]⟩
          "Select Top 3 Len(a) From t").toList =
        lower (Pipeline.translate ⟨[.scalarCalls, .selectTop, .scalarCalls]⟩
          "SELECT TOP 3 LEN(A) FROM T").toList ∧
      (Pipeline.run ⟨[.scalarCalls, .selectTop, .scalarCalls]⟩
          "Select Top 3 Len(a) From t".toList).changed =
        (Pipeline.run ⟨[.scalarCalls, .selectTop, .scalarCalls]⟩
          "SELECT TOP 3 LEN(A) FROM T".toList).changed := by
  have hcase : lower "Select Top 3 Len(a) From t".toList
      = lower "SELECT TOP 3 LEN(A) FROM T".toList := by
    decide
  obtain ⟨htext, -, hchanged, -⟩ :=
    translate_letterCase ⟨[.scalarCalls, .selectTop, .scalarCalls]⟩ _ _ hcase
  exact ⟨hcase, htext, hchanged⟩

end SqlDialect
