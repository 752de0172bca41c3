import SqlDialect.Translator
import SqlDialect.Proofs.Weights

/-!
# Which queries a translation changes

* `Sheds w f P` — `f` changes the texts with `P` and no others, and those it changes get lighter in
  the sense of `w`. Such functions compose (`Sheds.comp`), and so they never undo each other.
* `sheds_replaceAll` — a sweep is such a function, if it makes each construct lighter.
* `sheds_frontRules`, `sheds_backRules` — the standard rules before the one for `TOP`, and those
  behind it, weighed in two ways.
* `apply_eq_self_iff`, `limitTop_eq_self_iff` — when a single rule changes a text.
* `translate_eq_self_iff` — a translation changes a query exactly when one of the constructs can be
  read in it.
-/

namespace SqlDialect

open Query Scan Text

/-! ## Functions that shed weight -/

/-- The function leaves a text without `P` alone and makes one with `P` lighter. -/
structure Sheds (w : Char → Int) (f : List Char → List Char) (P : List Char → Prop) : Prop where
  keeps : ∀ s, ¬P s → f s = s
  lighter : ∀ s, P s → weight w (f s) < weight w s

variable {w : Char → Int} {f g : List Char → List Char} {P Q : List Char → Prop}

theorem Sheds.weight_le (h : Sheds w f P) (s : List Char) : weight w (f s) ≤ weight w s := by
  by_cases hp : P s
  · exact Int.le_of_lt (h.lighter s hp)
  · exact Int.le_of_eq (congrArg (weight w) (h.keeps s hp))

theorem Sheds.eq_self_iff (h : Sheds w f P) (s : List Char) : f s = s ↔ ¬P s := by
  constructor
  · intro heq hp
    have hlt := h.lighter s hp
    rw [heq] at hlt
    omega
  · exact h.keeps s

/-- One function after another sheds weight where either does. -/
theorem Sheds.comp (hf : Sheds w f P) (hg : Sheds w g Q) :
    Sheds w (fun s => g (f s)) fun s => P s ∨ Q s where
  keeps s h := by
    rw [not_or] at h
    rw [hf.keeps s h.1, hg.keeps s h.2]
  lighter s h := by
    have hle := hg.weight_le (f s)
    by_cases hp : P s
    · have hlt := hf.lighter s hp
      omega
    · have hq := h.resolve_left hp
      rw [hf.keeps s hp]
      exact hg.lighter s hq

/-- Turns that shed weight do so together, if there is a turn for each text that needs one. -/
theorem Sheds.settle (hf : Sheds w f P) {turns : List Char → Nat} (hturns : ∀ s, P s → 0 < turns s) :
    Sheds w (fun s => Scan.settle f (turns s) s) P where
  keeps s h := settle_of_eq (hf.keeps s h) (turns s)
  lighter s h := by
    obtain ⟨n, hn⟩ := Nat.exists_eq_add_one_of_ne_zero (Nat.ne_of_gt (hturns s h))
    have hlt := hf.lighter s h
    have hle := settle_induction (P := fun t => weight w t ≤ weight w (f s))
      (fun t ht => Int.le_trans (hf.weight_le t) ht) n (Int.le_refl (weight w (f s)))
    simp only [hn, settle_succ]
    omega

/-- A sweep that makes each construct lighter sheds weight where there is a construct. -/
theorem sheds_replaceAll {α : Type} {scan : Scanner α} {write : α → List Char}
    {Shape : Option Char → List Char → α → List Char → Prop} (hscan : Reads scan Shape)
    (h : ∀ before text a rest, Shape before text a rest →
      weight w (write a) + (1 : Nat) ≤ weight w text) :
    Sheds w (replaceAll scan write) (Readable scan) where
  keeps s hs := by
    refine replaceAll_of_not_occurs write ?_
    rw [← occurs_iff_readable hscan] at hs
    simpa using hs
  lighter s hs := by
    have hle := weight_replaceAll_add_le hscan h s
    have hpos : 0 < count scan s := by
      rw [← occurs_iff_readable hscan, ← Bool.not_eq_false, not_occurs_iff] at hs
      exact List.length_pos_iff.2 hs
    omega

/-- The function makes no text heavier. -/
def Lightens (w : Char → Int) (f : List Char → List Char) : Prop :=
  ∀ s, weight w (f s) ≤ weight w s

theorem Lightens.comp (hf : Lightens w f) (hg : Lightens w g) : Lightens w fun s => g (f s) :=
  fun s => Int.le_trans (hg (f s)) (hf s)

theorem Lightens.settle (hf : Lightens w f) (turns : List Char → Nat) :
    Lightens w fun s => Scan.settle f (turns s) s := fun s =>
  settle_induction (P := fun t => weight w t ≤ weight w s) (fun t ht => Int.le_trans (hf t) ht)
    (turns s) (Int.le_refl _)

theorem lightens_replaceAll {α : Type} {scan : Scanner α} {write : α → List Char}
    {Shape : Option Char → List Char → α → List Char → Prop} (hscan : Reads scan Shape)
    (h : ∀ before text a rest, Shape before text a rest →
      weight w (write a) + (0 : Nat) ≤ weight w text) : Lightens w (replaceAll scan write) := by
  intro s
  have hle := weight_replaceAll_add_le hscan h s
  omega

/-! ## Rules -/

/-- One of the constructs that a rule writes anew can be read in the text. -/
def Rule.Applies : Rule → List Char → Prop
  | .tableHints, s => Readable tableHint s
  | .bracketedNames, s => Readable bracketedName s
  | .randomCalls, s => Readable newidCall s
  | .fetchClauses, s => Readable fetchClause s
  | .selectTop, s => Readable Query.selectTop s
  | .dateCalls, s => (Readable monthNameCall s ∨ Readable monthCall s) ∨ Readable dateTextCall s
  | .scalarCalls, s => Readable lenCall s ∨ Readable isnullCall s
  | .literalSums, s => Readable literalSum s
  | .booleanColumns columns, s =>
    Readable (flagComparison columns '1') s ∨ Readable (flagComparison columns '0') s

/-- Where a date call can be read, the head of one is found. -/
theorem callHeads_pos {s : List Char} (h : Rule.dateCalls.Applies s) : 0 < callHeads s := by
  have hhead : Readable callHead s → 0 < callHeads s := by
    intro hs
    rw [← occurs_iff_readable callHead_reads, ← Bool.not_eq_false, not_occurs_iff] at hs
    exact List.length_pos_iff.2 hs
  apply hhead
  rcases h with (⟨a, b, rfl, h⟩ | ⟨a, b, rfl, h⟩) | ⟨a, b, rfl, h⟩
  all_goals
    refine ⟨a, b, rfl, ?_⟩
    obtain ⟨⟨arg, rest⟩, h⟩ := Option.isSome_iff_exists.1 h
  · simp only [monthNameCall, Option.bind_eq_bind, Option.bind_eq_some_iff, guard_eq_some] at h
    obtain ⟨-, hstart, s₁, h₁, s₂, h₂, -⟩ := h
    rw [callHead_eq_some hstart (.inl h₁) h₂]
    rfl
  · simp only [monthCall, Option.bind_eq_bind, Option.bind_eq_some_iff, guard_eq_some] at h
    obtain ⟨-, hstart, s₁, h₁, s₂, h₂, -⟩ := h
    rw [callHead_eq_some hstart (.inr (.inl h₁)) h₂]
    rfl
  · simp only [dateTextCall, Option.bind_eq_bind, Option.bind_eq_some_iff, guard_eq_some] at h
    obtain ⟨-, hstart, s₁, h₁, s₂, h₂, -⟩ := h
    rw [callHead_eq_some hstart (.inr (.inr h₁)) h₂]
    rfl

/-- A sum of literals has a sign. -/
theorem count_plus_pos {s : List Char} (h : Rule.literalSums.Applies s) : 0 < s.count '+' := by
  obtain ⟨a, b, rfl, h⟩ := h
  obtain ⟨⟨sum, rest⟩, h⟩ := Option.isSome_iff_exists.1 h
  obtain ⟨text, -, rfl, hshape⟩ := literalSum_reads _ _ _ _ h
  obtain ⟨-, -, -, -⟩ := hshape
  refine List.count_pos_iff.2 ?_
  simp

theorem sheds_datePass : Sheds signWeight datePass Rule.dateCalls.Applies :=
  ((sheds_replaceAll monthNameCall_reads fun _ _ _ _ h =>
    h.2.weight_add_le signWeight_ignoresBlanks (by decide)).comp
  (sheds_replaceAll monthCall_reads fun _ _ _ _ h =>
    h.2.weight_add_le signWeight_ignoresBlanks (by decide))).comp
  (sheds_replaceAll dateTextCall_reads fun _ _ _ _ h =>
    h.2.weight_add_le signWeight_ignoresBlanks (by decide))

theorem sheds_renameScalarCalls : Sheds signWeight renameScalarCalls Rule.scalarCalls.Applies := by
  have hlen : Sheds signWeight (replaceAll lenCall fun _ => "LENGTH(".toList) (Readable lenCall) :=
    sheds_replaceAll (openCall_reads "len") fun _ _ _ _ h =>
      h.2.weight_add_le signWeight_ignoresBlanks (by decide)
  have hisnull : Sheds signWeight (replaceAll isnullCall fun _ => "COALESCE(".toList)
      (Readable isnullCall) :=
    sheds_replaceAll (openCall_reads "isnull") fun _ _ _ _ h =>
      h.2.weight_add_le signWeight_ignoresBlanks (by decide)
  exact hlen.comp hisnull

theorem sheds_concatPass : Sheds signWeight concatPass Rule.literalSums.Applies :=
  sheds_replaceAll literalSum_reads fun _ _ _ _ h =>
    h.weight_add_le signWeight_ignoresBlanks (by decide)

theorem sheds_spellBooleans (columns : BooleanColumns) :
    Sheds signWeight (spellBooleans columns) (Rule.booleanColumns columns).Applies :=
  (sheds_replaceAll (flagComparison_reads columns '1') fun _ _ _ _ h =>
    h.weight_add_le signWeight_ignoresBlanks (by decide)).comp
  (sheds_replaceAll (flagComparison_reads columns '0') fun _ _ _ _ h =>
    h.weight_add_le signWeight_ignoresBlanks (by decide))

/-- The standard rules before the one for `TOP`. -/
def frontRules : List Rule := [.tableHints, .bracketedNames, .randomCalls, .fetchClauses]

/-- The standard rules behind the one for `TOP`. -/
def backRules (columns : BooleanColumns) : List Rule :=
  [.dateCalls, .scalarCalls, .literalSums, .booleanColumns columns]

theorem rules_standard (columns : BooleanColumns) :
    (Pipeline.standard (some columns)).rules = frontRules ++ .selectTop :: backRules columns := rfl

/-- The rules before the one for `TOP` make a text lighter in `wordWeight`. -/
theorem sheds_frontRules (whole : List Char) :
    ∀ rule ∈ frontRules, Sheds wordWeight (rule.apply whole) rule.Applies := by
  intro rule h
  simp only [frontRules, List.mem_cons, List.not_mem_nil, or_false] at h
  rcases h with rfl | rfl | rfl | rfl
  · exact sheds_replaceAll tableHint_reads fun _ _ _ _ h =>
      h.weight_add_le wordWeight_nonneg (by decide)
  · exact sheds_replaceAll bracketedName_reads fun _ _ _ _ h => h.weight_add_le (by decide)
  · exact sheds_replaceAll newidCall_reads fun _ _ _ _ h =>
      h.2.weight_add_le wordWeight_ignoresBlanks (by decide)
  · exact sheds_replaceAll fetchClause_reads fun _ _ _ _ h =>
      h.weight_add_le wordWeight_ignoresBlanks wordWeight_nonneg (by decide)

theorem sheds_stripTop : Sheds wordWeight stripTop Rule.selectTop.Applies :=
  sheds_replaceAll selectTop_reads fun _ _ _ _ h =>
    h.2.weight_add_le wordWeight_nonneg (by decide)

/-- The rules behind the one for `TOP` make a text lighter in `signWeight`. -/
theorem sheds_backRules (columns : BooleanColumns) (whole : List Char) :
    ∀ rule ∈ backRules columns, Sheds signWeight (rule.apply whole) rule.Applies := by
  intro rule h
  simp only [backRules, List.mem_cons, List.not_mem_nil, or_false] at h
  rcases h with rfl | rfl | rfl | rfl
  · exact sheds_datePass.settle fun _ => callHeads_pos
  · exact sheds_renameScalarCalls
  · exact sheds_concatPass.settle fun _ => count_plus_pos
  · exact sheds_spellBooleans columns

/-- The same rules bring in none of the characters that `wordWeight` counts. -/
theorem lightens_backRules (columns : BooleanColumns) (whole : List Char) :
    ∀ rule ∈ backRules columns, Lightens wordWeight (rule.apply whole) := by
  have hdate : Lightens wordWeight datePass :=
    ((lightens_replaceAll monthNameCall_reads fun _ _ _ _ h =>
      h.2.weight_add_le wordWeight_ignoresBlanks (by decide)).comp
    (lightens_replaceAll monthCall_reads fun _ _ _ _ h =>
      h.2.weight_add_le wordWeight_ignoresBlanks (by decide))).comp
    (lightens_replaceAll dateTextCall_reads fun _ _ _ _ h =>
      h.2.weight_add_le wordWeight_ignoresBlanks (by decide))
  have hlen : Lightens wordWeight (replaceAll lenCall fun _ => "LENGTH(".toList) :=
    lightens_replaceAll (openCall_reads "len") fun _ _ _ _ h =>
      h.2.weight_add_le wordWeight_ignoresBlanks (by decide)
  have hisnull : Lightens wordWeight (replaceAll isnullCall fun _ => "COALESCE(".toList) :=
    lightens_replaceAll (openCall_reads "isnull") fun _ _ _ _ h =>
      h.2.weight_add_le wordWeight_ignoresBlanks (by decide)
  have hsum : Lightens wordWeight concatPass :=
    lightens_replaceAll literalSum_reads fun _ _ _ _ h =>
      h.weight_add_le wordWeight_ignoresBlanks (by decide)
  have hflag : Lightens wordWeight (spellBooleans columns) :=
    (lightens_replaceAll (flagComparison_reads columns '1') fun _ _ _ _ h =>
      h.weight_add_le wordWeight_ignoresBlanks (by decide)).comp
    (lightens_replaceAll (flagComparison_reads columns '0') fun _ _ _ _ h =>
      h.weight_add_le wordWeight_ignoresBlanks (by decide))
  intro rule h
  simp only [backRules, List.mem_cons, List.not_mem_nil, or_false] at h
  rcases h with rfl | rfl | rfl | rfl
  · exact hdate.settle callHeads
  · exact hlen.comp hisnull
  · exact hsum.settle (List.count '+')
  · exact hflag

/-- The limit that is put in weighs nothing among the words. -/
theorem weight_limitTop (whole s : List Char) :
    weight wordWeight (limitTop whole s) = weight wordWeight (stripTop s) := by
  unfold limitTop
  split
  · rfl
  · rename_i n hn
    split
    · rfl
    · have hclause : weight wordWeight (limitClause n) = 0 := by
        have hlimit : weight wordWeight " LIMIT ".toList = 0 := by decide
        have hdigits := (digits_of_topCount? hn).wordWeight
        unfold limitClause
        generalize " LIMIT ".toList = clause at hlimit ⊢
        rw [weight_append, hlimit, hdigits]
        rfl
      have hsplit := congrArg (weight wordWeight) (splitTail_append (stripTop s))
      rw [weight_append] at hsplit
      rw [insertBeforeTail, weight_append, weight_append, hclause]
      omega

/-- A query without a `TOP` gets no limit. -/
theorem limitTop_eq_self {s : List Char} (h : ¬Rule.selectTop.Applies s) : limitTop s s = s := by
  have hcount : topCount? s = none := by
    have hoccurs : occurs Query.selectTop s = false := by
      rw [← Bool.not_eq_true, occurs_iff_readable selectTop_reads]
      exact h
    rw [not_occurs_iff] at hoccurs
    unfold topCount? first?
    rw [hoccurs]
    rfl
  unfold limitTop
  rw [hcount]
  exact sheds_stripTop.keeps s h

/-- The other rules change a text exactly when they apply to it, whatever the query was. -/
theorem apply_eq_self_iff {rule : Rule} (hrule : rule ≠ .selectTop) (whole s : List Char) :
    rule.apply whole s = s ↔ ¬rule.Applies s := by
  have hfront : rule ∈ frontRules → (rule.apply whole s = s ↔ ¬rule.Applies s) := fun h =>
    (sheds_frontRules whole rule h).eq_self_iff s
  have hback : ∀ columns, rule ∈ backRules columns → (rule.apply whole s = s ↔ ¬rule.Applies s) :=
    fun columns h => (sheds_backRules columns whole rule h).eq_self_iff s
  cases rule with
  | selectTop => exact absurd rfl hrule
  | booleanColumns columns => exact hback columns (by simp [backRules])
  | tableHints | bracketedNames | randomCalls | fetchClauses => exact hfront (by simp [frontRules])
  | dateCalls | scalarCalls | literalSums => exact hback ⟨[], nofun⟩ (by simp [backRules])

/-- A clause that is put in makes a text longer. -/
theorem insertBeforeTail_ne_self {clause : List Char} (h : clause ≠ []) (s : List Char) :
    insertBeforeTail s clause ≠ s := by
  intro heq
  have hlen := congrArg List.length heq
  have hsplit := congrArg List.length (splitTail_append s)
  have hclause := List.length_pos_iff.2 h
  simp only [insertBeforeTail, List.length_append] at hlen hsplit
  omega

/-- The rule for `TOP` changes a text that has one, and one that lacks the limit of the query. -/
theorem limitTop_eq_self_iff (whole s : List Char) :
    limitTop whole s = s ↔
      ¬Rule.selectTop.Applies s ∧ (topCount? whole = none ∨ hasRowLimit s = true) := by
  by_cases hp : Rule.selectTop.Applies s
  · have hlt := sheds_stripTop.lighter s hp
    rw [← weight_limitTop whole] at hlt
    refine ⟨fun heq => ?_, fun h => absurd hp h.1⟩
    rw [heq] at hlt
    omega
  · have hstrip := sheds_stripTop.keeps s hp
    unfold limitTop
    rw [hstrip]
    split
    · rename_i hnone
      simp [hp, hnone]
    · rename_i n hn
      split
      · rename_i hlimit
        simp [hp, hlimit]
      · rename_i hlimit
        have hclause : limitClause n ≠ [] :=
          List.append_ne_nil_of_right_ne_nil _ (digits_of_topCount? hn).1
        simp [insertBeforeTail_ne_self hclause s, hn, hlimit]

/-! ## Runs -/

/-- Rules that each shed weight do so one after another, where one of them applies. -/
theorem sheds_runRules {w : Char → Int} {whole : List Char} {rules : List Rule}
    (h : ∀ rule ∈ rules, Sheds w (rule.apply whole) rule.Applies) :
    Sheds w (fun s => (Pipeline.runRules whole rules s).1)
      fun s => ∃ rule ∈ rules, rule.Applies s := by
  induction rules with
  | nil => exact ⟨fun _ _ => rfl, fun _ ⟨_, hrule, _⟩ => by cases hrule⟩
  | cons rule rules ih =>
    have hcomp := (h rule (by simp)).comp (ih fun r hr => h r (by simp [hr]))
    constructor
    · intro s hs
      rw [Pipeline.runRules_cons_fst]
      exact hcomp.keeps s (by simpa using hs)
    · intro s hs
      rw [Pipeline.runRules_cons_fst]
      exact hcomp.lighter s (by simpa using hs)

/-- Rules that leave a text alone do not fire. -/
theorem runRules_of_keeps {whole s : List Char} {rules : List Rule}
    (h : ∀ rule ∈ rules, rule.apply whole s = s) : Pipeline.runRules whole rules s = (s, []) := by
  induction rules with
  | nil => rfl
  | cons rule rules ih =>
    have hrule := h rule (by simp)
    have hrest := ih fun r hr => h r (by simp [hr])
    refine Prod.ext ?_ ?_
    · rw [Pipeline.runRules_cons_fst, hrule, hrest]
    · rw [Pipeline.runRules_cons_snd, if_pos hrule, hrule, hrest]

/-- If no rule fires the text stays as it is. -/
theorem runRules_of_not_fired {whole s : List Char} {rules : List Rule}
    (h : (Pipeline.runRules whole rules s).2 = []) : (Pipeline.runRules whole rules s).1 = s := by
  induction rules generalizing s with
  | nil => rfl
  | cons rule rules ih =>
    rw [Pipeline.runRules_cons_snd] at h
    split at h
    · rename_i hrule
      rw [Pipeline.runRules_cons_fst, ih h, hrule]
    · cases h

/-- Where no standard rule applies, none fires. -/
theorem runRules_standard_of_not_applies {columns : BooleanColumns} {s : List Char}
    (h : ∀ rule ∈ frontRules ++ .selectTop :: backRules columns, ¬rule.Applies s) :
    Pipeline.runRules s (Pipeline.standard (some columns)).rules s = (s, []) := by
  rw [rules_standard]
  refine runRules_of_keeps fun rule hrule => ?_
  have hnot := h rule hrule
  rcases List.mem_append.1 hrule with hr | hr
  · exact (sheds_frontRules s rule hr).keeps s hnot
  · rcases List.mem_cons.1 hr with rfl | hr
    · exact limitTop_eq_self hnot
    · exact (sheds_backRules columns s rule hr).keeps s hnot

/-- Where a standard rule applies, the text is changed for good. -/
theorem not_applies_of_runRules_standard {columns : BooleanColumns} {s : List Char}
    (heq : (Pipeline.runRules s (Pipeline.standard (some columns)).rules s).1 = s) :
    ∀ rule ∈ frontRules ++ .selectTop :: backRules columns, ¬rule.Applies s := by
  have hfront := sheds_runRules (sheds_frontRules s)
  have hback := sheds_runRules (sheds_backRules columns s)
  rw [rules_standard, Pipeline.runRules_append] at heq
  simp only [Pipeline.runRules_cons_fst] at heq
  -- no rule behind the first four makes the text heavier again
  have hlight : weight wordWeight s ≤
      weight wordWeight (stripTop (Pipeline.runRules s frontRules s).1) := by
    rw [← weight_limitTop s]
    conv => lhs; rw [← heq]
    exact Pipeline.runRules_induction (P := fun t => weight wordWeight t ≤ weight wordWeight
      (limitTop s (Pipeline.runRules s frontRules s).1))
      (fun rule hr t ht => Int.le_trans (lightens_backRules columns s rule hr t) ht) (Int.le_refl _)
  have hnofront : ¬∃ rule ∈ frontRules, rule.Applies s := by
    intro hp
    have hlt := hfront.lighter s hp
    have hle := sheds_stripTop.weight_le (Pipeline.runRules s frontRules s).1
    omega
  rw [hfront.keeps s hnofront] at heq hlight
  have hnotop : ¬Rule.selectTop.Applies s := by
    intro hp
    have hlt := sheds_stripTop.lighter s hp
    omega
  have htop : Rule.selectTop.apply s s = s := limitTop_eq_self hnotop
  rw [htop] at heq
  have hnoback := (hback.eq_self_iff s).1 heq
  intro rule hrule hp
  rcases List.mem_append.1 hrule with hr | hr
  · exact hnofront ⟨rule, hr, hp⟩
  · rcases List.mem_cons.1 hr with rfl | hr
    · exact hnotop hp
    · exact hnoback ⟨rule, hr, hp⟩

/-- The text stays as it is exactly when no standard rule applies. -/
theorem standard_translate_eq_iff (columns : BooleanColumns) (query : String) :
    (Pipeline.standard (some columns)).translate query = query ↔
      ∀ rule ∈ frontRules ++ .selectTop :: backRules columns, ¬rule.Applies query.toList := by
  rw [← String.toList_inj, Pipeline.toList_translate]
  constructor
  · exact not_applies_of_runRules_standard
  · intro h
    rw [runRules_standard_of_not_applies h]

/-- No change is reported exactly when no standard rule applies. -/
theorem standard_changed_eq_zero_iff (columns : BooleanColumns) (s : List Char) :
    ((Pipeline.standard (some columns)).run s).changed = 0 ↔
      ∀ rule ∈ frontRules ++ .selectTop :: backRules columns, ¬rule.Applies s := by
  rw [Report.changed, Pipeline.run_fired]
  constructor
  · intro h
    exact not_applies_of_runRules_standard (runRules_of_not_fired (List.eq_nil_of_length_eq_zero h))
  · intro h
    rw [runRules_standard_of_not_applies h, List.length_nil]

/-- **No combination of rules cancels out.** A translation leaves a query as it is exactly when none
of the constructs of the nine rules can be read in it, and for a query that is not empty this is
when it reports no change. -/
theorem translate_eq_self_iff (query : String) :
    (translate query = query ↔
      ∀ rule ∈ [Rule.tableHints, .bracketedNames, .randomCalls, .fetchClauses, .selectTop,
          .dateCalls, .scalarCalls, .literalSums, .booleanColumns .standard],
        ¬rule.Applies query.toList) ∧
    (query ≠ "" → ∃ r, ({} : Translator).report? query = some r ∧
      (translate query = query ↔ r.changed = 0)) := by
  have hpipeline : ({} : Translator).pipeline = Pipeline.standard (some .standard) := rfl
  have hiff := standard_translate_eq_iff .standard query
  have hchanged := standard_changed_eq_zero_iff .standard query.toList
  unfold translate
  rw [Translator.translate_eq, hpipeline]
  refine ⟨hiff, fun hne => ⟨_, if_neg (by simpa using hne), ?_⟩⟩
  rw [hpipeline, hiff, hchanged]

/-- Each construct alone changes a query, and a query with two of them reports a change. -/
theorem translate_eq_self_iff_len_bracket :
    ("SELECT LEN(a) FROM [t]" ≠ "" ∧
      ∃ r, ({} : Translator).report? "SELECT LEN(a) FROM [t]" = some r ∧ r.changed ≠ 0) ∧
    ∀ query ∈ [" WITH (NOLOCK)", "[t]", "NEWID()", " OFFSET 1 ROWS FETCH NEXT 2 ROWS ONLY",
        "SELECT TOP 5 x", "DATENAME(MONTH, d)", "MONTH(d)", "CONVERT(VARCHAR(10), d)", "LEN(s)",
        "ISNULL(a, b)", "'a' + 'b'", "\"active\" = 1", "\"t\".\"is_deleted\" = 0"],
      translate query ≠ query := by
  have hchanged : ∀ query (rule : Rule),
      rule ∈ [Rule.tableHints, .bracketedNames, .randomCalls, .fetchClauses, .selectTop,
        .dateCalls, .scalarCalls, .literalSums, .booleanColumns .standard] →
      rule.Applies query.toList → translate query ≠ query :=
    fun query rule hrule happlies heq => (translate_eq_self_iff query).1.1 heq rule hrule happlies
  have hread : ∀ {α : Type} {scan : Scanner α} {s : List Char}, (scan none s).isSome = true →
      Readable scan s := fun h => ⟨[], _, rfl, h⟩
  constructor
  · have hne : "SELECT LEN(a) FROM [t]" ≠ "" := by decide
    obtain ⟨r, hr, hzero⟩ := (translate_eq_self_iff _).2 hne
    refine ⟨hne, r, hr, fun h => ?_⟩
    exact hchanged _ .scalarCalls (by simp)
      (.inl ⟨"SELECT ".toList, "LEN(a) FROM [t]".toList, by decide, by decide⟩) (hzero.2 h)
  · simp only [List.forall_mem_cons]
    refine ⟨hchanged _ .tableHints (by simp) (hread (by decide)),
      hchanged _ .bracketedNames (by simp) (hread (by decide)),
      hchanged _ .randomCalls (by simp) (hread (by decide)),
      hchanged _ .fetchClauses (by simp) (hread (by decide)),
      hchanged _ .selectTop (by simp) (hread (by decide)),
      hchanged _ .dateCalls (by simp) (.inl (.inl (hread (by decide)))),
      hchanged _ .dateCalls (by simp) (.inl (.inr (hread (by decide)))),
      hchanged _ .dateCalls (by simp) (.inr (hread (by decide))),
      hchanged _ .scalarCalls (by simp) (.inl (hread (by decide))),
      hchanged _ .scalarCalls (by simp) (.inr (hread (by decide))),
      hchanged _ .literalSums (by simp) (hread (by decide)),
      hchanged _ (.booleanColumns .standard) (by simp) (.inl (hread (by decide))),
      hchanged _ (.booleanColumns .standard) (by simp) (.inr (hread (by decide))), ?_⟩
    simp

end SqlDialect
