import SqlDialect.Proofs.AssembledQuery
import SqlDialect.Proofs.Brackets

/-!
# First rows of a table with delimited names

`SELECT TOP n [c] FROM [t]` becomes a query with a limit. A name between brackets or double quotes
is still looked at by every rule, whatever word it is.

* `IsName` — the names: ASCII letters, digits and underscores.
* `fromTable` — a column and its table, each between two signs. `not_infix_fromTable` says that no
  keyword comes up there with a blank before it, so that no `SELECT TOP` and no fetch clause does.
* `quoteBracketedNames_first` — a name between brackets is put between double quotes.
* `hasRowLimit_selectFrom_iff` — the row limits of the query are those names that read `OFFSET` or
  `LIMIT`.
* `translate_top_names` — hence the limit is left out exactly when a name is such a word;
  `translate_top_limit_column` is a query that loses its limit.
-/

namespace SqlDialect.Query

open Scan Text

/-! ## Names between signs -/

/-- The characters of a name. -/
def isNameChar (c : Char) : Bool := c.isAlphanum || c == '_'

/-- A name: some ASCII letters, digits and underscores. -/
structure IsName (s : List Char) : Prop where
  ne_nil : s ≠ []
  chars : s.all isNameChar = true

theorem isWord_of_isNameChar {c : Char} (h : isNameChar c = true) : isWord c = true := by
  have hlt : c.toNat < 128 := by
    unfold isNameChar at h
    delta Char.isAlphanum Char.isAlpha Char.isUpper Char.isLower Char.isDigit at h
    simp only [Bool.or_eq_true, Bool.and_eq_true, decide_eq_true_eq, UInt32.le_iff_toNat_le,
      ge_iff_le, Char.toNat_val, beq_iff_eq] at h
    change (((65 ≤ c.toNat ∧ c.toNat ≤ 90) ∨ (97 ≤ c.toNat ∧ c.toNat ≤ 122)) ∨
      (48 ≤ c.toNat ∧ c.toNat ≤ 57)) ∨ c = '_' at h
    rcases h with h | rfl
    · omega
    · decide
  rw [isWord, if_pos hlt]
  exact h

namespace IsName

variable {s : List Char}

theorem isWord (h : IsName s) : ∀ c ∈ s, Text.isWord c = true := fun c hc =>
  isWord_of_isNameChar (List.all_eq_true.1 h.chars c hc)

theorem lacks (h : IsName s) {signs : List Char}
    (hsigns : (signs.all fun sign => !isNameChar sign) = true) : Lacks signs s :=
  lacks_of_forall hsigns (List.all_eq_true.1 h.chars)

end IsName

/-- A column and its table, each between two signs. -/
def fromTable (l r : Char) (column table : List Char) : List Char :=
  l :: (column ++ r :: (" FROM ".toList ++ l :: (table ++ [r])))

/-- The signs that a rule or a tail needs, apart from those around names. -/
def ruleSigns : List Char := ['(', '\'', '=', ';', '-']

/-- A word with a blank before it stands in front of the column or between the names. -/
theorem not_infix_fromTable {l r : Char} (hl : l ∈ nameSigns) (hr : r ∈ nameSigns)
    {column table : List Char} (hcolumn : IsName column) (htable : IsName table) {word : String}
    (halpha : (word.toList.map fold).all Char.isAlpha = true)
    (hfrom : ¬Mentions word " FROM ".toList) {a : List Char} (ha : ¬Mentions word a)
    {b w : List Char} (hne : b ≠ []) (hb : Blanks b) (hw : Spells word w) :
    ¬b ++ w <:+: a ++ fromTable l r column table := by
  have hsigns : Lacks nameSigns (b ++ w) :=
    (lacks_of_forall (by decide) hb).append
      (lacks_of_forall (by decide) fun c hc => (hw.isWord halpha c hc).1)
  have hname : ∀ {s}, IsName s → ¬b ++ w <:+: s := by
    intro s hs h
    obtain ⟨c, b, rfl⟩ := List.exists_cons_of_ne_nil hne
    have hword := hs.isWord c (h.subset List.mem_cons_self)
    rw [isWord_of_isBlank (hb c List.mem_cons_self)] at hword
    cases hword
  have hmentions : ∀ {s}, b ++ w <:+: s → Mentions word s := fun h =>
    hw.mentions (List.infix_append_right.trans h)
  -- cut at the four signs
  intro h
  rcases infix_of_infix_append_cons (hsigns l hl) h with h | h
  · exact ha (hmentions h)
  rcases infix_of_infix_append_cons (hsigns r hr) h with h | h
  · exact hname hcolumn h
  rcases infix_of_infix_append_cons (hsigns l hl) h with h | h
  · exact hfrom (hmentions h)
  rcases infix_of_infix_append_cons (hsigns r hr) h with h | h
  · exact hname htable h
  · have hnil := List.infix_nil.1 h
    exact hne (List.append_eq_nil_iff.1 hnil).1

theorem SelectTopText.exists_blanks_top {text : List Char} {t : SelectTop}
    (h : SelectTopText text t) :
    ∃ b top, b ≠ [] ∧ Blanks b ∧ Spells "top" top ∧ b ++ top <:+: text := by
  obtain @⟨select, b₁, distinct, top, b₂, rows, n, -, hne, hb₁, hdistinct, htop, -, -⟩ := h
  rcases hdistinct with rfl | ⟨word, b, -, hne', hb, rfl⟩
  · exact ⟨b₁, top, hne, hb₁, htop, select, b₂ ++ rows, by simp⟩
  · exact ⟨b, top, hne', hb, htop, select ++ b₁ ++ word, b₂ ++ rows, by simp⟩

theorem FetchClauseText.exists_blanks_offset {text : List Char} {f : FetchClause}
    (h : FetchClauseText text f) :
    ∃ b offset, b ≠ [] ∧ Blanks b ∧ Spells "offset" offset ∧ b ++ offset <:+: text := by
  obtain @⟨b₁, offset, b₂, m, b₃, rows₁, b₄, fetch, b₅, next, b₆, n, b₇, rows₂, b₈, only, hne,
    hblanks, hoffset, -, -, -, -, -, -, -⟩ := h
  refine ⟨b₁, offset, hne, hblanks b₁ List.mem_cons_self, hoffset, ?_⟩
  simp only [List.append_assoc]
  rw [← List.append_assoc b₁]
  exact (List.prefix_append _ _).isInfix

section

variable {l r : Char} (hl : l ∈ nameSigns) (hr : r ∈ nameSigns) {column table : List Char}
  (hcolumn : IsName column) (htable : IsName table)

include hl

theorem skipBlanks_fromTable :
    skipBlanks (fromTable l r column table) = fromTable l r column table := by
  have hblank : (nameSigns.all fun sign => !isBlank sign) = true := by decide
  have hnot := List.all_eq_true.1 hblank l hl
  exact List.dropWhile_cons_of_neg (by simpa using hnot)

include hr hcolumn htable

theorem lacks_fromTable : Lacks ruleSigns (fromTable l r column table) := by
  have hsign : ∀ c, c ∈ nameSigns → Lacks ruleSigns [c] := by
    have hapart : Lacks ruleSigns nameSigns := by decide
    intro c hc sign hsign hmem
    obtain rfl := List.mem_singleton.1 hmem
    exact hapart sign hsign hc
  have hfrom : Lacks ruleSigns " FROM ".toList := by decide
  have hsecond : Lacks ruleSigns (" FROM ".toList ++ l :: (table ++ [r])) :=
    hfrom.append ((hsign l hl).append ((htable.lacks (by decide)).append (hsign r hr)))
  exact (hsign l hl).append ((hcolumn.lacks (by decide)).append ((hsign r hr).append hsecond))

theorem absent_selectTop_fromTable : Absent selectTop (fromTable l r column table) := by
  refine absent_of_reads selectTop_reads ?_
  rintro before x text _ rest hs ⟨-, htext⟩
  obtain ⟨b, top, hne, hb, htop, hinfix⟩ := htext.exists_blanks_top
  refine not_infix_fromTable hl hr hcolumn htable (by decide) (by decide) (by decide) (a := []) hne
    hb htop ?_
  rw [List.nil_append, hs]
  exact hinfix.trans (List.infix_append' x text rest)

theorem absent_fetchClause_fromTable {a : List Char} (ha : ¬Mentions "offset" a) :
    Absent fetchClause (a ++ fromTable l r column table) := by
  refine absent_of_reads fetchClause_reads ?_
  intro before x text _ rest hs htext
  obtain ⟨b, offset, hne, hb, hoffset, hinfix⟩ := htext.exists_blanks_offset
  refine not_infix_fromTable hl hr hcolumn htable (by decide) (by decide) ha hne hb hoffset ?_
  rw [hs]
  exact hinfix.trans (List.infix_append' x text rest)

end

/-! ## Brackets and quotes -/

/-- The first name between brackets is put between double quotes. -/
theorem quoteBracketedNames_first {a name : List Char} (ha : '[' ∉ a) (hname : IsName name)
    (s : List Char) :
    quoteBracketedNames (a ++ '[' :: (name ++ ']' :: s)) =
      a ++ '"' :: (name ++ '"' :: quoteBracketedNames s) := by
  have hfree : SignFree name := fun c hc hsign => hname.lacks (by decide) c hsign hc
  rw [quoteBracketedNames_append ha, quoteBracketedNames_name hname.ne_nil hfree]

/-- Both names of a query are put between double quotes. -/
theorem quoteBracketedNames_fromTable {a column table : List Char} (ha : '[' ∉ a)
    (hcolumn : IsName column) (htable : IsName table) :
    quoteBracketedNames (a ++ fromTable '[' ']' column table) =
      a ++ fromTable '"' '"' column table := by
  have hfrom : '[' ∉ " FROM ".toList := by decide
  unfold fromTable
  rw [quoteBracketedNames_first ha hcolumn, quoteBracketedNames_first hfrom htable]
  rfl

/-! ## Row limits -/

/-- The query for all rows of a table, with quoted names. -/
def selectFrom (column table : List Char) : List Char :=
  "SELECT ".toList ++ fromTable '"' '"' column table

/-- A word before a separator. -/
theorem limitsFrom_word_sep {w : List Char} (hw : ∀ c ∈ w, isWord c = true) {sep : Char}
    (hsep : isWord sep = false) (s : List Char) :
    limitsFrom [] (w ++ sep :: s) = limitAt w (sep :: s) ++ limitsFrom [] s := by
  rw [limitsFrom_word_append hw, List.nil_append, limitsFrom_cons_sep hsep]

theorem limitAt_eq_nil_iff {w rest : List Char} : limitAt w rest = [] ↔ ¬LimitWord w := by
  unfold limitAt
  split
  · rename_i h
    simp [h]
  · rename_i h
    simp [h]

/-- The row limits of a query with quoted names are those names that are row limit keywords. -/
theorem hasRowLimit_selectFrom_iff {column table : List Char} (hcolumn : IsName column)
    (htable : IsName table) :
    hasRowLimit (selectFrom column table) = true ↔ LimitWord column ∨ LimitWord table := by
  have hquote : isWord '"' = false := by decide
  have hnil : limitsFrom [] [] = [] := by decide
  have hlimits : ∀ x y : List Char, limitsFrom [] x = [] → limitsFrom [] y = [] →
      limitsFrom [] (x ++ '"' :: (column ++ '"' :: (y ++ '"' :: (table ++ ['"'])))) =
        limitAt column ('"' :: (y ++ '"' :: (table ++ ['"']))) ++ limitAt table ['"'] := by
    intro x y hx hy
    rw [limitsFrom_of_nil hquote hx, limitsFrom_word_sep hcolumn.isWord hquote,
      limitsFrom_of_nil hquote hy, limitsFrom_word_sep htable.isWord hquote, hnil, List.append_nil]
  have hselect : limitsFrom [] (selectFrom column table) =
      limitAt column ('"' :: (" FROM ".toList ++ '"' :: (table ++ ['"']))) ++ limitAt table ['"'] :=
    hlimits "SELECT ".toList " FROM ".toList (by decide) (by decide)
  rw [hasRowLimit_iff, hselect, ne_eq, List.append_eq_nil_iff, limitAt_eq_nil_iff,
    limitAt_eq_nil_iff, not_and_or, not_not, not_not]

end SqlDialect.Query

namespace SqlDialect

open Query Scan Text

/-! ## Translation -/

/-- A comparison has a sign of its own. -/
theorem absent_flagComparison_of_not_mem {s : List Char} (h : '=' ∉ s) (columns : BooleanColumns)
    (digit : Char) : Absent (flagComparison columns digit) s := by
  refine absent_of_reads (flagComparison_reads columns digit) ?_
  rintro before x _ _ rest rfl ⟨-, -, -⟩
  simp at h

theorem absent_newidCall_of_not_mem {s : List Char} (h : '(' ∉ s) : Absent newidCall s := by
  refine absent_of_reads newidCall_reads ?_
  rintro before x _ _ rest rfl ⟨-, -, -, -⟩
  simp at h

/-- Without parentheses, single quotes and comparisons most rules have nothing to do. -/
theorem Rule.apply_eq_self_of_signs {rule : Rule}
    (hrule : rule ∉ [.bracketedNames, .fetchClauses, .selectTop]) {s : List Char}
    (hsigns : Lacks ruleSigns s) (whole : List Char) : rule.apply whole s = s := by
  have hiff : rule.apply whole s = s ↔ ¬rule.Applies s :=
    apply_eq_self_iff (fun h => hrule (by simp [h])) whole s
  have hparen : '(' ∉ s := hsigns '(' (by decide)
  have hequals : '=' ∉ s := hsigns '=' (by decide)
  cases rule with
  | tableHints | dateCalls | scalarCalls =>
    have hopens : Opens 'x' s := fun a b hs => absurd (hs ▸ by simp) hparen
    exact Rule.apply_eq_self_of_no_call (by simp) hopens (by decide) whole
  | bracketedNames | fetchClauses | selectTop => simp at hrule
  | randomCalls => exact hiff.2 (absent_newidCall_of_not_mem hparen).not_readable
  | literalSums => exact hiff.2 (absent_literalSum (hsigns '\'' (by decide))).not_readable
  | booleanColumns columns =>
    rw [hiff]
    rintro (h | h)
    · exact (absent_flagComparison_of_not_mem hequals columns '1').not_readable h
    · exact (absent_flagComparison_of_not_mem hequals columns '0').not_readable h

/-- Hence the rules behind the one for `TOP` keep such a text. -/
theorem runRules_back_of_signs {s : List Char} (hsigns : Lacks ruleSigns s)
    (columns : BooleanColumns) (whole : List Char) :
    (Pipeline.runRules whole (backRules columns) s).1 = s := by
  have hothers : ∀ rule ∈ backRules columns,
      rule ∉ [.bracketedNames, .fetchClauses, .selectTop] := by
    simp [backRules]
  refine Pipeline.runRules_induction (P := fun t => t = s) ?_ rfl
  rintro rule hrule t rfl
  exact Rule.apply_eq_self_of_signs (hothers rule hrule) hsigns whole

section

variable {n column table : List Char} (hn : Digits n) (hcolumn : IsName column)
  (htable : IsName table)

include hcolumn htable

theorem lacks_selectFrom : Lacks ruleSigns (selectFrom column table) := by
  have hselect : Lacks ruleSigns "SELECT ".toList := by decide
  exact hselect.append (lacks_fromTable (by decide) (by decide) hcolumn htable)

include hn

theorem lacks_topSelect_fromTable {l r : Char} (hl : l ∈ nameSigns) (hr : r ∈ nameSigns) :
    Lacks ruleSigns (topSelect n (fromTable l r column table)) := by
  have hselect : Lacks ruleSigns "SELECT TOP ".toList := by decide
  have hspace : Lacks ruleSigns [' '] := by decide
  have hdigits : Lacks ruleSigns n := lacks_of_forall (by decide) hn.2
  exact hselect.append (hdigits.append (hspace.append (lacks_fromTable hl hr hcolumn htable)))

/-- The rules before the one for `TOP` only put the names between double quotes. -/
theorem runRules_front_fromTable (whole : List Char) :
    (Pipeline.runRules whole frontRules (topSelect n (fromTable '[' ']' column table))).1 =
      topSelect n (fromTable '"' '"' column table) := by
  have hcut : ∀ l r, topSelect n (fromTable l r column table) =
      topSelect n [] ++ fromTable l r column table := fun l r => topSelect_append n [] _
  have hbracket : '[' ∉ topSelect n [] := plain_topSelect hn (by decide) '[' (by decide)
  have hquoted : quoteBracketedNames (topSelect n (fromTable '[' ']' column table)) =
      topSelect n (fromTable '"' '"' column table) := by
    rw [hcut, hcut, quoteBracketedNames_fromTable hbracket hcolumn htable]
  have hfetch : limitFetchClauses (topSelect n (fromTable '"' '"' column table)) =
      topSelect n (fromTable '"' '"' column table) := by
    have hrule : Rule.fetchClauses ≠ .selectTop := by simp
    refine (apply_eq_self_iff hrule [] _).2 (Absent.not_readable ?_)
    rw [hcut]
    exact absent_fetchClause_fromTable (by decide) (by decide) hcolumn htable
      (not_mentions_topSelect hn (by decide))
  simp only [frontRules, Pipeline.runRules_cons_fst]
  rw [Rule.apply_eq_self_of_signs (by simp)
    (lacks_topSelect_fromTable hn hcolumn htable (by decide) (by decide))]
  change limitFetchClauses (Rule.randomCalls.apply _ (quoteBracketedNames _)) = _
  rw [hquoted, Rule.apply_eq_self_of_signs (by simp)
    (lacks_topSelect_fromTable hn hcolumn htable (by decide) (by decide)), hfetch]

/-- The rule for `TOP` adds the limit if no name is taken for one. -/
theorem limitTop_fromTable :
    limitTop (topSelect n (fromTable '[' ']' column table))
        (topSelect n (fromTable '"' '"' column table)) =
      if LimitWord column ∨ LimitWord table then selectFrom column table
      else selectFrom column table ++ limitClause n := by
  have hcount : topCount? (topSelect n (fromTable '[' ']' column table)) = some n :=
    (stripTop_topSelect hn (skipBlanks_fromTable (by decide))
      (absent_selectTop_fromTable (by decide) (by decide) hcolumn htable)).1
  have hstrip : stripTop (topSelect n (fromTable '"' '"' column table)) = selectFrom column table :=
    (stripTop_topSelect hn (skipBlanks_fromTable (by decide))
      (absent_selectTop_fromTable (by decide) (by decide) hcolumn htable)).2
  have hsign := lacks_selectFrom hcolumn htable
  unfold limitTop
  simp only [hcount, hstrip]
  by_cases h : LimitWord column ∨ LimitWord table
  · rw [if_pos ((hasRowLimit_selectFrom_iff hcolumn htable).2 h), if_pos h]
  · rw [if_neg (mt (hasRowLimit_selectFrom_iff hcolumn htable).1 h), if_neg h,
      insertBeforeTail_of_not_mem (hsign ';' (by decide)) (hsign '-' (by decide))]

/-- The standard rules on a query for the first rows of a table. -/
theorem runRules_fromTable (columns : BooleanColumns) :
    (Pipeline.runRules (topSelect n (fromTable '[' ']' column table))
        (Pipeline.standard (some columns)).rules
        (topSelect n (fromTable '[' ']' column table))).1 =
      if LimitWord column ∨ LimitWord table then selectFrom column table
      else selectFrom column table ++ limitClause n := by
  have hsign := lacks_selectFrom hcolumn htable
  have hclause : Lacks ruleSigns (limitClause n) := by
    have hword : Lacks ruleSigns " LIMIT ".toList := by decide
    exact hword.append (lacks_of_forall (by decide) hn.2)
  rw [rules_standard, Pipeline.runRules_append, Pipeline.runRules_cons_fst,
    runRules_front_fromTable hn hcolumn htable]
  change (Pipeline.runRules _ _ (limitTop _ _)).1 = _
  rw [limitTop_fromTable hn hcolumn htable]
  split
  · exact runRules_back_of_signs hsign columns _
  · exact runRules_back_of_signs (hsign.append hclause) columns _

end

/-- **The first rows of a table.** For every count that is not negative and all names, the query
with `TOP` and brackets becomes the one with `LIMIT` and double quotes, unless a name reads `OFFSET`
or `LIMIT` in some letter case: then no limit is added. -/
theorem translate_top_names (count : Int) (hcount : 0 ≤ count) (column table : String)
    (hcolumn : IsName column.toList) (htable : IsName table.toList) :
    translate ("SELECT TOP " ++ toString count ++ " [" ++ column ++ "] FROM [" ++ table ++ "]") =
      if LimitWord column.toList ∨ LimitWord table.toList then
        "SELECT \"" ++ column ++ "\" FROM \"" ++ table ++ "\""
      else
        "SELECT \"" ++ column ++ "\" FROM \"" ++ table ++ "\"" ++ " LIMIT " ++ toString count := by
  have hsource : ("SELECT TOP " ++ toString count ++ " [" ++ column ++ "] FROM [" ++ table ++
      "]").toList =
      topSelect (toString count).toList (fromTable '[' ']' column.toList table.toList) := by
    unfold topSelect fromTable
    simp
  have htarget : ("SELECT \"" ++ column ++ "\" FROM \"" ++ table ++ "\"").toList =
      selectFrom column.toList table.toList := by
    unfold selectFrom fromTable
    simp
  have hlimit : (" LIMIT " ++ toString count).toList = limitClause (toString count).toList :=
    String.toList_append
  rw [translate, Translator.translate_eq, Pipeline.translate, Pipeline.run_text, hsource]
  refine (congrArg String.ofList
    (runRules_fromTable (digits_toString hcount) hcolumn htable .standard)).trans ?_
  rw [← htarget, ← hlimit, ← String.toList_append, ← String.append_assoc]
  split
  · exact String.ofList_toList
  · exact String.ofList_toList

theorem translate_top_names_keywords :
    translate "SELECT TOP 5 [top_limit] FROM [select]" =
      "SELECT \"top_limit\" FROM \"select\" LIMIT 5" := by
  have hwords : ¬(LimitWord "top_limit".toList ∨ LimitWord "select".toList) := by decide
  have h := translate_top_names 5 (by decide) "top_limit" "select" ⟨by decide, by decide⟩
    ⟨by decide, by decide⟩
  rw [if_neg hwords] at h
  exact h

/-- A column with the name of the clause takes the limit away. -/
theorem translate_top_limit_column :
    (IsName "limit".toList ∧ IsName "t".toList) ∧
      translate "SELECT TOP 5 [limit] FROM [t]" = "SELECT \"limit\" FROM \"t\"" ∧
      "SELECT \"limit\" FROM \"t\"" ≠ "SELECT \"limit\" FROM \"t\" LIMIT 5" :=
  ⟨⟨⟨by decide, by decide⟩, by decide, by decide⟩, by decide +kernel, by decide⟩

end SqlDialect
