import SqlDialect.Clause
import SqlDialect.Proofs.Absence

/-!
# Queries put together from clauses

The clauses of `Clause` can be put together to a query for the first rows in random order, in the
dialect with `TOP` or in one with `LIMIT`. Translating the first query gives the second one.

* `stripTop_topSelect` — what the rule for `TOP` finds and leaves when a single `SELECT TOP n`
  stands at the start of a query.
* `renameRandomCalls_append` — a random call at the end of a query is renamed.
* `SelectBody` — the text that may stand between `SELECT` and the order.
* `runRules_standard` — the standard rules on a query with a count and a random order.
* `translate_assembled` — translation and the clauses of the other dialect agree.
-/

namespace SqlDialect.Query

open Scan Text

/-! ## The first rows -/

theorem digits?_append {n : List Char} {c : Char} (hn : Digits n) (hc : isDigit c = false)
    (s : List Char) : digits? (n ++ c :: s) = some (n, c :: s) := by
  have hc' : ¬isDigit c = true := by simp [hc]
  have htake : (n ++ c :: s).takeWhile isDigit = n := by
    rw [List.takeWhile_append_of_pos hn.2, List.takeWhile_cons_of_neg hc', List.append_nil]
  have hdrop : (n ++ c :: s).dropWhile isDigit = c :: s := by
    rw [List.dropWhile_append_of_pos hn.2, List.dropWhile_cons_of_neg hc']
  unfold digits?
  rw [htake, hdrop]
  cases n with
  | nil => exact absurd rfl hn.1
  | cons d n => rfl

/-- A bare count with one space behind it. -/
theorem topRows?_append {n s : List Char} (hn : Digits n) (hs : skipBlanks s = s) :
    topRows? (n ++ ' ' :: s) = some (n, s) := by
  have hopen : symbol? '(' (n ++ ' ' :: s) = none := by
    cases n with
    | nil => exact absurd rfl hn.1
    | cons d n =>
      have hd := hn.2 d List.mem_cons_self
      have hne : d ≠ '(' := by
        rintro rfl
        revert hd
        decide
      rw [List.cons_append, symbol?, if_neg hne]
  have hblank : skipBlanks1? (' ' :: s) = some s := by
    rw [skipBlanks1?, if_pos (by decide), hs]
  unfold topRows?
  rw [hopen]
  simp only [digits?_append hn (show isDigit ' ' = false by decide), hblank, Option.bind_eq_bind,
    Option.bind_some, Option.pure_def]

theorem skipBlanks_of_digits {n : List Char} (hn : Digits n) (s : List Char) :
    skipBlanks (n ++ s) = n ++ s := by
  cases n with
  | nil => exact absurd rfl hn.1
  | cons d n =>
    have hword := isWord_of_isDigit (hn.2 d List.mem_cons_self)
    have hblank : ¬isBlank d = true := by
      intro hb
      rw [isWord_of_isBlank hb] at hword
      cases hword
    rw [List.cons_append, skipBlanks, List.dropWhile_cons_of_neg hblank]

/-- `SELECT TOP n` and what follows it. -/
def topSelect (n s : List Char) : List Char :=
  "SELECT".toList ++ ' ' :: ("TOP".toList ++ ' ' :: (n ++ ' ' :: s))

theorem topSelect_append (n s t : List Char) : topSelect n (s ++ t) = topSelect n s ++ t := by
  unfold topSelect
  generalize "SELECT".toList = select, "TOP".toList = top
  simp

/-- `SELECT TOP n` is read where it stands. -/
theorem selectTop_eq_some (before : Option Char) (hbefore : atWordStart before = true)
    {n s : List Char} (hn : Digits n) (hs : skipBlanks s = s) :
    selectTop before (topSelect n s) = some (⟨[], n⟩, s) := by
  have hguard : (guard (atWordStart before = true) : Option Unit) = some () :=
    guard_eq_some.2 hbefore
  have hselect : ∀ r, keyword? "select".toList ("SELECT".toList ++ r) = some r := fun r =>
    dropFolded?_append r (by decide)
  have htop : ∀ r, keyword? "top".toList ("TOP".toList ++ r) = some r := fun r =>
    dropFolded?_append r (by decide)
  have hblank : ∀ r, skipBlanks1? (' ' :: ("TOP".toList ++ r)) = some ("TOP".toList ++ r) := by
    intro r
    rw [skipBlanks1?, if_pos (by decide)]
    exact congrArg some (List.dropWhile_cons_of_neg (by decide))
  have hdistinct : ∀ r, distinctWord ("TOP".toList ++ r) = ([], "TOP".toList ++ r) := by
    intro r
    unfold distinctWord
    rw [keyword?_eq_none "distinct" (by decide) (htop r)]
    rfl
  have hspace : skipBlanks (' ' :: (n ++ ' ' :: s)) = n ++ ' ' :: s :=
    (List.dropWhile_cons_of_pos (by decide)).trans (skipBlanks_of_digits hn _)
  refine Option.bind_eq_some_iff.2 ⟨(), hguard, ?_⟩
  refine Option.bind_eq_some_iff.2 ⟨_, hselect _, ?_⟩
  refine Option.bind_eq_some_iff.2 ⟨_, hblank _, ?_⟩
  rw [hdistinct]
  refine Option.bind_eq_some_iff.2 ⟨_, htop _, ?_⟩
  rw [hspace]
  exact Option.bind_eq_some_iff.2 ⟨(n, s), topRows?_append hn hs, rfl⟩

/-- A text with one `SELECT TOP n` at its start: the count is that of the text, and what is left is
the text without it. -/
theorem stripTop_topSelect {n s : List Char} (hn : Digits n) (hs : skipBlanks s = s)
    (habsent : Absent selectTop s) :
    topCount? (topSelect n s) = some n ∧ stripTop (topSelect n s) = "SELECT ".toList ++ s := by
  have hcut : topSelect n s = topSelect n [] ++ s := topSelect_append n [] s
  have hne : topSelect n [] ≠ [] := List.append_ne_nil_of_right_ne_nil _ (List.cons_ne_nil _ _)
  have hread : selectTop none (topSelect n [] ++ s) = some (⟨[], n⟩, s) := by
    rw [← hcut]
    exact selectTop_eq_some none rfl hn hs
  obtain ⟨hhits, htext⟩ := piecesFrom_hit_absent hne hread habsent SelectTop.bare
  rw [hcut]
  constructor
  · unfold topCount? first? hits pieces
    rw [hhits]
    rfl
  · have hbare : SelectTop.bare ⟨[], n⟩ = "SELECT ".toList := List.append_nil _
    rw [hbare] at htext
    exact htext

/-! ## The random call -/

/-- In front of a random call at the end of a text there is room for no other one. -/
theorem newidCall_eq_none {c : Char} {s : List Char} (hs : '(' ∉ c :: s) (before : Option Char) :
    newidCall before (c :: s ++ "NEWID()".toList) = none := by
  cases hread : newidCall before (c :: s ++ "NEWID()".toList) with
  | none => rfl
  | some r =>
    obtain ⟨_, rest⟩ := r
    obtain ⟨_, -, heq, -, @⟨word, b₁, b₂, hword, hb₁, -⟩⟩ := newidCall_reads _ _ _ _ hread
    have hname : '(' ∉ "NEWI".toList := by decide
    have hfront : '(' ∉ c :: s ++ "NEWI".toList := by
      rw [List.mem_append]
      exact fun h => h.elim hs hname
    have hopens : Opens 'D' (c :: s ++ "NEWI".toList ++ 'D' :: '(' :: [')']) :=
      opens_of_single (by decide) hfront (by decide)
    have hsplit : c :: s ++ "NEWI".toList ++ 'D' :: '(' :: [')'] =
        [] ++ word ++ b₁ ++ '(' :: (b₂ ++ ')' :: rest) := by
      have hcall : "NEWID()".toList = "NEWI".toList ++ 'D' :: '(' :: [')'] := by decide
      rw [hcall] at heq
      simpa using heq
    obtain rfl := hopens.blanks_eq_nil (by decide) hb₁ hsplit
    -- the name would have to reach from the front of the text to the parenthesis
    have hfront' : '(' ∉ c :: s ++ "NEWI".toList ++ ['D'] := by simpa using hfront
    have hcut : c :: s ++ "NEWI".toList ++ ['D'] ++ '(' :: [')'] =
        word ++ '(' :: (b₂ ++ ')' :: rest) := by simpa using hsplit
    obtain ⟨rfl, -, -⟩ := (List.append_cons_inj_of_notMem hfront' (by decide)).1 hcut
    have hlength := congrArg List.length hword
    simp at hlength

/-- A random call at the end of a text without other parentheses is renamed. -/
theorem renameRandomCalls_append {s : List Char} (hs : '(' ∉ s)
    (hstart : atWordStart s.getLast? = true) :
    renameRandomCalls (s ++ "NEWID()".toList) = s ++ "RANDOM()".toList := by
  have hmiss : ∀ x c y, s = x ++ c :: y →
      newidCall x.getLast? (c :: y ++ "NEWID()".toList) = none := by
    intro x c y hxy
    refine newidCall_eq_none (fun hmem => hs ?_) _
    rw [hxy]
    exact List.mem_append_right x hmem
  have hguard : (guard (atWordStart s.getLast? = true) : Option Unit) = some () :=
    guard_eq_some.2 hstart
  have hread : newidCall s.getLast? ("NEWID()".toList ++ []) = some ((), []) := by
    unfold newidCall
    rw [hguard]
    decide
  have hnone : Absent newidCall [] := by
    refine absent_of_reads newidCall_reads ?_
    rintro before x _ _ rest hnil ⟨-, hword, -, -⟩
    simp at hnil
  have hwrite := (piecesFrom_hit_absent (by decide) hread hnone fun _ => "RANDOM()".toList).2
  rw [List.append_nil, List.append_nil] at hwrite
  rw [renameRandomCalls, replaceAll_append _ hmiss, hwrite]

/-! ## The limit -/

/-- A tail has a terminator or a dash. -/
theorem mem_of_isTail {s : List Char} (h : isTail s = true) : ';' ∈ s ∨ '-' ∈ s := by
  induction s with
  | nil => cases h
  | cons c s ih =>
    simp only [isTail_cons, Bool.or_eq_true, Bool.and_eq_true, beq_iff_eq] at h
    rcases h with (⟨rfl, -⟩ | ⟨rfl, -⟩) | ⟨-, h⟩
    · exact .inr List.mem_cons_self
    · exact .inl List.mem_cons_self
    · exact (ih h).imp (List.mem_cons_of_mem c) (List.mem_cons_of_mem c)

/-- A clause is put at the end of a text without a tail. -/
theorem insertBeforeTail_of_not_mem {s : List Char} (hsemicolon : ';' ∉ s) (hdash : '-' ∉ s)
    (clause : List Char) : insertBeforeTail s clause = s ++ clause := by
  have hall := splitTail_append s
  have htail : (splitTail s).2 = [] := by
    refine (splitTail_snd s).resolve_right fun h => ?_
    have hmem : ∀ c ∈ (splitTail s).2, c ∈ s := by
      intro c hc
      rw [← hall]
      exact List.mem_append_right _ hc
    rcases mem_of_isTail h with h | h
    · exact hsemicolon (hmem _ h)
    · exact hdash (hmem _ h)
  rw [htail, List.append_nil] at hall
  rw [insertBeforeTail, hall, htail, List.append_nil]

theorem toList_limit (count : Int) :
    (s!" LIMIT {count}").toList = limitClause (toString count).toList := String.toList_append

/-- The words that limit rows, in one dialect or the other. -/
def limitWords : List String := ["top", "offset", "limit"]

/-- ASCII letters, digits, the space and the signs of lists and names. -/
def isBodyChar (c : Char) : Bool := c.isAlphanum || [' ', ',', '.', '*', '_'].contains c

/-- What may stand between `SELECT` and the order: a text of such characters, not empty, that starts
with something other than a space and nowhere mentions a word that limits rows. -/
structure SelectBody (s : List Char) : Prop where
  ne_nil : s ≠ []
  chars : ∀ c ∈ s, isBodyChar c = true
  head_ne : s.head? ≠ some ' '
  words : ∀ word ∈ limitWords, ¬Mentions word s

namespace SelectBody

variable {s : List Char}

theorem plain (h : SelectBody s) : Plain s := lacks_of_forall (by decide) h.chars

/-- The only blank of such a text is the space, so none stands at its start. -/
theorem skipBlanks_append (h : SelectBody s) (t : List Char) : skipBlanks (s ++ t) = s ++ t := by
  have hblanks : ∀ c ∈ rangeChars blankRanges, (c == ' ' || !isBodyChar c) = true :=
    List.all_eq_true.1 (by decide)
  cases s with
  | nil => exact absurd rfl h.ne_nil
  | cons c s =>
    have hblank : ¬isBlank c = true := by
      intro hc
      have hspace := hblanks c (mem_rangeChars hc)
      rw [h.chars c List.mem_cons_self, Bool.not_true, Bool.or_false, beq_iff_eq] at hspace
      exact h.head_ne (congrArg some hspace)
    rw [List.cons_append, skipBlanks, List.dropWhile_cons_of_neg hblank]

end SelectBody

/-- A count in decimal digits. -/
theorem digits_toString {count : Int} (h : 0 ≤ count) : Digits (toString count).toList := by
  obtain ⟨k, rfl⟩ := Int.eq_ofNat_of_zero_le h
  have hdigits : (toString (k : Int)).toList = Nat.toDigits 10 k := Nat.toList_repr
  rw [hdigits]
  refine ⟨Nat.toDigits_ne_nil, fun c hc => isDigit_of_ascii ?_⟩
  exact Nat.isDigit_of_mem_toDigits (by decide) (by decide) hc

/-! ## The query -/

theorem plain_topSelect {n s : List Char} (hn : Digits n) (hs : Plain s) :
    Plain (topSelect n s) := by
  have hspace : ∀ t : List Char, Plain t → Plain (' ' :: t) := fun t =>
    Plain.append (s := [' ']) (by decide)
  have hcount : Plain (' ' :: (n ++ ' ' :: s)) := hspace _ (hn.plain.append (hspace _ hs))
  exact Plain.append (by decide) (hspace _ (Plain.append (by decide) hcount))

/-- No fetch clause comes up with the words before the body. -/
theorem not_mentions_topSelect {n s : List Char} (hn : Digits n) (hs : ¬Mentions "offset" s) :
    ¬Mentions "offset" (topSelect n s) := by
  have hspace : ' ' ∉ "offset".toList.map fold := by decide
  -- cut at the spaces: neither the two words nor the count have it
  refine not_mentions_append_space hspace (by decide) ?_
  refine not_mentions_append_space hspace (by decide) ?_
  exact not_mentions_append_space hspace (hn.not_mentions (by decide)) hs

/-- A body with its order. -/
def ordered (body call : List Char) : List Char := body ++ ' ' :: ("ORDER BY ".toList ++ call)

theorem ordered_append (body s t : List Char) : ordered body (s ++ t) = ordered body s ++ t := by
  simp only [ordered, List.append_assoc, List.cons_append]

theorem SelectBody.plain_ordered {body call : List Char} (h : SelectBody body)
    (hcall : Plain call) : Plain (ordered body call) := by
  have horder : Plain (' ' :: "ORDER BY ".toList) := by decide
  exact h.plain.append (horder.append hcall)

/-- The random calls of the two dialects. -/
def randomCallTexts : List (List Char) := ["NEWID()".toList, "RANDOM()".toList]

/-- With a random order behind it the body still mentions none of the words. -/
theorem SelectBody.not_mentions_ordered {body call : List Char} (h : SelectBody body)
    (hcall : call ∈ randomCallTexts) : ∀ word ∈ limitWords, ¬Mentions word (ordered body call) := by
  have horder : ∀ call ∈ randomCallTexts, ∀ word ∈ limitWords,
      ' ' ∉ word.toList.map fold ∧ ¬Mentions word ("ORDER BY ".toList ++ call) := by decide
  intro word hword
  obtain ⟨hspace, hnot⟩ := horder call hcall word hword
  exact not_mentions_append_space hspace (h.words word hword) hnot

/-- The body in random order, as the dialect with `LIMIT` has it. -/
def shuffled (body : List Char) : List Char := ordered body "RANDOM()".toList

/-- Without a count the query in random order has no row limit. -/
theorem SelectBody.hasRowLimit_shuffled {body : List Char} (h : SelectBody body) :
    hasRowLimit ("SELECT ".toList ++ shuffled body) = false := by
  have hselect : ∀ word ∈ limitWords,
      ' ' ∉ word.toList.map fold ∧ ¬Mentions word "SELECT".toList := by decide
  have hcut : "SELECT ".toList ++ shuffled body = "SELECT".toList ++ ' ' :: shuffled body := rfl
  have hwords : ∀ word ∈ limitWords, ¬Mentions word ("SELECT".toList ++ ' ' :: shuffled body) := by
    intro word hword
    obtain ⟨hspace, hnot⟩ := hselect word hword
    exact not_mentions_append_space hspace hnot (h.not_mentions_ordered (by decide) word hword)
  rw [hcut]
  exact (absent_rowLimit (hwords "offset" (by decide)) (hwords "limit" (by decide))).occurs_eq_false

/-- The query in random order has no tail. -/
theorem SelectBody.insertBeforeTail_shuffled {body : List Char} (h : SelectBody body)
    (clause : List Char) :
    insertBeforeTail ("SELECT ".toList ++ shuffled body) clause =
      "SELECT ".toList ++ shuffled body ++ clause := by
  have hcut : "SELECT ".toList ++ shuffled body =
      "SELECT ".toList ++ ordered body "RANDOM".toList ++ "()".toList := by
    rw [List.append_assoc, ← ordered_append]
    rfl
  have hplain : Plain ("SELECT ".toList ++ ordered body "RANDOM".toList) :=
    Plain.append (by decide) (h.plain_ordered (by decide))
  have hsign : ∀ sign ∈ markSigns, sign ∉ "()".toList →
      sign ∉ "SELECT ".toList ++ shuffled body := by
    intro sign hsign hparen hmem
    rw [hcut] at hmem
    exact (List.mem_append.1 hmem).elim (hplain sign hsign) hparen
  exact insertBeforeTail_of_not_mem (hsign ';' (by decide) (by decide))
    (hsign '-' (by decide) (by decide)) clause

/-! ## Translation -/

theorem topSelect_ordered (n body call : List Char) :
    topSelect n (ordered body call) = topSelect n (ordered body []) ++ call := by
  rw [← topSelect_append, ← ordered_append, List.nil_append]

theorem SelectBody.plain_topSelect_ordered {n body : List Char} (h : SelectBody body)
    (hn : Digits n) : Plain (topSelect n (ordered body [])) :=
  plain_topSelect hn (h.plain_ordered (by decide))

/-- Most rules have nothing to do on the query in random order. -/
theorem SelectBody.apply_newid {n body : List Char} (h : SelectBody body) (hn : Digits n)
    {rule : Rule} (hrule : rule ∉ [.randomCalls, .fetchClauses, .selectTop]) (whole : List Char) :
    rule.apply whole (topSelect n (ordered body "NEWID()".toList)) =
      topSelect n (ordered body "NEWID()".toList) := by
  have hcall : topSelect n (ordered body "NEWID()".toList) =
      topSelect n (ordered body []) ++ "NEWI".toList ++ 'D' :: "()".toList ++ [] := by
    rw [topSelect_ordered, List.append_nil, List.append_assoc]
    rfl
  have hfront : Plain (topSelect n (ordered body []) ++ "NEWI".toList) :=
    (h.plain_topSelect_ordered hn).append (by decide)
  rw [hcall]
  exact Rule.apply_eq_self_of_plain hrule hfront (by decide) (by decide) whole

theorem SelectBody.renameRandomCalls_newid {n body : List Char} (h : SelectBody body)
    (hn : Digits n) :
    renameRandomCalls (topSelect n (ordered body "NEWID()".toList)) =
      topSelect n (shuffled body) := by
  have hspace : (topSelect n (ordered body [])).getLast? = some ' ' := by
    rw [ordered, topSelect_append, List.getLast?_append_of_ne_nil _ (List.cons_ne_nil _ _)]
    decide
  have hstart : atWordStart (topSelect n (ordered body [])).getLast? = true := by
    rw [hspace]
    decide
  unfold shuffled
  rw [topSelect_ordered n body "NEWID()".toList, topSelect_ordered n body "RANDOM()".toList]
  exact renameRandomCalls_append (h.plain_topSelect_ordered hn '(' (by decide)) hstart

theorem SelectBody.limitFetchClauses_shuffled {n body : List Char} (h : SelectBody body)
    (hn : Digits n) :
    limitFetchClauses (topSelect n (shuffled body)) = topSelect n (shuffled body) := by
  have hwords : ∀ word ∈ limitWords, ¬Mentions word (shuffled body) :=
    h.not_mentions_ordered (by decide)
  have hoffset := not_mentions_topSelect hn (hwords "offset" (by decide))
  have hrule : Rule.fetchClauses ≠ .selectTop := nofun
  exact (apply_eq_self_iff hrule [] _).2 (absent_fetchClause hoffset).not_readable

/-- The rules before the one for `TOP` only rename the random call. -/
theorem runRules_front {n body : List Char} (hn : Digits n) (hbody : SelectBody body)
    (whole : List Char) :
    (Pipeline.runRules whole frontRules (topSelect n (ordered body "NEWID()".toList))).1 =
      topSelect n (shuffled body) := by
  have hhints : Rule.tableHints ∉ [.randomCalls, .fetchClauses, .selectTop] := by simp
  have hnames : Rule.bracketedNames ∉ [.randomCalls, .fetchClauses, .selectTop] := by simp
  simp only [frontRules, Pipeline.runRules_cons_fst]
  rw [hbody.apply_newid hn hhints, hbody.apply_newid hn hnames]
  change limitFetchClauses (renameRandomCalls _) = _
  rw [hbody.renameRandomCalls_newid hn, hbody.limitFetchClauses_shuffled hn]

/-- The rule for `TOP` puts the limit at the end. -/
theorem limitTop_shuffled {n body : List Char} (hn : Digits n) (hbody : SelectBody body) :
    limitTop (topSelect n (ordered body "NEWID()".toList)) (topSelect n (shuffled body)) =
      "SELECT ".toList ++ shuffled body ++ limitClause n := by
  have hstrip : ∀ call ∈ randomCallTexts,
      topCount? (topSelect n (ordered body call)) = some n ∧
        stripTop (topSelect n (ordered body call)) = "SELECT ".toList ++ ordered body call := by
    intro call hcall
    have habsent := absent_selectTop (hbody.not_mentions_ordered hcall "top" (by decide))
    exact stripTop_topSelect hn (hbody.skipBlanks_append _) habsent
  have hcount := (hstrip "NEWID()".toList (by decide)).1
  have hselect : stripTop (topSelect n (shuffled body)) = "SELECT ".toList ++ shuffled body :=
    (hstrip "RANDOM()".toList (by decide)).2
  unfold limitTop
  simp only [hcount, hselect, hbody.hasRowLimit_shuffled, Bool.false_eq_true, if_false]
  exact hbody.insertBeforeTail_shuffled _

/-- The rules behind the one for `TOP` leave the query alone. -/
theorem runRules_back {n body : List Char} (hn : Digits n) (hbody : SelectBody body)
    (columns : BooleanColumns) (whole : List Char) :
    (Pipeline.runRules whole (backRules columns)
        ("SELECT ".toList ++ shuffled body ++ limitClause n)).1 =
      "SELECT ".toList ++ shuffled body ++ limitClause n := by
  have hfront : Plain ("SELECT ".toList ++ ordered body "RANDO".toList) :=
    Plain.append (by decide) (hbody.plain_ordered (by decide))
  have hlimit : Plain (limitClause n) := Plain.append (by decide) hn.plain
  have hcut : "SELECT ".toList ++ shuffled body ++ limitClause n =
      "SELECT ".toList ++ ordered body "RANDO".toList ++ 'M' :: "()".toList ++ limitClause n := by
    have hcall : shuffled body = ordered body "RANDO".toList ++ 'M' :: "()".toList :=
      ordered_append body "RANDO".toList ('M' :: "()".toList)
    rw [hcall, ← List.append_assoc]
  have hothers : ∀ rule ∈ backRules columns, rule ∉ [.randomCalls, .fetchClauses, .selectTop] := by
    simp [backRules]
  refine Pipeline.runRules_induction (P := fun t => t =
    "SELECT ".toList ++ shuffled body ++ limitClause n) ?_ rfl
  rintro rule hrule t rfl
  rw [hcut]
  exact Rule.apply_eq_self_of_plain (hothers rule hrule) hfront hlimit (by decide) whole

/-- All rules on the query with `TOP`. -/
theorem runRules_standard {n body : List Char} (hn : Digits n) (hbody : SelectBody body)
    (columns : BooleanColumns) :
    (Pipeline.runRules (topSelect n (ordered body "NEWID()".toList))
        (Pipeline.standard (some columns)).rules (topSelect n (ordered body "NEWID()".toList))).1 =
      "SELECT ".toList ++ shuffled body ++ limitClause n := by
  rw [rules_standard, Pipeline.runRules_append, Pipeline.runRules_cons_fst, runRules_front hn hbody]
  change (Pipeline.runRules _ _ (limitTop _ _)).1 = _
  rw [limitTop_shuffled hn hbody, runRules_back hn hbody]

/-- The clause for a limit at the end of the query without `TOP`. -/
theorem appendLimit_shuffled {d : Dialect} (hd : d.limitStyle = true) {body : List Char}
    (hbody : SelectBody body) {query : String}
    (hquery : query.toList = "SELECT ".toList ++ shuffled body) (count : Int) :
    Clause.appendLimit d query count =
      String.ofList ("SELECT ".toList ++ shuffled body ++ limitClause (toString count).toList) := by
  have hlimit : hasRowLimit query.toList = false := by
    rw [hquery]
    exact hbody.hasRowLimit_shuffled
  rw [← String.toList_inj, Clause.toList_appendLimit hd hlimit, hquery,
    hbody.insertBeforeTail_shuffled, toList_limit]
  exact String.toList_ofList.symm

end SqlDialect.Query

namespace SqlDialect

open Query Scan Text

/-- **Translation and the clauses agree.** Take a body of a query, as in `SelectBody`, and the
clauses for its first rows in random order. The query that they make with `TOP` translates to the
one that they make with `LIMIT`. -/
theorem translate_assembled (body : String) (hbody : SelectBody body.toList) (count : Int)
    (hcount : 0 ≤ count) :
    translate ("SELECT " ++ Clause.top (Dialect.resolve (some "sqlserver")) count ++ body ++
        " ORDER BY " ++ Clause.orderByRandom (Dialect.resolve (some "sqlserver")) false) =
      Clause.appendLimit (Dialect.resolve (some "postgres"))
        ("SELECT " ++ Clause.top (Dialect.resolve (some "postgres")) count ++ body ++
          " ORDER BY " ++ Clause.orderByRandom (Dialect.resolve (some "postgres")) false)
        count := by
  have hn := digits_toString hcount
  have hsource : ("SELECT " ++ Clause.top (Dialect.resolve (some "sqlserver")) count ++ body ++
      " ORDER BY " ++ Clause.orderByRandom (Dialect.resolve (some "sqlserver")) false).toList =
      topSelect (toString count).toList (ordered body.toList "NEWID()".toList) := by
    have htop : Clause.top (Dialect.resolve (some "sqlserver")) count =
        "TOP " ++ toString count ++ " " := rfl
    have hcall : Clause.orderByRandom (Dialect.resolve (some "sqlserver")) false = "NEWID()" := rfl
    rw [htop, hcall]
    unfold topSelect ordered
    simp
  have htarget : ("SELECT " ++ Clause.top (Dialect.resolve (some "postgres")) count ++ body ++
      " ORDER BY " ++ Clause.orderByRandom (Dialect.resolve (some "postgres")) false).toList =
      "SELECT ".toList ++ shuffled body.toList := by
    have htop : Clause.top (Dialect.resolve (some "postgres")) count = "" := rfl
    have hcall : Clause.orderByRandom (Dialect.resolve (some "postgres")) false = "RANDOM()" := rfl
    rw [htop, hcall]
    unfold shuffled ordered
    simp
  rw [translate, Translator.translate_eq, Pipeline.translate, Pipeline.run_text, hsource,
    appendLimit_shuffled rfl hbody htarget]
  exact congrArg String.ofList (runRules_standard hn hbody .standard)

theorem translate_assembled_users :
    translate "SELECT TOP 5 name, t.id FROM users t ORDER BY NEWID()" =
      "SELECT name, t.id FROM users t ORDER BY RANDOM() LIMIT 5" :=
  translate_assembled "name, t.id FROM users t"
    ⟨by decide, List.all_eq_true.1 (by decide), by decide, by decide⟩ 5 (by decide)

end SqlDialect
