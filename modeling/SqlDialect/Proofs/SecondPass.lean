import SqlDialect.Proofs.BooleanComparisons
import SqlDialect.Proofs.CallHeads
import SqlDialect.Proofs.Elimination
import SqlDialect.Proofs.LiteralGaps
import SqlDialect.Proofs.RowLimits
import SqlDialect.Proofs.Trailers

/-!
# What a rule leaves to a second pass

Three rules can leave a text to which they apply again: a hint that is left out, a `TOP` that goes,
a limit that is put in or a comparison that is written anew may make up a construct with the text
around it.

* `SelectTopText.selectTop_append`, `flagComparison_lasting` — what is read does not depend on what
  stands behind it.
* `readable_selectTop_limit_iff` — a limit before the tail of a statement keeps every `SELECT TOP`.
* `JoinsTop`, `JoinsOnes`, `JoinsZeros` — what the rules for `SELECT TOP` and for boolean columns
  join.
* `Rule.Rejoins`, `Rule.applies_apply_iff` — a rule applies to its own output exactly when it has
  joined a construct.
* `Rule.apply_apply_eq_iff` — so a second application changes nothing exactly when the first has
  joined nothing; `Rule.apply_apply_ne` has a text for each rule that does.
-/

namespace SqlDialect.Query

open Scan Text

/-! ## `SELECT TOP` -/

/-- A count is read, whatever stands behind it, and the blanks there with it. -/
theorem TopRowsText.topRows?_append {rows n : List Char} (h : TopRowsText rows n) (s : List Char) :
    topRows? (rows ++ s) = some (n, skipBlanks s) := by
  cases h with
  | @enclosed b₁ n b₂ b₃ hb₁ hn hb₂ hb₃ =>
    have hopen : symbol? '(' (['('] ++ b₁ ++ n ++ b₂ ++ [')'] ++ b₃ ++ s) =
        some (b₁ ++ (n ++ (b₂ ++ ')' :: (b₃ ++ s)))) := by simp
    have hskip : skipBlanks (b₁ ++ (n ++ (b₂ ++ ')' :: (b₃ ++ s)))) =
        n ++ (b₂ ++ ')' :: (b₃ ++ s)) := by
      rw [skipBlanks_append _ hb₁, skipBlanks_of_head (isBlank_head_digits hn _)]
    have hdigits : digits? (n ++ (b₂ ++ ')' :: (b₃ ++ s))) = some (n, b₂ ++ ')' :: (b₃ ++ s)) := by
      refine digits?_append_of_head hn fun c hc => ?_
      cases b₂ with
      | nil =>
        rw [← Option.some.inj hc]
        decide
      | cons d b₂ =>
        rw [← Option.some.inj hc]
        exact isDigit_of_isBlank (hb₂ d List.mem_cons_self)
    have hclose : symbol? ')' (skipBlanks (b₂ ++ ')' :: (b₃ ++ s))) = some (b₃ ++ s) := by
      rw [skipBlanks_append _ hb₂]
      exact symbol?_skipBlanks_cons (by decide) _
    unfold topRows?
    simp only [hopen, hskip, hdigits, hclose, Option.bind_eq_bind, Option.bind_some,
      Option.pure_def, skipBlanks_append s hb₃]
  | @bare n b hn hne hb =>
    obtain ⟨d, b, rfl⟩ := List.exists_cons_of_ne_nil hne
    have hopen : symbol? '(' (n ++ d :: b ++ s) = none := by
      obtain ⟨e, n, rfl⟩ := List.exists_cons_of_ne_nil hn.1
      refine if_neg ?_
      rintro rfl
      exact absurd (hn.2 _ List.mem_cons_self) (by decide)
    have hdigits : digits? (n ++ d :: b ++ s) = some (n, d :: (b ++ s)) := by
      rw [List.append_assoc]
      refine digits?_append_of_head hn fun c hc => ?_
      rw [← Option.some.inj hc]
      exact isDigit_of_isBlank (hb d List.mem_cons_self)
    have hskip : skipBlanks1? (d :: (b ++ s)) = some (skipBlanks s) := by
      rw [skipBlanks1?, if_pos (hb d List.mem_cons_self),
        skipBlanks_append s fun e he => hb e (List.mem_cons_of_mem d he)]
    unfold topRows?
    simp only [hopen, hdigits, hskip, Option.bind_eq_bind, Option.bind_some, Option.pure_def]

theorem isBlank_head_topRows {rows n : List Char} (h : TopRowsText rows n) (s : List Char) :
    ∀ c, (rows ++ s).head? = some c → isBlank c = false := by
  cases h with
  | enclosed _ _ _ _ =>
    intro c hc
    rw [← Option.some.inj hc]
    decide
  | bare hn _ _ =>
    rw [List.append_assoc]
    exact isBlank_head_digits hn _

/-- `DISTINCT` is read up to the word behind it. -/
theorem DistinctText.distinctWord_append {distinct top : List Char} (h : DistinctText distinct)
    (htop : Spells "top" top) (s : List Char) :
    distinctWord (distinct ++ (top ++ s)) = (distinct, top ++ s) := by
  have hrest : (distinctWord (distinct ++ (top ++ s))).2 = top ++ s := by
    unfold distinctWord
    rcases h with rfl | ⟨word, b, hword, hne, hb, rfl⟩
    · have hnone := keyword?_eq_none "distinct" (by decide) (keyword?_append htop s)
      rw [List.nil_append, hnone, Option.bind_none]
    · have hread : (keyword? "distinct".toList (word ++ b ++ (top ++ s))).bind skipBlanks1? =
          some (top ++ s) := by
        rw [List.append_assoc, keyword?_append hword, Option.bind_some]
        exact skipBlanks1?_append hne hb (isBlank_head_word htop (by decide) s)
      rw [hread]
  have hcut := (distinctWord_spec (distinct ++ (top ++ s))).2
  rw [hrest] at hcut
  exact Prod.ext (List.append_cancel_right hcut).symm hrest

theorem isBlank_head_distinct {distinct top : List Char} (h : DistinctText distinct)
    (htop : Spells "top" top) (s : List Char) :
    ∀ c, (distinct ++ (top ++ s)).head? = some c → isBlank c = false := by
  rcases h with rfl | ⟨word, b, hword, -, -, rfl⟩
  · exact isBlank_head_word htop (by decide) s
  · rw [List.append_assoc]
    exact isBlank_head_word hword (by decide) _

/-- A `SELECT TOP` is read at the start of a word, whatever stands behind it. -/
theorem SelectTopText.selectTop_append {text : List Char} {t : SelectTop} (h : SelectTopText text t)
    {before : Option Char} (hbefore : atWordStart before = true) (s : List Char) :
    selectTop before (text ++ s) = some (t, skipBlanks s) := by
  obtain @⟨select, b₁, distinct, top, b₂, rows, n, hselect, hne, hb₁, hdistinct, htop, hb₂,
    hrows⟩ := h
  have hguard : (guard (atWordStart before = true) : Option Unit) = some () :=
    guard_eq_some.2 hbefore
  have hskip := skipBlanks1?_append hne hb₁
    (isBlank_head_distinct hdistinct htop (b₂ ++ (rows ++ s)))
  have htopRows : skipBlanks (b₂ ++ (rows ++ s)) = rows ++ s := by
    rw [skipBlanks_append _ hb₂, skipBlanks_of_head (isBlank_head_topRows hrows s)]
  unfold selectTop
  simp only [List.append_assoc, hguard, keyword?_append hselect, hskip,
    hdistinct.distinctWord_append htop, keyword?_append htop, htopRows, hrows.topRows?_append,
    Option.bind_eq_bind, Option.bind_some, Option.pure_def]

theorem SelectTopText.isSome_selectTop {text : List Char} {t : SelectTop} (h : SelectTopText text t)
    {before : Option Char} (hbefore : atWordStart before = true) (s : List Char) :
    (selectTop before (text ++ s)).isSome = true := by
  rw [h.selectTop_append hbefore]
  rfl

theorem selectTop_lasting (write : SelectTop → List Char) : Lasting selectTop write := by
  intro before text t rest rest' hread _
  obtain ⟨-, hstart, htext⟩ := selectTop_reads.shape hread
  exact htext.isSome_selectTop hstart rest'

/-- Whether a `SELECT TOP` is read depends on the character before it only in one way. -/
theorem selectTop_congr {a b : Option Char} (h : atWordStart a = atWordStart b) (s : List Char) :
    selectTop a s = selectTop b s := by
  unfold selectTop
  rw [h]

theorem atWordStart_blanks {b : List Char} (hb : Blanks b) (hne : b ≠ []) (x : Option Char) :
    atWordStart (b.getLast?.or x) = true := by
  rw [List.getLast?_eq_some_getLast hne, Option.some_or]
  have hblank := isWord_of_isBlank (hb _ (List.getLast_mem hne))
  simp [atWordStart, hblank]

/-- A count ends with a blank or a parenthesis. -/
theorem TopRowsText.atWordStart {rows n : List Char} (h : TopRowsText rows n) (x : Option Char) :
    Text.atWordStart (rows.getLast?.or x) = true := by
  cases h with
  | @enclosed b₁ n b₂ b₃ _ _ _ hb₃ =>
    rw [List.getLast?_append, Option.or_assoc]
    by_cases hne : b₃ = []
    · subst hne
      rw [List.getLast?_nil, Option.none_or, List.getLast?_concat, Option.some_or]
      decide
    · exact atWordStart_blanks hb₃ hne _
  | @bare n b _ hne hb =>
    rw [List.getLast?_append, Option.or_assoc]
    exact atWordStart_blanks hb hne _

/-- A word can start behind a `SELECT TOP`, and behind what is left of it. -/
theorem SelectTopText.atWordStart {text : List Char} {t : SelectTop} (h : SelectTopText text t)
    (x : Option Char) : Text.atWordStart text.getLast? = true ∧
      Text.atWordStart (t.bare.getLast?.or x) = true := by
  obtain ⟨-, -, -, hdistinct, -, -, hrows⟩ := h
  constructor
  · rw [List.getLast?_append]
    exact hrows.atWordStart _
  · unfold SelectTop.bare
    rw [List.getLast?_append, Option.or_assoc]
    rcases hdistinct with rfl | ⟨word, b, -, hne, hb, rfl⟩
    · have hspace : "SELECT ".toList.getLast? = some ' ' := by decide
      rw [List.getLast?_nil, Option.none_or, hspace, Option.some_or]
      decide
    · rw [List.getLast?_append, Option.or_assoc]
      exact atWordStart_blanks hb hne _

theorem readable_stripTop_iff (s : List Char) :
    Readable selectTop (stripTop s) ↔ Joined selectTop SelectTop.bare selectTop s := by
  refine readable_replaceAll_iff selectTop_reads (selectTop_lasting _) ?_ s
  intro _ _ _ _ htext x s
  obtain ⟨htext, hbare⟩ := htext.2.atWordStart x
  exact selectTop_congr (by rw [htext, hbare]) s

/-! ## The limit -/

/-- A count and the blanks behind it, which may be others. -/
theorem TopRowsText.exists_core {rows n : List Char} (h : TopRowsText rows n) :
    ∃ core c b, rows = core ++ [c] ++ b ∧ isBlank c = false ∧ Blanks b ∧
      ∀ b', Blanks b' → b' ≠ [] → TopRowsText (core ++ [c] ++ b') n := by
  cases h with
  | @enclosed b₁ n b₂ b₃ hb₁ hn hb₂ hb₃ =>
    exact ⟨_, ')', b₃, rfl, by decide, hb₃, fun b' hb' _ => .enclosed hb₁ hn hb₂ hb'⟩
  | @bare n b hn hne hb =>
    obtain ⟨core, d, rfl⟩ : ∃ core d, n = core ++ [d] :=
      ⟨_, _, (List.dropLast_append_getLast hn.1).symm⟩
    exact ⟨core, d, b, rfl, isBlank_of_isDigit (hn.2 d (by simp)), hb,
      fun b' hb' hne' => .bare hn hne' hb'⟩

/-- The blanks at the end of a `SELECT TOP` may be others. -/
theorem SelectTopText.append_blanks {text z : List Char} {t : SelectTop}
    (h : SelectTopText (text ++ z) t) (hz : Blanks z) {b : List Char} (hb : Blanks b)
    (hne : b ≠ []) : SelectTopText (text ++ b) t := by
  generalize hcut : text ++ z = whole at h
  obtain @⟨select, b₁, distinct, top, b₂, rows, n, hselect, hne₁, hb₁, hdistinct, htop, hb₂,
    hrows⟩ := h
  obtain ⟨core, c, b₃, rfl, hc, hb₃, hcore⟩ := hrows.exists_core
  have hcut' : text ++ z = select ++ b₁ ++ distinct ++ top ++ b₂ ++ core ++ [c] ++ b₃ := by
    rw [hcut]
    simp only [List.append_assoc]
  by_cases hlen : z.length ≤ b₃.length
  · obtain ⟨w, rfl, rfl⟩ := exists_append_of_length_le hcut' hlen
    have hblanks : Blanks (w ++ b) := fun d hd =>
      (List.mem_append.1 hd).elim (fun h => hb₃ d (List.mem_append_left z h)) (hb d)
    have hrows' := hcore (w ++ b) hblanks (by simp [hne])
    have htext := SelectTopText.mk hselect hne₁ hb₁ hdistinct htop hb₂ hrows'
    simp only [List.append_assoc] at htext ⊢
    exact htext
  · -- the cut would be before `c`, which is no blank
    obtain ⟨w, hw, rfl⟩ := exists_append_of_length_le hcut'.symm (by omega)
    have hwne : w ≠ [] := by
      rintro rfl
      simp at hlen
    have hlast := congrArg List.getLast? hw
    rw [List.getLast?_concat, List.getLast?_append_of_ne_nil _ hwne] at hlast
    have hmem : c ∈ w ++ b₃ := List.mem_append_left _ (List.mem_of_getLast? hlast.symm)
    rw [hz c hmem] at hc
    cases hc

/-- A `SELECT TOP` is made of words, digits, blanks and parentheses. -/
theorem SelectTopText.not_mem {text : List Char} {t : SelectTop} (h : SelectTopText text t)
    {c : Char} (hc : c ∈ [';', '-', '[', ']', '"']) : c ∉ text := by
  have hsign : isBlank c = false ∧ isDigit c = false ∧ c ≠ '(' ∧ c ≠ ')' ∧
      ∀ name ∈ ["select", "distinct", "top"], fold c ∉ name.toList.map fold := by
    simp only [List.mem_cons, List.not_mem_nil, or_false] at hc
    rcases hc with rfl | rfl | rfl | rfl | rfl <;> decide
  obtain ⟨hblank, hdigit, hopen, hclose, hnames⟩ := hsign
  obtain @⟨select, b₁, distinct, top, b₂, rows, n, hselect, -, hb₁, hdistinct, htop, hb₂,
    hrows⟩ := h
  have hdistinct' : c ∉ distinct := by
    rcases hdistinct with rfl | ⟨word, b, hword, -, hb, rfl⟩
    · exact List.not_mem_nil
    · simp [hword.not_mem (hnames _ (by simp)), hb.not_mem hblank]
  have hrows' : c ∉ rows := by
    cases hrows with
    | enclosed hb₁ hn hb₂ hb₃ =>
      simp [hopen, hclose, hn.not_mem hdigit, hb₁.not_mem hblank, hb₂.not_mem hblank,
        hb₃.not_mem hblank]
    | bare hn _ hb => simp [hn.not_mem hdigit, hb.not_mem hblank]
  simp [hselect.not_mem (hnames _ (by simp)), hb₁.not_mem hblank, hdistinct',
    htop.not_mem (hnames _ (by simp)), hb₂.not_mem hblank, hrows']

/-- No `SELECT TOP` starts where no word does. -/
theorem selectTop_of_atWordEnd {s : List Char} (h : atWordEnd s = true) (before : Option Char) :
    selectTop before s = none := by
  have hnone : keyword? "select".toList s = none := by
    cases s with
    | nil => decide
    | cons c s =>
      have hc : fold c ≠ 's' := by
        intro hc
        have hword := (isWord_of_fold_isAlpha (c := c) (by rw [hc]; decide)).1
        simp [atWordEnd, hword] at h
      exact keyword?_cons_eq_none (by decide) hc s
  unfold selectTop
  rw [hnone]
  simp

/-- What is read in the first of two texts is read before any second one. -/
theorem readable_of_front {x y u text rest : List Char} {t : SelectTop}
    (hcut : x ++ y = u ++ (text ++ rest))
    (hread : selectTop u.getLast? (text ++ rest) = some (t, rest)) (hlen : y.length ≤ rest.length)
    (y' : List Char) : Readable selectTop (x ++ y') := by
  obtain ⟨-, hstart, htext⟩ := selectTop_reads.shape hread
  rw [← List.append_assoc] at hcut
  obtain ⟨z, rfl, -⟩ := exists_append_of_length_le hcut hlen
  exact ⟨u, text ++ (z ++ y'), by simp, htext.isSome_selectTop hstart _⟩

/-- What is read in the second of two texts is read behind any first one, if no word starts with the
second one. -/
theorem readable_of_back {x y u v : List Char} (hcut : x ++ y = u ++ v)
    (hread : (selectTop u.getLast? v).isSome = true) (hy : atWordEnd y = true)
    (hlen : v.length ≤ y.length) (x' : List Char) : Readable selectTop (x' ++ y) := by
  obtain ⟨z, rfl, rfl⟩ := exists_append_of_length_le hcut.symm hlen
  have hz : z ≠ [] := by
    rintro rfl
    rw [List.nil_append] at hy
    rw [selectTop_of_atWordEnd hy] at hread
    cases hread
  refine ⟨x' ++ z, v, by simp, ?_⟩
  rwa [List.getLast?_append_of_ne_nil _ hz] at hread ⊢

/-- A limit before the tail of a statement keeps every `SELECT TOP`, and the only new one that can
be read reaches over it. -/
theorem readable_selectTop_limit_iff {body tail n : List Char}
    (htail : tail = [] ∨ isTail tail = true) (hend : atWordEnd tail = true) :
    Readable selectTop (body ++ limitClause n ++ tail) ↔
      Readable selectTop (body ++ tail) ∨ Reaches selectTop body (limitClause n) tail := by
  constructor
  · rintro ⟨u, v, hcut, h⟩
    obtain ⟨⟨t, rest⟩, hread⟩ := Option.isSome_iff_exists.1 h
    obtain ⟨text, -, rfl, -⟩ := selectTop_reads _ _ _ _ hread
    by_cases hfront : (limitClause n ++ tail).length ≤ rest.length
    · rw [List.append_assoc] at hcut
      exact .inl (readable_of_front hcut hread hfront tail)
    by_cases hback : (text ++ rest).length ≤ tail.length
    · exact .inl (readable_of_back hcut h hend hback body)
    · refine .inr ⟨u, text ++ rest, t, rest, hcut, hread, ?_, by omega⟩
      have hlength := congrArg List.length hcut
      simp only [List.length_append] at hlength hback ⊢
      omega
  · rintro (⟨u, v, hcut, h⟩ | h)
    · obtain ⟨⟨t, rest⟩, hread⟩ := Option.isSome_iff_exists.1 h
      obtain ⟨text, -, rfl, hstart, htext⟩ := selectTop_reads _ _ _ _ hread
      by_cases hfront : tail.length ≤ rest.length
      · rw [List.append_assoc]
        exact readable_of_front hcut hread hfront _
      by_cases hback : (text ++ rest).length ≤ tail.length
      · exact readable_of_back hcut h hend hback _
      · -- it ends with the blanks of the tail, and the limit starts with one
        obtain ⟨y, rfl, hy⟩ := exists_append_of_length_le hcut (by omega)
        obtain ⟨z, rfl, rfl⟩ := exists_append_of_length_le hy (by omega)
        have hmem : ∀ c ∈ z, c ∈ y ++ z := fun c hc => List.mem_append_right y hc
        have hz : Blanks z := by
          refine blanks_of_isTail_append (s := rest)
            (fun hc => htext.not_mem (by simp) (hmem _ hc))
            (fun hc => htext.not_mem (by simp) (hmem _ hc))
            (htail.resolve_left fun hnil => ?_)
          rw [hnil] at hfront
          exact hfront (Nat.zero_le _)
        refine ⟨u, y ++ (limitClause n ++ (z ++ rest)), by simp only [List.append_assoc], ?_⟩
        have hread' := (htext.append_blanks hz blanks_space (by simp)).isSome_selectTop hstart
          ("LIMIT ".toList ++ n ++ (z ++ rest))
        rwa [List.append_assoc] at hread'
    · exact h.readable

/-- A `SELECT TOP` is joined where a count is left out, or over the limit that is put in. -/
def JoinsTop (whole s : List Char) : Prop :=
  Joined selectTop SelectTop.bare selectTop s ∨
    ∃ n, topCount? whole = some n ∧ hasRowLimit s = false ∧
      Reaches selectTop (splitTail (stripTop s)).1 (limitClause n) (splitTail (stripTop s)).2

theorem readable_limitTop_iff (whole s : List Char) :
    Readable selectTop (limitTop whole s) ↔ JoinsTop whole s := by
  have hlimit : hasRowLimit (stripTop s) = hasRowLimit s := by
    rw [Bool.eq_iff_iff, hasRowLimit_iff, hasRowLimit_iff, limitsFrom_stripTop]
  unfold limitTop JoinsTop
  rw [hlimit]
  cases hcount : topCount? whole with
  | none => simp [readable_stripTop_iff]
  | some n =>
    cases hrow : hasRowLimit s with
    | true => simp [readable_stripTop_iff]
    | false =>
      have hinsert : Readable selectTop ((splitTail (stripTop s)).1 ++ limitClause n ++
          (splitTail (stripTop s)).2) ↔ _ :=
        readable_selectTop_limit_iff (splitTail_snd _) (atWordEnd_splitTail _)
      rw [splitTail_append, readable_stripTop_iff] at hinsert
      simpa [insertBeforeTail] using hinsert

/-- Once the rule for `SELECT TOP` has been applied, there is a limit if one is asked for. -/
theorem hasRowLimit_limitTop (whole s : List Char) :
    topCount? whole = none ∨ hasRowLimit (limitTop whole s) = true := by
  rw [hasRowLimit_iff, limitsFrom_limitTop]
  cases topCount? whole with
  | none => exact .inl rfl
  | some n =>
    refine .inr ?_
    by_cases hnil : limitsFrom [] s = [] <;> simp [hnil]

theorem limitTop_limitTop_eq_iff (whole s : List Char) :
    limitTop whole (limitTop whole s) = limitTop whole s ↔
      ¬Readable selectTop (limitTop whole s) := by
  rw [limitTop_eq_self_iff]
  exact and_iff_left (hasRowLimit_limitTop whole s)

/-! ## Columns -/

/-- Where something can end does not depend on what stands behind it. -/
def FirmEnds (ends : List Char → List (List Char)) : Prop :=
  ∀ s rest, rest ∈ ends s → ∃ text, s = text ++ rest ∧ ∀ rest', rest' ∈ ends (text ++ rest')

theorem closeName_firm : Firm closeName? := by
  intro s rest h
  obtain ⟨x, hx, rfl⟩ := closeName?_eq_some h
  refine ⟨x ++ ['"'], by simp, rfl, fun rest' => ?_⟩
  rw [List.append_assoc]
  exact closeName?_append hx rest'

theorem fragmentEnds_firm (columns : BooleanColumns) : FirmEnds (fragmentEnds columns) := by
  intro s rest h
  obtain ⟨f, hf, hread⟩ := List.mem_filterMap.1 h
  obtain ⟨s₁, h₁, h₂⟩ := Option.bind_eq_some_iff.1 hread
  obtain ⟨t, rfl, ht⟩ := dropFolded?_eq_some_iff.1 h₁
  obtain ⟨x, -, rfl, hclose⟩ := closeName_firm _ _ h₂
  refine ⟨t ++ x, by simp, fun rest' => List.mem_filterMap.2 ⟨f, hf, ?_⟩⟩
  rw [List.append_assoc, dropFolded?_append _ ht, Option.bind_some]
  exact hclose rest'

theorem nameEnds_firm (columns : BooleanColumns) : FirmEnds (nameEnds columns) := by
  intro s rest h
  obtain ⟨place, hplace, hrest⟩ := List.mem_flatMap.1 h
  obtain ⟨x, hx, rfl⟩ := mem_namePlaces.1 (List.mem_reverse.1 hplace)
  obtain ⟨y, rfl, hy⟩ := fragmentEnds_firm columns _ _ hrest
  refine ⟨x ++ y, by simp, fun rest' => List.mem_flatMap.2 ⟨y ++ rest', ?_, hy rest'⟩⟩
  exact List.mem_reverse.2 (mem_namePlaces.2 ⟨x, hx, List.append_assoc x y rest'⟩)

theorem afterQualifier_firm : Firm afterQualifier? := by
  intro s rest h
  simp only [afterQualifier?, Option.bind_eq_bind, Option.bind_eq_some_iff,
    symbol?_eq_some_iff] at h
  obtain ⟨⟨table, s₁⟩, h₁, s₂, h₂, rfl⟩ := h
  obtain ⟨x, -, rfl, hx⟩ := enclosed1_ended (List.mem_singleton_self _) _ _ _ h₁
  obtain rfl : s₁ = _ := h₂
  refine ⟨x ++ ['.', '"'], by simp, by simp, fun rest' => ?_⟩
  simp only [afterQualifier?, List.append_assoc, hx, Option.bind_eq_bind, Option.bind_some]
  rfl

theorem columnEnds_firm (columns : BooleanColumns) : FirmEnds (columnEnds columns) := by
  intro s rest h
  unfold columnEnds at h
  split at h
  · cases h
  · rename_i s₁ hs
    obtain rfl := symbol?_eq_some_iff.1 hs
    rcases List.mem_append.1 h with hqualified | hplain
    · cases hq : afterQualifier? s₁ with
      | none => rw [hq] at hqualified; cases hqualified
      | some s₂ =>
        rw [hq] at hqualified
        obtain ⟨x, -, rfl, hx⟩ := afterQualifier_firm _ _ hq
        obtain ⟨y, rfl, hy⟩ := nameEnds_firm columns _ _ hqualified
        refine ⟨'"' :: (x ++ y), by simp, fun rest' => ?_⟩
        rw [List.cons_append, columnEnds_quote, List.append_assoc, hx]
        exact List.mem_append_left _ (hy rest')
    · obtain ⟨x, rfl, hx⟩ := nameEnds_firm columns _ _ hplain
      refine ⟨'"' :: x, rfl, fun rest' => ?_⟩
      rw [List.cons_append, columnEnds_quote]
      exact List.mem_append_right _ (hx rest')

/-- A digit is read with the sign that ends the number. -/
theorem comparedWith?_sign {digit c : Char} (hdigit : isBlank digit = false) {b₁ b₂ : List Char}
    (hb₁ : Blanks b₁) (hb₂ : Blanks b₂) (hc : isBlank c = true ∨ c ∈ [')', ',', ';'])
    (rest : List Char) :
    comparedWith? digit (b₁ ++ ['='] ++ b₂ ++ [digit] ++ [c] ++ rest) = some ([c], rest) := by
  have hequals : symbol? '=' (skipBlanks (b₁ ++ '=' :: (b₂ ++ digit :: c :: rest))) =
      some (b₂ ++ digit :: c :: rest) := by
    rw [skipBlanks_append _ hb₁, symbol?_skipBlanks_cons (by decide)]
  have hvalue : symbol? digit (skipBlanks (b₂ ++ digit :: c :: rest)) = some (c :: rest) := by
    rw [skipBlanks_append _ hb₂, symbol?_skipBlanks_cons hdigit]
  have hstop : (isBlank c || [')', ',', ';'].contains c) = true := by
    rwa [Bool.or_eq_true, List.contains_iff_mem]
  unfold comparedWith?
  simp only [List.append_assoc, List.cons_append, List.nil_append, hequals, hvalue,
    Option.bind_eq_bind, Option.bind_some, if_pos hstop]

/-- A comparison is read whatever stands behind it, unless it ends the text. -/
theorem flagComparison_lasting (columns : BooleanColumns) {digit : Char}
    (hdigit : isBlank digit = false) (value : List Char) :
    Lasting (flagComparison columns digit) (FlagComparison.comparedTo value) := by
  intro before text f rest rest' hread hrest
  have hread₀ := hread
  unfold flagComparison at hread
  obtain ⟨s₁, hmem, h⟩ := List.exists_of_findSome?_eq_some hread
  simp only [Option.bind_eq_bind, Option.bind_eq_some_iff, Option.pure_def, Option.some.injEq,
    Prod.mk.injEq] at h
  obtain ⟨⟨stop, s₂⟩, h₂, rfl, rfl⟩ := h
  obtain ⟨column, hcolumn, hends⟩ := columnEnds_firm columns _ _ hmem
  obtain ⟨b₁, b₂, hb₁, hb₂, hstop, rfl⟩ := comparedWith?_eq_some h₂
  cases hstop with
  | atEnd =>
    rcases hrest with hne | rfl | ⟨f, hf⟩
    · exact absurd rfl hne
    · rw [hread₀]
      rfl
    · simp [FlagComparison.comparedTo] at hf
  | @sign c _ hc =>
    have htext : text = column ++ (b₁ ++ ['='] ++ b₂ ++ [digit] ++ [c]) :=
      List.append_cancel_right (by rw [hcolumn, ← List.append_assoc])
    have hcompared := comparedWith?_sign hdigit hb₁ hb₂ hc rest'
    unfold flagComparison
    rw [List.findSome?_isSome_iff]
    refine ⟨b₁ ++ ['='] ++ b₂ ++ [digit] ++ [c] ++ rest', ?_, ?_⟩
    · rw [htext, List.append_assoc column]
      exact hends _
    · rw [hcompared]
      rfl

/-- A text with its comparisons with `1` written anew, which is done first. -/
def spellOnes (columns : BooleanColumns) (s : List Char) : List Char :=
  replaceAll (flagComparison columns '1') (FlagComparison.comparedTo "true".toList) s

theorem readable_spellOnes_iff (columns : BooleanColumns) (s : List Char) :
    Readable (flagComparison columns '1') (spellOnes columns s) ↔
      Joined (flagComparison columns '1') (FlagComparison.comparedTo "true".toList)
        (flagComparison columns '1') s :=
  readable_replaceAll_iff (flagComparison_reads columns '1')
    (flagComparison_lasting columns (by decide) _) (fun _ _ _ _ _ _ _ => rfl) s

/-- A comparison with `1` is joined by the second sweep, or it is joined by the first one and kept
by the second. -/
def JoinsOnes (columns : BooleanColumns) (s : List Char) : Prop :=
  Joined (flagComparison columns '0') (FlagComparison.comparedTo "false".toList)
      (flagComparison columns '1') (spellOnes columns s) ∨
    (Joined (flagComparison columns '1') (FlagComparison.comparedTo "true".toList)
        (flagComparison columns '1') s ∧
      Kept (flagComparison columns '0') (FlagComparison.comparedTo "false".toList)
        (flagComparison columns '1') (spellOnes columns s))

/-- A comparison with `0` is joined by the second sweep, which looks for it. -/
def JoinsZeros (columns : BooleanColumns) (s : List Char) : Prop :=
  Joined (flagComparison columns '0') (FlagComparison.comparedTo "false".toList)
    (flagComparison columns '0') (spellOnes columns s)

theorem readable_ones_spellBooleans_iff (columns : BooleanColumns) (s : List Char) :
    Readable (flagComparison columns '1') (spellBooleans columns s) ↔ JoinsOnes columns s := by
  constructor
  · intro h
    refine (joined_or_kept_of_readable (flagComparison_reads columns '0')
      (flagComparison_reads columns '1') (flagComparison_lasting columns (by decide) _)
      (fun _ _ _ _ _ _ _ => rfl) h).imp_right fun ⟨hkept, hmissed⟩ => ⟨?_, hkept⟩
    exact (readable_spellOnes_iff columns s).1 hmissed.readable
  · rintro (h | ⟨-, h⟩)
    · exact h.readable
    · exact h.readable

theorem readable_zeros_spellBooleans_iff (columns : BooleanColumns) (s : List Char) :
    Readable (flagComparison columns '0') (spellBooleans columns s) ↔ JoinsZeros columns s :=
  readable_replaceAll_iff (flagComparison_reads columns '0')
    (flagComparison_lasting columns (by decide) _) (fun _ _ _ _ _ _ _ => rfl) _

end SqlDialect.Query

namespace SqlDialect

open Query Scan

/-- What the rule writes, or leaves out, makes up a construct for the same rule together with the
text around it. -/
def Rule.Rejoins (whole : List Char) : Rule → List Char → Prop
  | .tableHints, s => Joined tableHint (fun _ => []) tableHint s
  | .selectTop, s => JoinsTop whole s
  | .booleanColumns columns, s => JoinsOnes columns s ∨ JoinsZeros columns s
  | .bracketedNames, _ | .randomCalls, _ | .fetchClauses, _ | .dateCalls, _ | .scalarCalls, _
  | .literalSums, _ => False

theorem Rule.applies_apply_iff {rule : Rule} (whole s : List Char) :
    rule.Applies (rule.apply whole s) ↔ rule.Rejoins whole s := by
  cases rule with
  | tableHints =>
    exact readable_replaceAll_iff tableHint_reads (lasting_of_ended tableHint_ended _)
      (fun _ _ _ _ _ _ _ => rfl) s
  | selectTop => exact readable_limitTop_iff whole s
  | booleanColumns columns =>
    exact or_congr (readable_ones_spellBooleans_iff columns s)
      (readable_zeros_spellBooleans_iff columns s)
  | bracketedNames => exact iff_of_false (not_readable_quoteBracketedNames s) not_false
  | randomCalls => exact iff_of_false (not_readable_renameRandomCalls s) not_false
  | fetchClauses => exact iff_of_false (not_readable_limitFetchClauses s) not_false
  | dateCalls =>
    exact iff_of_false ((sheds_datePass.eq_self_iff _).1 (datePass_renameDateCalls s)) not_false
  | scalarCalls =>
    exact iff_of_false (not_or.2 (not_readable_renameScalarCalls s)) not_false
  | literalSums =>
    exact iff_of_false ((sheds_concatPass.eq_self_iff _).1 (concatPass_concatLiterals s)) not_false

/-- **A second application changes exactly what the first one has joined.** For six of the rules
there is no such thing. A table hint that is left out, a `TOP` that goes, a limit that is put in and
a comparison that is written anew can each complete a construct, and then the same rule applies
again. -/
theorem Rule.apply_apply_eq_iff (rule : Rule) (whole s : List Char) :
    rule.apply whole (rule.apply whole s) = rule.apply whole s ↔ ¬rule.Rejoins whole s := by
  rw [← rule.applies_apply_iff whole s]
  by_cases htop : rule = .selectTop
  · subst htop
    exact limitTop_limitTop_eq_iff whole s
  · exact apply_eq_self_iff htop whole (rule.apply whole s)

/-- A hint between the parts of another one, a count behind another one, and a quote that ends one
column and starts the next. -/
theorem Rule.apply_apply_ne :
    (Rule.tableHints.apply [] "SELECT * FROM t WITH WITH (NOLOCK)(NOLOCK)".toList =
        "SELECT * FROM t WITH(NOLOCK)".toList ∧
      Rule.tableHints.apply [] "SELECT * FROM t WITH(NOLOCK)".toList = "SELECT * FROM t".toList) ∧
    (Rule.selectTop.apply "SELECT TOP 5 TOP 3 x".toList "SELECT TOP 5 TOP 3 x".toList =
        "SELECT TOP 3 x LIMIT 5".toList ∧
      Rule.selectTop.apply "SELECT TOP 5 TOP 3 x".toList "SELECT TOP 3 x LIMIT 5".toList =
        "SELECT x LIMIT 5".toList) ∧
    ((Rule.booleanColumns .standard).apply [] "\"active\" = 1 active\" = 1 ".toList =
        "\"active\" = true active\" = 1 ".toList ∧
      (Rule.booleanColumns .standard).apply [] "\"active\" = true active\" = 1 ".toList =
        "\"active\" = true active\" = true ".toList) := by
  decide

end SqlDialect
