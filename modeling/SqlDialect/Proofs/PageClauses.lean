import SqlDialect.Proofs.AssembledQuery
import SqlDialect.Proofs.DateArguments
import SqlDialect.Proofs.Elimination

/-!
# Pages in any query

The clause for a page of rows is written by one dialect with `FETCH` and by another with `LIMIT`.
The first is a page that the rule for pages reads, wherever it is put.

* `fetchText`, `fetchClause_fetchText` — the clause with `FETCH`, and that it is read whatever
  stands behind it.
* `fetchClause_append_fetchText` — no page reaches into the clause from before it, unless a blank
  stands there. A page has four letters `O`, and so has the clause.
* `Rule.fetchClauses_paging` — so the rule turns the one clause into the other, and the text before
  it and the text behind it are as if they stood alone.
-/

namespace SqlDialect.Query

open Scan Text

/-! ## The clause -/

/-- The clause for a page of `n` rows behind the first `m`. -/
def fetchText (m n : List Char) : List Char :=
  ' ' :: ("OFFSET".toList ++ ' ' :: (m ++ ' ' :: ("ROWS".toList ++ ' ' :: ("FETCH".toList ++
    ' ' :: ("NEXT".toList ++ ' ' :: (n ++ ' ' :: ("ROWS".toList ++ ' ' :: "ONLY".toList)))))))

theorem rowsWord?_append {rows : List Char} (hrows : Spells "rows" rows) (s : List Char) :
    rowsWord? (rows ++ s) = some s := by
  have hrow : Spells "row" (rows.take 3) := by
    unfold Spells at hrows ⊢
    rw [List.map_take, hrows]
    decide
  have hs : Spells "s" (rows.drop 3) := by
    unfold Spells at hrows ⊢
    rw [List.map_drop, hrows]
    decide
  rw [← List.take_append_drop 3 rows, List.append_assoc, rowsWord?, keyword?_append hrow,
    Option.map_some, opt?, keyword?_append hs, Option.getD_some]

/-- Every word of a page is read, and both of its counts. -/
theorem fetchClause_words {m n offset rows fetch next only : List Char} (hm : Digits m)
    (hn : Digits n) (hoffset : Spells "offset" offset) (hrows : Spells "rows" rows)
    (hfetch : Spells "fetch" fetch) (hnext : Spells "next" next) (honly : Spells "only" only)
    (before : Option Char) :
    fetchClause before (' ' :: (offset ++ ' ' :: (m ++ ' ' :: (rows ++ ' ' :: (fetch ++
      ' ' :: (next ++ ' ' :: (n ++ ' ' :: (rows ++ ' ' :: (only ++ []))))))))) =
      some (⟨m, n⟩, []) := by
  have hdigit : isDigit ' ' = false := by decide
  have hword : ∀ {name : String} {word : List Char}, Spells name word →
      (name.toList.map fold).head?.any Char.isAlpha = true → ∀ s,
      skipBlanks1? (' ' :: (word ++ s)) = some (word ++ s) := fun h hname s =>
    skipBlanks1?_space (isBlank_head_word h hname s)
  have hcount : ∀ {n : List Char}, Digits n → ∀ s, skipBlanks1? (' ' :: (n ++ s)) = some (n ++ s) :=
    fun h s => skipBlanks1?_space (isBlank_head_digits h s)
  have hnextWord : ∀ s, oneOf? (keyword? "next".toList) (keyword? "first".toList) (next ++ s) =
      some s := fun s => by rw [oneOf?, keyword?_append hnext, Option.some_or]
  unfold fetchClause
  simp only [hword hoffset (by decide), keyword?_append hoffset, hcount hm,
    digits?_append hm hdigit, hword hrows (by decide), rowsWord?_append hrows, hword hfetch (by decide),
    keyword?_append hfetch, hword hnext (by decide), hnextWord, hcount hn, digits?_append hn hdigit,
    hword honly (by decide), keyword?_append honly, Option.bind_eq_bind, Option.bind_some,
    Option.pure_def]

theorem fetchClause_fetchText {m n : List Char} (hm : Digits m) (hn : Digits n)
    (before : Option Char) (s : List Char) :
    fetchClause before (fetchText m n ++ s) = some (⟨m, n⟩, s) := by
  have hwords : Spells "offset" "OFFSET".toList ∧ Spells "rows" "ROWS".toList ∧
      Spells "fetch" "FETCH".toList ∧ Spells "next" "NEXT".toList ∧
      Spells "only" "ONLY".toList := by
    unfold Spells
    decide
  obtain ⟨hoffset, hrows, hfetch, hnext, honly⟩ := hwords
  have hread : fetchClause before (fetchText m n) = some (⟨m, n⟩, []) :=
    fetchClause_words hm hn hoffset hrows hfetch hnext honly before
  obtain ⟨text, -, heq, hread'⟩ := fetchClause_ended before _ _ _ hread
  rw [heq, List.append_nil, hread']

/-! ## No page reaches into the clause -/

/-- A page has four letters `O` and one letter `Y`. -/
theorem FetchClauseText.count_letters {text : List Char} {f : FetchClause}
    (h : FetchClauseText text f) :
    (text.map fold).count 'o' = 4 ∧ (text.map fold).count 'y' = 1 := by
  constructor
  · obtain ⟨row, hrow, next, hnext, row', hrow', hcount⟩ := h.count_fold (x := 'o') (by decide)
    have hfour : ∀ row ∈ ["row", "rows"], ∀ next ∈ ["next", "first"], ∀ row' ∈ ["row", "rows"],
        ((pageWords row next row').map fold).count 'o' = 4 := by decide
    rw [hcount, hfour row hrow next hnext row' hrow']
  · obtain ⟨row, hrow, next, hnext, row', hrow', hcount⟩ := h.count_fold (x := 'y') (by decide)
    have hone : ∀ row ∈ ["row", "rows"], ∀ next ∈ ["next", "first"], ∀ row' ∈ ["row", "rows"],
        ((pageWords row next row').map fold).count 'y' = 1 := by decide
    rw [hcount, hone row hrow next hnext row' hrow']

/-- The letter is at the end of a text that ends with it. -/
theorem count_fold_pos {text : List Char} {x : Char} (h : text.getLast?.map fold = some x) :
    0 < (text.map fold).count x := by
  rw [← List.getLast?_map] at h
  exact List.count_pos_iff.2 (List.mem_of_getLast? h)

/-- A page that goes beyond its first blanks has a letter `O` there. -/
theorem FetchClauseText.count_front_pos {front back : List Char} {f : FetchClause}
    (h : FetchClauseText (front ++ back) f) (hne : front ≠ [])
    (hlast : front.getLast?.any isBlank = false) : 0 < (front.map fold).count 'o' := by
  generalize htext : front ++ back = text at h
  obtain @⟨b₁, offset, b₂, m, b₃, rows₁, b₄, fetch, b₅, next, b₆, n, b₇, rows₂, b₈, only, -,
    hblanks, hoffset, -, -, -, -, -, -, -⟩ := h
  have hb₁ : Blanks b₁ := hblanks b₁ List.mem_cons_self
  simp only [List.append_assoc] at htext
  rcases List.append_eq_append_iff.1 htext with ⟨z, rfl, -⟩ | ⟨z, rfl, hz⟩
  · -- within the blanks
    rw [List.getLast?_eq_some_getLast hne] at hlast
    have hblank := hb₁ _ (List.mem_append_left z (List.getLast_mem hne))
    rw [Option.any_some, hblank] at hlast
    cases hlast
  · cases z with
    | nil =>
      rw [List.append_nil] at hne hlast
      rw [List.getLast?_eq_some_getLast hne, Option.any_some, hb₁ _ (List.getLast_mem hne)] at hlast
      cases hlast
    | cons c z =>
      have hc : fold c = 'o' := by
        cases offset with
        | nil => exact absurd rfl (hoffset.ne_nil (by decide))
        | cons d offset =>
          obtain ⟨rfl, -⟩ := List.cons.inj hz
          exact (List.cons.inj hoffset).1
      refine List.count_pos_iff.2 (List.mem_map.2 ⟨c, by simp, hc⟩)

/-- A page that starts before the clause does not end in it or behind it. Up to the end of the
clause there is no last letter for it, and behind that there is one letter `O` too many in it. -/
theorem not_fetchClauseText_append {m n : List Char} (hm : Digits m) (hn : Digits n)
    {front z rest s : List Char} {f : FetchClause} (hne : front ≠ [])
    (hlast : front.getLast?.any isBlank = false) (hz : z ≠ [])
    (hcut : fetchText m n ++ s = z ++ rest) : ¬FetchClauseText (front ++ z) f := by
  intro htext
  have hpage : FetchClauseText (fetchText m n) ⟨m, n⟩ :=
    (fetchClause_reads.shape (fetchClause_fetchText hm hn none [])).2
  have hover : ∀ w, z ≠ fetchText m n ++ w := by
    rintro w rfl
    have hfour := htext.count_letters.1
    have hpageFour := hpage.count_letters.1
    have hfront := htext.count_front_pos hne hlast
    simp only [List.map_append, List.count_append] at hfour
    omega
  rcases List.append_eq_append_iff.1 hcut with ⟨w, hw, -⟩ | ⟨w, hw, -⟩
  · exact hover w hw
  · have hw' : w ≠ [] := by
      rintro rfl
      exact hover [] (by simpa using hw.symm)
    have hone := hpage.count_letters.2
    have hlasty := hpage.fold_getLast?
    have hlastz := htext.fold_getLast?
    rw [hw, List.getLast?_append_of_ne_nil z hw'] at hlasty
    rw [List.getLast?_append_of_ne_nil front hz] at hlastz
    have hposw := count_fold_pos hlasty
    have hposz := count_fold_pos hlastz
    rw [hw, List.map_append, List.count_append] at hone
    omega

/-- What is read before the clause is read without a look at it. -/
theorem fetchClause_append_fetchText {m n : List Char} (hm : Digits m) (hn : Digits n)
    {front : List Char} (hne : front ≠ []) (hlast : front.getLast?.any isBlank = false)
    (before : Option Char) (s : List Char) :
    fetchClause before (front ++ (fetchText m n ++ s)) =
      (fetchClause before front).map fun r => (r.1, r.2 ++ (fetchText m n ++ s)) := by
  cases hfront : fetchClause before front with
  | some r =>
    obtain ⟨text, -, rfl, hread⟩ := fetchClause_ended before _ _ _ hfront
    rw [List.append_assoc, hread]
    rfl
  | none =>
    rw [Option.map_none]
    cases hread : fetchClause before (front ++ (fetchText m n ++ s)) with
    | none => rfl
    | some r =>
      obtain ⟨f, rest⟩ := r
      obtain ⟨text, -, heq, hread'⟩ := fetchClause_ended before _ _ _ hread
      rcases List.append_eq_append_iff.1 heq with ⟨z, rfl, hz⟩ | ⟨z, rfl, -⟩
      · have hne' : z ≠ [] := by
          rintro rfl
          have hself := hread' []
          rw [List.append_nil, List.append_nil, hfront] at hself
          cases hself
        rw [heq] at hread
        exact absurd (fetchClause_reads.shape hread).2
          (not_fetchClauseText_append hm hn hne hlast hne' hz)
      · rw [hread' z] at hfront
        cases hfront

theorem blind_fetchClause : Blind fetchClause := fun _ _ => rfl

/-- The rule for pages works on the clause and on what stands around it, each by itself. -/
theorem limitFetchClauses_fetchText {m n : List Char} (hm : Digits m) (hn : Digits n)
    {front : List Char} (hlast : front.getLast?.any isBlank = false) (back : List Char) :
    limitFetchClauses (front ++ fetchText m n ++ back) =
      limitFetchClauses front ++ FetchClause.asLimit ⟨m, n⟩ ++ limitFetchClauses back := by
  have hcut : pieces fetchClause (front ++ (fetchText m n ++ back)) =
      pieces fetchClause front ++ pieces fetchClause (fetchText m n ++ back) := by
    refine (piecesFrom_cut fetchClause_reads fun x y hxy hy => ?_).trans ?_
    · rw [hxy, List.getLast?_append_of_ne_nil x hy] at hlast
      exact fetchClause_append_fetchText hm hn hy hlast _ back
    · rw [blind_fetchClause.piecesFrom_eq]
      rfl
  have hhit : replaceAll fetchClause FetchClause.asLimit (fetchText m n ++ back) =
      FetchClause.asLimit ⟨m, n⟩ ++ replaceAll fetchClause FetchClause.asLimit back :=
    blind_fetchClause.replaceAll_of_hit fetchClause_reads (fetchClause_fetchText hm hn none back)
  unfold limitFetchClauses
  rw [List.append_assoc, List.append_assoc, ← hhit]
  unfold replaceAll
  rw [hcut, List.flatMap_append]

end SqlDialect.Query

namespace SqlDialect

open Query Text

/-- **A page is translated in place.** In any query, the clause that the one dialect writes for a
page becomes the clause that the other one writes for it. The text behind it and the text before it,
if that does not end with a blank, are translated as if they stood alone. -/
theorem Rule.fetchClauses_paging (whole : List Char) {front : List Char}
    (hfront : front.getLast?.any isBlank = false) (back : List Char) {offset pageSize : Int}
    (hoffset : 0 ≤ offset) (hsize : 0 ≤ pageSize) :
    Rule.fetchClauses.apply whole (front ++
        (Clause.paging (Dialect.resolve (some "sqlserver")) offset pageSize).toList ++ back) =
      Rule.fetchClauses.apply whole front ++
        (Clause.paging (Dialect.resolve (some "postgres")) offset pageSize).toList ++
        Rule.fetchClauses.apply whole back := by
  have hfetch : (Clause.paging (Dialect.resolve (some "sqlserver")) offset pageSize).toList =
      fetchText (toString offset).toList (toString pageSize).toList := by
    have hclause : Clause.paging (Dialect.resolve (some "sqlserver")) offset pageSize =
        " OFFSET " ++ toString offset ++ " ROWS FETCH NEXT " ++ toString pageSize ++
          " ROWS ONLY" := rfl
    rw [hclause]
    unfold fetchText
    simp
  have hlimit : (Clause.paging (Dialect.resolve (some "postgres")) offset pageSize).toList =
      FetchClause.asLimit ⟨(toString offset).toList, (toString pageSize).toList⟩ := by
    have hclause : Clause.paging (Dialect.resolve (some "postgres")) offset pageSize =
        " OFFSET " ++ toString offset ++ " LIMIT " ++ toString pageSize := rfl
    rw [hclause]
    unfold FetchClause.asLimit
    simp
  rw [hfetch, hlimit]
  exact limitFetchClauses_fetchText (digits_toString hoffset) (digits_toString hsize) hfront back

/-- A part of a page stands right before the clause, and a whole one behind it. -/
theorem Rule.fetchClauses_paging_between :
    "x OFFSET 3 ROWS".toList.getLast?.any isBlank = false ∧
      Rule.fetchClauses.apply [] ("x OFFSET 3 ROWS".toList ++
          (Clause.paging (Dialect.resolve (some "sqlserver")) 4 5).toList ++
          " offset 6 ROW FETCH FIRST 7 ROWS ONLY".toList) =
        "x OFFSET 3 ROWS OFFSET 4 LIMIT 5 OFFSET 6 LIMIT 7".toList := by
  have hfront : "x OFFSET 3 ROWS".toList.getLast?.any isBlank = false := by decide
  refine ⟨hfront, (Rule.fetchClauses_paging [] hfront _ (by decide) (by decide)).trans ?_⟩
  decide

end SqlDialect
