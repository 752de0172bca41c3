import SqlDialect.Proofs.AssembledQuery
import SqlDialect.Proofs.Elimination
import SqlDialect.Proofs.RowLimits
import SqlDialect.Proofs.StatementTails

/-!
# Limits put into a statement

A limit is put before the tail of a statement. The tail that is found afterwards is the same one,
although a comment of the body might now run on through the limit, and the limit that was put in is
found when the next one is asked for.

* `TailScan.Within`, `isTail_append_of_within` — a text can be replaced by one that is less of a
  tail, and what stands before it is then less of a tail too.
* `ClauseText` — a clause in which no tail begins. What stands before it sees nothing of the tail
  behind it but a comment that runs on (`ClauseText.within`).
* `splitTail_insertBeforeTail` — such a clause does not move the tail.
* `insertBeforeTail_limits` — so two limits come one behind the other.
* `Clause.appendLimit_once` — and a limit that is only put where none is, is put once.
-/

namespace SqlDialect.Query

open Scan Text

/-! ## Less of a tail -/

/-- What a text with the flags `t` can be, one with the flags `u` can be too. -/
structure TailScan.Within (t u : TailScan) : Prop where
  spaced : t.spaced = true → u.spaced = true
  inComment : t.inComment = true → u.inComment = true
  dash : t.dash = true → u.dash = true
  whole : t.whole = true → u.whole = true

theorem TailScan.Within.cons {t u : TailScan} (h : t.Within u) (c : Char) :
    (t.cons c).Within (u.cons c) := by
  have hspaced : (c == '-') = true ∧ t.dash = true ∨ isBlank c = true ∧ t.spaced = true →
      (c == '-') = true ∧ u.dash = true ∨ isBlank c = true ∧ u.spaced = true :=
    Or.imp (And.imp_right h.dash) (And.imp_right h.spaced)
  constructor
  all_goals simp only [TailScan.cons, Bool.or_eq_true, Bool.and_eq_true]
  · exact hspaced
  · exact Or.imp hspaced (And.imp_right h.inComment)
  · exact And.imp_right h.inComment
  · exact Or.imp (Or.imp (And.imp_right h.dash) (And.imp_right h.spaced)) (And.imp_right h.whole)

/-- In front of a text that is less of a tail there is less of a tail. -/
theorem isTail_append_of_within {s t : List Char} (h : (scanTail s).Within (scanTail t))
    (v : List Char) (htail : isTail (v ++ s) = true) : isTail (v ++ t) = true := by
  have hall : ∀ v : List Char, (scanTail (v ++ s)).Within (scanTail (v ++ t)) := by
    intro v
    induction v with
    | nil => exact h
    | cons c v ih => exact ih.cons c
  exact (hall v).whole htail

/-! ## Clauses before a tail -/

/-- A clause in which no tail begins: it holds no comment, and ends with something else than a
blank, a dash or a terminator. -/
structure ClauseText (x : List Char) : Prop where
  no_comment : ¬['-', '-'] <:+: x
  firm_end : ∃ c, x.getLast? = some c ∧ isBlank c = false ∧ c ≠ '-' ∧ c ≠ ';'

namespace ClauseText

variable {x : List Char}

theorem of_suffix (h : ClauseText x) {w : List Char} (hw : w <:+ x) (hne : w ≠ []) :
    ClauseText w := by
  refine ⟨fun hdashes => h.no_comment (hdashes.trans hw.isInfix), ?_⟩
  obtain ⟨v, rfl⟩ := hw
  have hend := h.firm_end
  rwa [List.getLast?_append_of_ne_nil v hne] at hend

/-- What begins with a clause is neither blanks and comments nor a tail. If the clause can be part
of a comment, so can what follows it. -/
theorem scan (h : ClauseText x) (t : List Char) :
    (scanTail (x ++ t)).spaced = false ∧ isTail (x ++ t) = false ∧
      ((scanTail (x ++ t)).inComment = true → (scanTail t).inComment = true) ∧
      ((scanTail (x ++ t)).dash = true → x.head? = some '-') := by
  induction x with
  | nil =>
    obtain ⟨c, hnil, -⟩ := h.firm_end
    cases hnil
  | cons c x ih =>
    rw [List.cons_append, spaced_cons, isTail_cons, inComment_cons, dash_cons, spaced_cons]
    cases x with
    | nil =>
      obtain ⟨d, hlast, hblank, hdash, hterminator⟩ := h.firm_end
      obtain rfl : c = d := Option.some.inj hlast
      simp +contextual [hblank, hdash, hterminator]
    | cons d x =>
      obtain ⟨hspaced, htail, hcomment, hdash⟩ :=
        ih (h.of_suffix (List.suffix_cons c (d :: x)) (List.cons_ne_nil d x))
      -- a comment cannot begin here
      have hno : (c == '-' && (scanTail (d :: x ++ t)).dash) = false := by
        rw [Bool.eq_false_iff, ne_eq, Bool.and_eq_true, beq_iff_eq]
        rintro ⟨rfl, hd⟩
        obtain rfl : d = '-' := by simpa using hdash hd
        exact h.no_comment ⟨[], x, rfl⟩
      simp only [hno, hspaced, htail, Bool.and_false, Bool.or_false, Bool.false_or,
        Bool.and_eq_true, beq_iff_eq, List.head?_cons, Option.some.injEq]
      exact ⟨trivial, trivial, fun hin => hcomment hin.2, fun hd => hd.1⟩

/-- In front of a clause there is less of a tail than without it. -/
theorem within (h : ClauseText x) (hhead : x.head? ≠ some '-') (t : List Char) :
    (scanTail (x ++ t)).Within (scanTail t) := by
  obtain ⟨hspaced, htail, hcomment, hdash⟩ := h.scan t
  exact ⟨fun hs => by simp [hs] at hspaced, hcomment, fun hd => absurd (hdash hd) hhead,
    fun hw => absurd hw (Bool.eq_false_iff.1 htail)⟩

/-- **A clause does not move the tail.** It becomes part of the body. -/
theorem splitTail_insertBeforeTail (h : ClauseText x) (hhead : x.head? ≠ some '-') (s : List Char) :
    splitTail (insertBeforeTail s x) = ((splitTail s).1 ++ x, (splitTail s).2) := by
  have hlongest := longestTail_splitTail s
  refine splitTail_eq_iff.2 ⟨rfl, longestTail_of_forall ⟨_, rfl⟩ ?_ fun u hu htext => ?_⟩
  · exact (splitTail_snd s).imp_right isTail_iff_tailText.1
  have hsplit := splitTail_append s
  rw [insertBeforeTail] at hu
  generalize (splitTail s).1 = body at hu hsplit
  generalize (splitTail s).2 = tail at hu hsplit hlongest
  have hends := List.suffix_append (body ++ x) tail
  rcases List.suffix_or_suffix_of_suffix hu hends with hin | ⟨w, rfl⟩
  · exact hin
  -- the tail would begin before the old one: in the clause, or in the body
  have hw : w <:+ body ++ x := List.suffix_append_self_iff.1 hu
  have hwtail := isTail_iff_tailText.2 htext
  rcases List.suffix_or_suffix_of_suffix hw (List.suffix_append body x) with hclause | ⟨v, rfl⟩
  · obtain rfl : w = [] := by
      by_contra hne
      rw [((h.of_suffix hclause hne).scan tail).2.1] at hwtail
      cases hwtail
    exact List.suffix_refl tail
  · have hv : v <:+ body := List.suffix_append_self_iff.1 hw
    rw [List.append_assoc] at hwtail
    -- without the clause there would have been a longer tail in the first place
    have hold := isTail_append_of_within (h.within hhead tail) v hwtail
    have hpart : v ++ tail <:+ s := hsplit ▸ List.suffix_append_self_iff.2 hv
    have hshort := (hlongest.suffix_of_tailText hpart (isTail_iff_tailText.1 hold)).length_le
    obtain rfl : v = [] := by
      rw [List.length_append] at hshort
      exact List.eq_nil_of_length_eq_zero (by omega)
    rw [List.nil_append, (h.scan tail).2.1] at hwtail
    cases hwtail

end ClauseText

/-! ## Counts with a sign -/

/-- A count as it is written: digits, perhaps behind a minus sign. -/
def SignedDigits (n : List Char) : Prop := Digits n ∨ ∃ m, Digits m ∧ n = '-' :: m

theorem signedDigits_toString (count : Int) : SignedDigits (toString count).toList := by
  cases count with
  | ofNat k => exact .inl (digits_toString (Int.natCast_nonneg k))
  | negSucc k =>
    refine .inr ⟨_, digits_toString (Int.natCast_nonneg (k + 1)), ?_⟩
    exact String.toList_append

namespace SignedDigits

variable {n : List Char}

theorem limitsFrom (h : SignedDigits n) : limitsFrom [] n = [] := by
  rcases h with h | ⟨m, hm, rfl⟩
  · exact h.limitsFrom
  · rw [limitsFrom_nil_sep (by decide), hm.limitsFrom]

theorem count_dash (h : SignedDigits n) : n.count '-' ≤ 1 := by
  have hdigits : ∀ {m : List Char}, Digits m → m.count '-' = 0 := fun hm =>
    List.count_eq_zero_of_not_mem (hm.not_mem (by decide))
  rcases h with h | ⟨m, hm, rfl⟩
  · rw [hdigits h]
    exact Nat.zero_le 1
  · rw [List.count_cons_self, hdigits hm]

/-- The count ends with a digit. -/
theorem exists_getLast? (h : SignedDigits n) : ∃ c, n.getLast? = some c ∧ isDigit c = true := by
  have hdigits : ∀ {m : List Char}, Digits m → ∃ c, m.getLast? = some c ∧ isDigit c = true :=
    fun hm => ⟨_, List.getLast?_eq_some_getLast hm.1, hm.2 _ (List.getLast_mem hm.1)⟩
  rcases h with h | ⟨m, hm, rfl⟩
  · exact hdigits h
  · obtain ⟨c, hlast, hc⟩ := hdigits hm
    exact ⟨c, by rw [List.getLast?_cons, hlast]; rfl, hc⟩

theorem clauseText (h : SignedDigits n) : ClauseText (limitClause n) := by
  unfold limitClause
  have hword : " LIMIT ".toList.count '-' = 0 := by decide
  generalize " LIMIT ".toList = word at hword
  refine ⟨fun hdashes => ?_, ?_⟩
  · have hle := hdashes.sublist.count_le '-'
    have htwo : ['-', '-'].count '-' = 2 := by decide
    have hn := h.count_dash
    rw [List.count_append, hword, htwo] at hle
    omega
  · obtain ⟨c, hlast, hc⟩ := h.exists_getLast?
    refine ⟨c, ?_, isBlank_of_isDigit hc, ?_, ?_⟩
    · rw [List.getLast?_append, hlast]
      rfl
    · rintro rfl
      exact absurd hc (by decide)
    · rintro rfl
      exact absurd hc (by decide)

end SignedDigits

/-- **A limit does not move the tail.** A second one is put right behind the first. -/
theorem insertBeforeTail_limits (s : List Char) (m n : Int) :
    insertBeforeTail (insertBeforeTail s (s!" LIMIT {m}").toList) (s!" LIMIT {n}").toList =
      (splitTail s).1 ++ (s!" LIMIT {m} LIMIT {n}").toList ++ (splitTail s).2 := by
  have hclause : ClauseText (s!" LIMIT {m}").toList := by
    rw [toList_limit]
    exact (signedDigits_toString m).clauseText
  have hhead : (s!" LIMIT {m}").toList.head? ≠ some '-' := by
    rw [toList_limit]
    exact fun h => absurd (Option.some.inj h) (by decide)
  have hboth : (s!" LIMIT {m} LIMIT {n}").toList =
      (s!" LIMIT {m}").toList ++ (s!" LIMIT {n}").toList := by
    simp [toString, String.toList_append]
  rw [insertBeforeTail, hclause.splitTail_insertBeforeTail hhead, hboth]
  simp only [List.append_assoc]

end SqlDialect.Query

namespace SqlDialect.Clause

open Query Text

/-- There are as many row limits as before, but at least one. -/
theorem rowLimits_appendLimit {d : Dialect} (hd : d.limitStyle = true) (query : String)
    (count : Int) : rowLimits (appendLimit d query count).toList =
      Nat.max 1 (rowLimits query.toList) := by
  cases hlimit : hasRowLimit query.toList with
  | true =>
    rw [appendLimit_of_hasRowLimit hlimit]
    exact (Nat.max_eq_right (rowLimits_pos_iff.2 hlimit)).symm
  | false =>
    have hnone := hasRowLimit_eq_false_iff.1 hlimit
    have hcount := (signedDigits_toString count).limitsFrom
    rw [toList_appendLimit hd hlimit, toList_limit, rowLimits_eq_length, rowLimits_eq_length,
      limitsFrom_insertBeforeTail_of_nil hnone hcount, hnone]
    rfl

/-- **A limit is put in once.** For a dialect that limits rows at the end of a query, the query has
afterwards as many row limits as before, but at least one; and asking for a limit again, whatever
the dialect and the count, changes nothing. -/
theorem appendLimit_once {name : Option String} (hname : (Dialect.resolve name).limitStyle = true)
    (other : Option String) (query : String) (count again : Int) :
    rowLimits (appendLimit (Dialect.resolve name) query count).toList =
        Nat.max 1 (rowLimits query.toList) ∧
      appendLimit (Dialect.resolve other) (appendLimit (Dialect.resolve name) query count) again =
        appendLimit (Dialect.resolve name) query count := by
  have hrows := rowLimits_appendLimit hname query count
  refine ⟨hrows, appendLimit_of_hasRowLimit (rowLimits_pos_iff.1 ?_) _ _⟩
  rw [hrows]
  exact Nat.le_max_left 1 _

/-- A count below zero, before a comment. -/
theorem appendLimit_once_negative :
    (Dialect.resolve (some "Postgre-SQL")).limitStyle = true ∧
      appendLimit .mysql (appendLimit (Dialect.resolve (some "Postgre-SQL"))
          "SELECT limits FROM t -- no_limit" (-1)) 5 =
        "SELECT limits FROM t LIMIT -1 -- no_limit" := by
  have hname : (Dialect.resolve (some "Postgre-SQL")).limitStyle = true := by decide
  exact ⟨hname, ((appendLimit_once hname (some "mysql") "SELECT limits FROM t -- no_limit"
    (-1) 5).2).trans (by decide)⟩

end SqlDialect.Clause
