import Mathlib.Data.List.Basic
import SqlDialect.Clause
import SqlDialect.Proofs.LimitWords

/-!
# What is written behind a statement

Behind its last clause a statement may have blanks, terminators and line comments, in any order and
number. The tail before which a clause is put knows one order only.

* `Trailer` — blanks, terminators and comments behind a statement, item by item.
* `Trailer.TerminatorFirst` — no terminator stands behind a comment or another terminator.
* `isTail_text_iff` — a trailer is a tail exactly when it is in this order.
* `splitTail_core_append` — where a statement is cut that ends with a trailer.
* `appendLimit_trailer_iff` — a limit is put before the whole trailer exactly when it is in this
  order; `appendLimit_comment_terminator` is a limit that becomes part of a comment.
-/

namespace SqlDialect.Query

open Text

/-! ## Reading from the end -/

/-- Dashes and terminators are not blank. -/
theorem ne_of_isBlank {c : Char} (h : isBlank c = true) : c ≠ '-' ∧ c ≠ ';' := by
  constructor <;> rintro rfl <;> revert h <;> decide

theorem spaced_blank {c : Char} (hc : isBlank c = true) (s : List Char) :
    (scanTail (c :: s)).spaced = (scanTail s).spaced := by
  simp [spaced_cons, hc, (ne_of_isBlank hc).1]

theorem isTail_blank {c : Char} (hc : isBlank c = true) (s : List Char) :
    isTail (c :: s) = isTail s := by
  simp [isTail_cons, hc, (ne_of_isBlank hc).1, (ne_of_isBlank hc).2]

/-- A tail that begins within a text without terminators and dashes begins with blanks. -/
theorem blanks_of_isTail_append {y s : List Char} (hterminator : ';' ∉ y) (hdash : '-' ∉ y)
    (h : isTail (y ++ s) = true) : Blanks y := by
  induction y with
  | nil => exact fun c hc => absurd hc List.not_mem_nil
  | cons c y ih =>
    rw [List.mem_cons, not_or] at hterminator hdash
    rw [List.cons_append, isTail_cons] at h
    simp only [beq_eq_false_iff_ne.2 (Ne.symm hdash.1),
      beq_eq_false_iff_ne.2 (Ne.symm hterminator.1),
      Bool.false_and, Bool.false_or, Bool.and_eq_true] at h
    intro d hd
    rcases List.mem_cons.1 hd with rfl | hd
    · exact h.1
    · exact ih hterminator.2 hdash.2 h.2 d hd

/-- The longest tail is split off. -/
theorem splitTail_append_of_isTail {p s : List Char} (hs : isTail s = true)
    (hp : ∀ u, u ≠ [] → u <:+ p → isTail (u ++ s) = false) : splitTail (p ++ s) = (p, s) := by
  induction p with
  | nil => exact splitTail_of_isTail hs
  | cons c p ih =>
    have hrest := ih fun u hu hsuffix => hp u hu (hsuffix.trans (List.suffix_cons c p))
    have hwhole : ((splitScan (p ++ s)).1.cons c).whole = false := by
      rw [splitScan_fst]
      exact hp (c :: p) (List.cons_ne_nil c p) (List.suffix_refl _)
    rw [splitTail] at hrest ⊢
    simp only [List.cons_append, splitScan, hwhole, hrest, Bool.false_eq_true, if_false]

/-! ## Trailers -/

/-- The text of a comment behind its dashes: all on one line, and without a single quote. -/
structure CommentLine where
  text : List Char
  no_quote : '\'' ∉ text
  no_break : '\n' ∉ text

/-- What may stand behind a statement: a blank, a terminator, or a comment with its line end. -/
inductive Trivia where
  | blank (c : Char) (h : isBlank c = true)
  | terminator
  | comment (line : CommentLine)

/-- An item as it is written. -/
def Trivia.text : Trivia → List Char
  | blank c _ => [c]
  | terminator => [';']
  | comment line => '-' :: '-' :: (line.text ++ ['\n'])

/-- The item is a blank. -/
def Trivia.IsBlank : Trivia → Prop
  | blank _ _ => True
  | terminator => False
  | comment _ => False

/-- The items behind a statement. A comment at the very end may lack its line end. -/
structure Trailer where
  items : List Trivia
  last : Option CommentLine

namespace Trailer

/-- A trailer as it is written. -/
def text (t : Trailer) : List Char :=
  t.items.flatMap Trivia.text ++ (t.last.map fun line => '-' :: '-' :: line.text).getD []

/-- There is more than blanks. -/
def Marked (t : Trailer) : Prop := t.last ≠ none ∨ ∃ item ∈ t.items, ¬item.IsBlank

/-- No terminator stands behind a comment or another terminator. -/
def TerminatorFirst (t : Trailer) : Prop :=
  t.items.Pairwise fun x y => x.IsBlank ∨ y ≠ .terminator

theorem text_cons (item : Trivia) (items : List Trivia) (last : Option CommentLine) :
    text ⟨item :: items, last⟩ = item.text ++ text ⟨items, last⟩ := by
  simp [text]

theorem marked_blank {c : Char} {hc : isBlank c = true} {items : List Trivia}
    {last : Option CommentLine} : Marked ⟨.blank c hc :: items, last⟩ ↔ Marked ⟨items, last⟩ := by
  simp [Marked, Trivia.IsBlank]

theorem marked_of_not_isBlank {item : Trivia} (h : ¬item.IsBlank) (items : List Trivia)
    (last : Option CommentLine) : Marked ⟨item :: items, last⟩ :=
  .inr ⟨item, List.mem_cons_self, h⟩

theorem terminatorFirst_blank {c : Char} {hc : isBlank c = true} {items : List Trivia}
    {last : Option CommentLine} :
    TerminatorFirst ⟨.blank c hc :: items, last⟩ ↔ TerminatorFirst ⟨items, last⟩ := by
  simp [TerminatorFirst, Trivia.IsBlank]

/-- Behind a comment or a terminator there may be no terminator. -/
theorem terminatorFirst_of_not_isBlank {item : Trivia} (h : ¬item.IsBlank) {items : List Trivia}
    {last : Option CommentLine} :
    TerminatorFirst ⟨item :: items, last⟩ ↔ Trivia.terminator ∉ items := by
  simp only [TerminatorFirst, List.pairwise_cons, h, false_or]
  constructor
  · rintro ⟨hall, -⟩ hmem
    exact hall _ hmem rfl
  · intro hmem
    refine ⟨fun item hitem heq => hmem (heq ▸ hitem), ?_⟩
    exact List.pairwise_of_forall_mem_list fun _ _ y hy => .inr fun heq => hmem (heq ▸ hy)

/-- A trailer starts with a blank, a terminator or a dash. -/
theorem head_text {t : Trailer} {c : Char} {s : List Char} (h : t.text = c :: s) :
    isBlank c = true ∨ c = ';' ∨ c = '-' := by
  obtain ⟨items, last⟩ := t
  cases items with
  | nil =>
    cases last with
    | none => cases h
    | some line => exact .inr (.inr (List.cons.inj h).1.symm)
  | cons item items =>
    rw [text_cons] at h
    cases item with
    | blank d hd => exact .inl ((List.cons.inj h).1 ▸ hd)
    | terminator => exact .inr (.inl (List.cons.inj h).1.symm)
    | comment line => exact .inr (.inr (List.cons.inj h).1.symm)

end Trailer

/-! ## Comments -/

/-- Within a line nothing helps: what follows the line has to be blanks and comments. -/
theorem spaced_of_line {y rest : List Char} (hy : '\n' ∉ y) :
    (scanTail (y ++ '\n' :: rest)).spaced = true ∨ (scanTail (y ++ '\n' :: rest)).dash = true ∨
      (scanTail (y ++ '\n' :: rest)).inComment = true → (scanTail rest).spaced = true := by
  induction y with
  | nil =>
    rw [List.nil_append, inComment_cons, dash_cons, spaced_blank (by decide)]
    simp
  | cons c y ih =>
    rw [List.mem_cons, not_or] at hy
    rw [List.cons_append, inComment_cons, dash_cons, spaced_cons]
    simp only [Bool.or_eq_true, Bool.and_eq_true]
    rintro ((⟨-, h⟩ | ⟨-, h⟩) | ⟨-, h⟩ | (⟨-, h⟩ | ⟨-, h⟩) | ⟨-, h⟩)
    · exact ih hy.2 (.inr (.inl h))
    · exact ih hy.2 (.inl h)
    · exact ih hy.2 (.inr (.inr h))
    · exact ih hy.2 (.inr (.inl h))
    · exact ih hy.2 (.inl h)
    · exact ih hy.2 (.inr (.inr h))

theorem CommentLine.inComment_append (line : CommentLine) {s : List Char}
    (hs : (scanTail s).inComment = true) : (scanTail (line.text ++ s)).inComment = true := by
  obtain ⟨text, hquote, hbreak⟩ := line
  induction text with
  | nil => exact hs
  | cons c text ih =>
    rw [List.mem_cons, not_or] at hquote hbreak
    rw [List.cons_append, inComment_cons, ih hquote.2 hbreak.2]
    simp [Ne.symm hquote.1, Ne.symm hbreak.1]

/-- A comment is over with its line. -/
theorem CommentLine.inComment_line (line : CommentLine) (rest : List Char) :
    (scanTail (line.text ++ '\n' :: rest)).inComment = (scanTail rest).spaced := by
  rw [Bool.eq_iff_iff]
  constructor
  · exact fun h => spaced_of_line line.no_break (.inr (.inr h))
  · intro h
    refine line.inComment_append ?_
    rw [inComment_cons, spaced_blank (by decide), h, Bool.true_or]

theorem isTail_comment (s : List Char) :
    isTail ('-' :: '-' :: s) = (scanTail s).inComment := by
  simp [isTail_cons, dash_cons, show isBlank '-' = false by decide]

theorem spaced_comment (s : List Char) :
    (scanTail ('-' :: '-' :: s)).spaced = (scanTail s).inComment := by
  simp [spaced_cons, dash_cons, show isBlank '-' = false by decide]

theorem Trivia.text_comment_append (line : CommentLine) (s : List Char) :
    (Trivia.comment line).text ++ s = '-' :: '-' :: (line.text ++ '\n' :: s) := by
  simp [Trivia.text]

theorem CommentLine.inComment_text (line : CommentLine) :
    (scanTail line.text).inComment = true := by
  simpa using line.inComment_append (s := []) rfl

/-! ## Trailers and tails -/

/-- Blanks and comments are what follows if there is no terminator. -/
theorem spaced_text_iff (t : Trailer) :
    (scanTail t.text).spaced = true ↔ Trivia.terminator ∉ t.items := by
  obtain ⟨items, last⟩ := t
  induction items with
  | nil =>
    refine iff_of_true ?_ List.not_mem_nil
    cases last with
    | none => rfl
    | some line => exact (spaced_comment _).trans line.inComment_text
  | cons item items ih =>
    rw [Trailer.text_cons, List.mem_cons, not_or]
    cases item with
    | blank c hc =>
      rw [Trivia.text, List.singleton_append, spaced_blank hc, ih]
      simp
    | terminator =>
      rw [Trivia.text, List.singleton_append, spaced_cons, show isBlank ';' = false by decide]
      simp
    | comment line =>
      rw [Trivia.text_comment_append, spaced_comment, line.inComment_line, ih]
      simp

/-- **A trailer is a tail** exactly when no terminator stands behind a comment or another
terminator, and it is not all blank. -/
theorem isTail_text_iff (t : Trailer) : isTail t.text = true ↔ t.Marked ∧ t.TerminatorFirst := by
  obtain ⟨items, last⟩ := t
  induction items with
  | nil =>
    cases last with
    | none => simp [Trailer.text, Trailer.Marked, isTail, scanTail, TailScan.empty]
    | some line =>
      refine iff_of_true ((isTail_comment _).trans line.inComment_text)
        ⟨.inl (Option.some_ne_none _), ?_⟩
      exact List.Pairwise.nil
  | cons item items ih =>
    rw [Trailer.text_cons]
    -- behind blanks the order is still open; the first other item settles it
    cases item with
    | blank c hc =>
      rw [Trivia.text, List.singleton_append, isTail_blank hc, ih, Trailer.marked_blank,
        Trailer.terminatorFirst_blank]
    | terminator =>
      have hitem : ¬Trivia.terminator.IsBlank := id
      rw [Trailer.terminatorFirst_of_not_isBlank hitem, Trivia.text, List.singleton_append,
        isTail_cons, ← spaced_text_iff ⟨items, last⟩, show isBlank ';' = false by decide]
      simp [Trailer.marked_of_not_isBlank hitem]
    | comment line =>
      have hitem : ¬(Trivia.comment line).IsBlank := id
      rw [Trailer.terminatorFirst_of_not_isBlank hitem, Trivia.text_comment_append, isTail_comment,
        line.inComment_line, spaced_text_iff ⟨items, last⟩]
      simp [Trailer.marked_of_not_isBlank hitem]

/-! ## Statements with a trailer -/

/-- A statement without what is written behind it: no terminator, no dash, no blank at its end and
no row limit. -/
structure StatementCore (s : List Char) : Prop where
  no_terminator : ';' ∉ s
  no_dash : '-' ∉ s
  no_blank_end : s.getLast?.any isBlank = false
  unlimited : hasRowLimit s = false

namespace StatementCore

variable {core : List Char}

/-- A tail of the statement begins behind it. -/
theorem isTail_suffix_append (h : StatementCore core) {u : List Char} (hu : u ≠ [])
    (hsuffix : u <:+ core) (s : List Char) : isTail (u ++ s) = false := by
  rw [Bool.eq_false_iff]
  intro htail
  have hblanks := blanks_of_isTail_append (fun hm => h.no_terminator (hsuffix.subset hm))
    (fun hm => h.no_dash (hsuffix.subset hm)) htail
  obtain ⟨x, rfl⟩ := hsuffix
  have hlast : (x ++ u).getLast? = some (u.getLast hu) := by
    rw [List.getLast?_append_of_ne_nil x hu, List.getLast?_eq_some_getLast hu]
  have hend := h.no_blank_end
  rw [hlast, Option.any_some, hblanks _ (List.getLast_mem hu)] at hend
  cases hend

/-- The statement is kept in one piece, with some of what follows it. -/
theorem splitTail_core_append (h : StatementCore core) (s : List Char) :
    ∃ y, (splitTail (core ++ s)).1 = core ++ y ∧ s = y ++ (splitTail (core ++ s)).2 := by
  have hall := splitTail_append (core ++ s)
  rcases List.append_eq_append_iff.1 hall with ⟨u, hcore, htail⟩ | ⟨y, hbody, hs⟩
  · cases u with
    | nil =>
      rw [List.append_nil] at hcore
      exact ⟨[], by rw [List.append_nil]; exact hcore.symm, htail.symm⟩
    | cons c u =>
      -- the tail would begin within the statement
      have hsuffix : c :: u <:+ core := ⟨_, hcore.symm⟩
      have hnot := h.isTail_suffix_append (List.cons_ne_nil c u) hsuffix s
      rcases splitTail_snd (core ++ s) with hnil | htrue
      · rw [hnil] at htail
        cases htail
      · rw [htail, hnot] at htrue
        cases htrue
  · exact ⟨y, hbody, hs⟩

theorem hasRowLimit_append_text (h : StatementCore core) {t : Trailer}
    (ht : hasRowLimit t.text = false) : hasRowLimit (core ++ t.text) = false := by
  have hend : atWordEnd t.text = true := by
    cases htext : t.text with
    | nil => rfl
    | cons c s =>
      have hword : isWord c = false := by
        rcases Trailer.head_text htext with hc | rfl | rfl
        · exact isWord_of_isBlank hc
        · decide
        · decide
      simp [atWordEnd, hword]
  have hcore := hasRowLimit_eq_false_iff.1 h.unlimited
  rw [hasRowLimit_eq_false_iff, limitsFrom_of_nil_atWordEnd hcore hend]
  exact hasRowLimit_eq_false_iff.1 ht

/-- A limit that is put elsewhere than before the trailer makes another text. -/
theorem append_limit_ne {y : List Char} (hy : y ≠ []) {t : Trailer} {tail : List Char}
    (ht : t.text = y ++ tail) (count : List Char) :
    core ++ y ++ limitClause count ++ tail ≠ core ++ limitClause count ++ t.text := by
  intro heq
  have hswap : y ++ (limitClause count ++ tail) = limitClause count ++ (y ++ tail) := by
    rw [ht] at heq
    simpa using heq
  obtain ⟨c, y, rfl⟩ := List.exists_cons_of_ne_nil hy
  obtain ⟨rfl, hrest⟩ := List.cons.inj hswap
  -- the trailer would start with a space and the `L` of the limit
  cases y with
  | nil => exact absurd (List.cons.inj hrest).1 (by decide)
  | cons d y =>
    obtain ⟨rfl, -⟩ := List.cons.inj hrest
    obtain ⟨items, last⟩ := t
    cases items with
    | nil =>
      cases last with
      | none => cases ht
      | some line => exact absurd (List.cons.inj ht).1 (by decide)
    | cons item items =>
      rw [Trailer.text_cons] at ht
      cases item with
      | blank d hd =>
        have hhead := Trailer.head_text (List.cons.inj ht).2
        revert hhead
        decide
      | terminator => exact absurd (List.cons.inj ht).1 (by decide)
      | comment line => exact absurd (List.cons.inj ht).1 (by decide)

/-- A limit is put before the whole trailer exactly when the trailer is a tail. -/
theorem insertBeforeTail_iff (h : StatementCore core) {t : Trailer} (ht : t.Marked)
    (count : List Char) :
    insertBeforeTail (core ++ t.text) (limitClause count) = core ++ limitClause count ++ t.text ↔
      isTail t.text = true := by
  constructor
  · intro heq
    obtain ⟨y, hbody, htext⟩ := h.splitTail_core_append t.text
    rw [insertBeforeTail, hbody] at heq
    obtain rfl : y = [] := by
      by_contra hy
      exact append_limit_ne hy htext count heq
    rw [List.nil_append] at htext
    refine (splitTail_snd (core ++ t.text)).elim (fun hnil => ?_) fun htail => ?_
    · -- something is written in the trailer
      rw [hnil] at htext
      obtain ⟨items, last⟩ := t
      simp only [Trailer.text, List.append_eq_nil_iff, List.flatMap_eq_nil_iff] at htext
      rcases ht with hlast | ⟨item, hitem, -⟩
      · obtain ⟨line, rfl⟩ := Option.ne_none_iff_exists'.1 hlast
        cases htext.2
      · have hnil := htext.1 item hitem
        cases item <;> cases hnil
    · rw [← htext] at htail
      exact htail
  · intro htail
    have hsplit := splitTail_append_of_isTail htail fun u hu hsuffix =>
      h.isTail_suffix_append hu hsuffix t.text
    rw [insertBeforeTail, hsplit]

end StatementCore

end SqlDialect.Query

namespace SqlDialect.Clause

open Query Text

/-- **Trailers stay last, if a terminator comes first.** Take a statement without a row limit and
what is written behind it: blanks, terminators and comments in any order, not only blanks. A limit
is put between the two exactly when no terminator stands behind a comment or another terminator. -/
theorem appendLimit_trailer_iff {d : Dialect} (hd : d.limitStyle = true) (core : String)
    (hcore : StatementCore core.toList) {t : Trailer} (ht : t.Marked)
    (hlimit : hasRowLimit t.text = false) (count : Int) :
    appendLimit d (core ++ String.ofList t.text) count =
        core ++ s!" LIMIT {count}" ++ String.ofList t.text ↔
      t.TerminatorFirst := by
  have hquery : (core ++ String.ofList t.text).toList = core.toList ++ t.text := by
    rw [String.toList_append, String.toList_ofList]
  have hclause : (s!" LIMIT {count}").toList = limitClause (toString count).toList :=
    String.toList_append
  have hresult : (core ++ s!" LIMIT {count}" ++ String.ofList t.text).toList =
      core.toList ++ limitClause (toString count).toList ++ t.text := by
    rw [String.toList_append, String.toList_append, hclause, String.toList_ofList]
  have hrows := hcore.hasRowLimit_append_text hlimit
  have happend : appendLimit d (core ++ String.ofList t.text) count =
      String.ofList (insertBeforeTail (core.toList ++ t.text)
        (limitClause (toString count).toList)) := by
    unfold appendLimit
    rw [hquery, hd, hrows, hclause]
    rfl
  rw [happend, ← String.toList_inj, String.toList_ofList, hresult,
    hcore.insertBeforeTail_iff ht, isTail_text_iff]
  exact and_iff_right ht

theorem appendLimit_trailer_done :
    appendLimit .postgres "SELECT 1; -- done" 5 = "SELECT 1 LIMIT 5; -- done" :=
  (appendLimit_trailer_iff (d := .postgres) rfl "SELECT 1"
    (t := ⟨[.terminator, .blank ' ' (by decide)], some ⟨" done".toList, by decide, by decide⟩⟩)
    ⟨by decide, by decide, by decide, by decide⟩ (.inl (Option.some_ne_none _)) (by decide) 5).2
    (by simp [Trailer.TerminatorFirst])

/-- A comment, its line end, and only then a terminator. -/
def lateTerminator : Trailer :=
  ⟨[.blank ' ' (by decide), .comment ⟨" c".toList, by decide, by decide⟩, .terminator], none⟩

/-- The limit becomes part of the comment. -/
theorem appendLimit_comment_terminator :
    (StatementCore "SELECT 1".toList ∧ lateTerminator.Marked ∧
      hasRowLimit lateTerminator.text = false) ∧
      appendLimit .postgres ("SELECT 1" ++ String.ofList lateTerminator.text) 5 =
        "SELECT 1 -- c LIMIT 5\n;" ∧
      "SELECT 1 -- c LIMIT 5\n;" ≠ "SELECT 1" ++ " LIMIT 5" ++ String.ofList lateTerminator.text :=
  ⟨⟨⟨by decide, by decide, by decide, by decide⟩,
    .inr ⟨.terminator, by simp [lateTerminator], id⟩, by decide⟩, by decide, by decide⟩

end SqlDialect.Clause
