import SqlDialect.Proofs.Parentheses

/-!
# The lists of table hints

A table hint is left out with its list, and the list ends at the first closing parenthesis. Where a
hint takes an argument in parentheses of its own, that is too early.

* `hintList` — reads a table hint and gives its list; `hintList_reads` says what is read, and
  `tableHint_eq_map` that it is the hint.
* `Balanced.count_eq` — a balanced text opens as often as it closes.
* `count_replaceAll_hintList` — leaving a hint out takes away one parenthesis that closes, and all
  that its list opens besides the one before it.
* `Rule.tableHints_balanced_iff` — so a balanced text stays balanced exactly when none of the lists
  opens anything; `Rule.tableHints_nested_list` is a hint with an argument.
-/

namespace SqlDialect.Query

open Scan Text

/-! ## Lists -/

/-- Reads a table hint and gives its list. -/
def hintList : Scanner (List Char) := fun _ s => do
  let s ← skipBlanks1? s
  let s ← keyword? "with".toList s
  let s ← symbol? '(' (skipBlanks s)
  enclosed1? [')'] ')' s

/-- The list of a hint with what stands around it: it opens one parenthesis and closes it. -/
inductive HintListText : List Char → List Char → Prop where
  | mk {head list : List Char} (hhead : Flat head) (hlist : ')' ∉ list) :
      HintListText (head ++ ['('] ++ list ++ [')']) list

theorem hintList_reads : Reads hintList fun _ text list _ => HintListText text list := by
  intro before s list rest h
  simp only [hintList, Option.bind_eq_bind, Option.bind_eq_some_iff] at h
  obtain ⟨s₁, h₁, s₂, h₂, s₃, h₃, h₄⟩ := h
  obtain ⟨b₁, -, hb₁, rfl⟩ := skipBlanks1?_eq_some h₁
  obtain ⟨word, hword, rfl⟩ := keyword?_eq_some h₂
  obtain ⟨b₂, hb₂, rfl⟩ := symbol?_skipBlanks_eq_some h₃
  obtain ⟨-, hlist, rfl⟩ := enclosed1?_eq_some (by simp) h₄
  have hhead : Flat (b₁ ++ word ++ b₂) :=
    (hb₁.flat.append (hword.flat (by decide))).append hb₂.flat
  exact ⟨_, by simp, by simp, .mk hhead fun hc => hlist ')' hc (by simp)⟩

/-- A hint is what a list is read from. -/
theorem tableHint_eq_map (before : Option Char) (s : List Char) :
    tableHint before s = (hintList before s).map fun r => ((), r.2) := by
  simp only [tableHint, hintList, Option.bind_eq_bind, Option.pure_def, Option.map_eq_bind,
    Function.comp_def, Option.bind_assoc]

/-! ## Counting parentheses -/

/-- The depth of a text counts what it opens and what it closes. -/
theorem depthAfter_count {d e : Nat} {s : List Char} (h : depthAfter d s = some e) :
    d + s.count '(' = e + s.count ')' := by
  induction s generalizing d with
  | nil =>
    obtain rfl := Option.some.inj h
    rfl
  | cons c s ih =>
    by_cases hopen : c = '('
    · subst hopen
      have hs := ih h
      rw [List.count_cons_self, List.count_cons_of_ne (by decide)]
      omega
    by_cases hclose : c = ')'
    · subst hclose
      cases d with
      | zero => cases h
      | succ d =>
        have hs := ih h
        rw [List.count_cons_self, List.count_cons_of_ne (by decide)]
        omega
    · rw [depthAfter_cons_of_ne hopen hclose] at h
      rw [List.count_cons_of_ne hopen, List.count_cons_of_ne hclose]
      exact ih h

theorem Balanced.count_eq {s : List Char} (h : Balanced s) : s.count '(' = s.count ')' := by
  have hcount := depthAfter_count h
  omega

/-- A hint whose list opens nothing leaves the depth as it was. -/
theorem HintListText.sameDepth {text list : List Char} (h : HintListText text list)
    (hopen : '(' ∉ list) : SameDepth [] text := by
  obtain ⟨hhead, hlist⟩ := h
  intro d
  simp only [List.append_assoc, List.cons_append, List.nil_append, depthAfter_flat_append hhead,
    depthAfter_open, depthAfter_flat_append ⟨hopen, hlist⟩, depthAfter_close]

/-- Where no list opens anything, leaving the hints out leaves the depth as it was. -/
theorem sameDepth_replaceAll_hintList {s : List Char} (h : ∀ list ∈ hits hintList s, '(' ∉ list) :
    SameDepth (replaceAll hintList (fun _ => []) s) s := by
  unfold replaceAll hits pieces at *
  refine piecesFrom_induction hintList_reads (motive := fun _ s ps =>
    (∀ list ∈ ps.filterMap Piece.value?, '(' ∉ list) →
      SameDepth (ps.flatMap (Piece.render fun _ => [])) s) ?_ ?_ ?_ none s h
  · exact fun _ _ => .refl []
  · intro _ c s ps _ ih hlists
    exact (SameDepth.refl [c]).append (ih hlists)
  · intro _ text list rest ps _ htext ih hlists
    obtain ⟨hlist, hlists⟩ := List.forall_mem_cons.1 hlists
    exact (htext.sameDepth hlist).append (ih hlists)

theorem HintListText.count_open {text list : List Char} (h : HintListText text list) :
    text.count '(' = list.count '(' + 1 := by
  obtain ⟨hhead, -⟩ := h
  simp [List.count_eq_zero_of_not_mem hhead.1]

theorem HintListText.count_close {text list : List Char} (h : HintListText text list) :
    text.count ')' = 1 := by
  obtain ⟨hhead, hlist⟩ := h
  simp [List.count_eq_zero_of_not_mem hhead.2, List.count_eq_zero_of_not_mem hlist]

/-- What a text opens and closes, and what is left of that without its hints. -/
theorem count_replaceAll_hintList (s : List Char) :
    s.count '(' + (replaceAll hintList (fun _ => []) s).count ')' =
      (replaceAll hintList (fun _ => []) s).count '(' + s.count ')' +
        (hits hintList s).flatten.count '(' := by
  unfold replaceAll hits pieces
  refine piecesFrom_induction hintList_reads (motive := fun _ s ps =>
    s.count '(' + (ps.flatMap (Piece.render fun _ => [])).count ')' =
      (ps.flatMap (Piece.render fun _ => [])).count '(' + s.count ')' +
        (ps.filterMap Piece.value?).flatten.count '(') ?_ ?_ ?_ none s
  · intro _
    rfl
  · intro _ c s ps _ ih
    have hout : (Piece.keep c :: ps).flatMap (Piece.render fun _ => []) =
        c :: ps.flatMap (Piece.render fun (_ : List Char) => []) := rfl
    rw [hout, List.filterMap_cons_none rfl]
    simp only [List.count_cons]
    omega
  · intro _ text list rest ps _ htext ih
    have hopen := htext.count_open
    have hclose := htext.count_close
    have hlists : ((Piece.hit list :: ps).filterMap Piece.value?).flatten =
        list ++ (ps.filterMap Piece.value?).flatten := rfl
    have hout : (Piece.hit list :: ps).flatMap (Piece.render fun _ => []) =
        ps.flatMap (Piece.render fun _ => []) := rfl
    rw [hlists, hout]
    simp only [List.count_append]
    omega

end SqlDialect.Query

namespace SqlDialect

open Query Scan Text

/-- **Hints leave a balanced text balanced if their lists open nothing.** A hint list is left out up
to its first closing parenthesis. Every parenthesis that the list opens before it loses the one that
closes it, so the text stays balanced exactly when there is none in any of the lists. -/
theorem Rule.tableHints_balanced_iff (whole : List Char) {s : List Char} (h : Balanced s) :
    Balanced (Rule.tableHints.apply whole s) ↔ ∀ list ∈ hits hintList s, '(' ∉ list := by
  have happly : Rule.tableHints.apply whole s = replaceAll hintList (fun _ => []) s :=
    replaceAll_of_map (f := fun _ => ()) tableHint_eq_map _ s
  rw [happly]
  constructor
  · intro hout list hlist hopen
    have hcount := count_replaceAll_hintList s
    have hzero : (hits hintList s).flatten.count '(' = 0 := by
      rw [h.count_eq, hout.count_eq] at hcount
      omega
    exact List.count_eq_zero.1 hzero (List.mem_flatten_of_mem hlist hopen)
  · intro hlists
    exact (sameDepth_replaceAll_hintList hlists).balanced_iff.2 h

theorem Rule.tableHints_flat_lists :
    Balanced "FROM (a WITH (NOLOCK)), f(b) with (ROWLOCK, HOLDLOCK)".toList ∧
      Balanced (Rule.tableHints.apply []
        "FROM (a WITH (NOLOCK)), f(b) with (ROWLOCK, HOLDLOCK)".toList) := by
  have hlists : hits hintList "FROM (a WITH (NOLOCK)), f(b) with (ROWLOCK, HOLDLOCK)".toList =
      ["NOLOCK".toList, "ROWLOCK, HOLDLOCK".toList] := by decide
  have hbalanced : Balanced "FROM (a WITH (NOLOCK)), f(b) with (ROWLOCK, HOLDLOCK)".toList := by
    decide
  refine ⟨hbalanced, (Rule.tableHints_balanced_iff [] hbalanced).2 ?_⟩
  rw [hlists]
  simp

/-- The argument of a hint ends its list, and the parenthesis that ends the list is left. -/
theorem Rule.tableHints_nested_list :
    Balanced "SELECT * FROM t WITH (INDEX(ix))".toList ∧
      Rule.tableHints.apply [] "SELECT * FROM t WITH (INDEX(ix))".toList =
        "SELECT * FROM t)".toList ∧ ¬Balanced "SELECT * FROM t)".toList := by
  decide

end SqlDialect
