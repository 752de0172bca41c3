import SqlDialect.Proofs.Changes

/-!
# Sums of literals, seen from the quotes

A sum of literals can start at any quote, also at one that closes a literal. What the turns of
`concatLiterals` do in the end is best said of the gaps between the quotes of a text, without a look
at which of them are literals.

* `gaps` — the stretches of a text between its single quotes; `quotes_induction` goes from one quote
  to the next.
* `isPlus` — a gap that is a `+` among blanks.
* `joinGaps` — such a gap becomes ` || `, unless it is one of the first two or the last two gaps.
* `readable_literalSum_of_gaps` — a sum can be read wherever such a gap has two gaps before it and
  two behind it.
* `count_plus_concatPass`, `count_bar_concatPass` — what a turn takes away and puts in.
* `gaps_concatLiterals` — the gaps of the result are the joined gaps of the text.
* `Rule.literalSums_settles` — the turns come to rest, with two bars for each `+` that went.
-/

namespace SqlDialect.Query

open Scan Text

/-! ## Gaps -/

/-- The stretches of a text between its single quotes. -/
def gaps (s : List Char) : List (List Char) := s.splitOn '\''

theorem gaps_ne_nil (s : List Char) : gaps s ≠ [] := List.splitOn_ne_nil '\'' s

theorem gaps_of_not_mem {s : List Char} (h : '\'' ∉ s) : gaps s = [s] := List.splitOn_eq_singleton h

theorem gaps_append_quote (s t : List Char) : gaps (s ++ '\'' :: t) = gaps s ++ gaps t :=
  List.splitOn_append_cons_self s t

/-- Induction from one quote to the next. -/
theorem quotes_induction {motive : List Char → Prop} (last : ∀ g, '\'' ∉ g → motive g)
    (quote : ∀ g s, '\'' ∉ g → motive s → motive (g ++ '\'' :: s)) (s : List Char) : motive s := by
  by_cases h : '\'' ∈ s
  · obtain ⟨g, t, hs, hg⟩ := List.eq_append_cons_of_mem h
    have hlt : t.length < s.length := by
      rw [hs, List.length_append, List.length_cons]
      omega
    rw [hs]
    exact quote g t hg (quotes_induction last quote t)
  · exact last s h
termination_by s.length

/-- With a single gap there is no quote. -/
theorem eq_of_gaps_eq_singleton {s g : List Char} (h : gaps s = [g]) : s = g ∧ '\'' ∉ g := by
  induction s using quotes_induction with
  | last u hu =>
    rw [gaps_of_not_mem hu] at h
    obtain ⟨rfl, -⟩ := List.cons.inj h
    exact ⟨rfl, hu⟩
  | quote u v hu _ =>
    rw [gaps_append_quote, gaps_of_not_mem hu] at h
    exact absurd (List.cons.inj h).2 (gaps_ne_nil v)

/-- The first gap, if there are more, stands before a quote. -/
theorem exists_of_gaps_eq_cons {s g : List Char} {back : List (List Char)}
    (h : gaps s = g :: back) (hback : back ≠ []) :
    ∃ v, s = g ++ '\'' :: v ∧ '\'' ∉ g ∧ gaps v = back := by
  induction s using quotes_induction with
  | last u hu =>
    rw [gaps_of_not_mem hu] at h
    exact absurd (List.cons.inj h).2.symm hback
  | quote u v hu _ =>
    rw [gaps_append_quote, gaps_of_not_mem hu] at h
    obtain ⟨rfl, hv⟩ := List.cons.inj h
    exact ⟨v, rfl, hu, hv⟩

/-- A cut of the gaps is a cut of the text at a quote. -/
theorem exists_of_gaps_eq_append {s : List Char} {front back : List (List Char)}
    (h : gaps s = front ++ back) (hfront : front ≠ []) (hback : back ≠ []) :
    ∃ u v, s = u ++ '\'' :: v ∧ gaps u = front ∧ gaps v = back := by
  induction front generalizing s with
  | nil => exact absurd rfl hfront
  | cons g front ih =>
    obtain ⟨t, rfl, hg, ht⟩ := exists_of_gaps_eq_cons h (by simp [hback])
    by_cases hne : front = []
    · subst hne
      exact ⟨g, t, rfl, gaps_of_not_mem hg, ht⟩
    · obtain ⟨u, v, rfl, rfl, hv⟩ := ih ht hne
      refine ⟨g ++ '\'' :: u, v, by simp, ?_, hv⟩
      rw [gaps_append_quote, gaps_of_not_mem hg]
      rfl

/-! ## Gaps that are joined -/

/-- The gap is a `+` among blanks. -/
def isPlus (g : List Char) : Bool :=
  (skipBlanks g).head? == some '+' && (skipBlanks g).tail.all isBlank

theorem isPlus_iff {g : List Char} :
    isPlus g = true ↔ ∃ b₁ b₂, Blanks b₁ ∧ Blanks b₂ ∧ g = b₁ ++ '+' :: b₂ := by
  unfold isPlus
  simp only [Bool.and_eq_true, beq_iff_eq, List.head?_eq_some_iff]
  constructor
  · rintro ⟨⟨b₂, hplus⟩, hall⟩
    rw [hplus, List.tail_cons] at hall
    obtain ⟨b₁, hb₁, rfl⟩ := skipBlanks_eq hplus
    exact ⟨b₁, b₂, hb₁, List.all_eq_true.1 hall, rfl⟩
  · rintro ⟨b₁, b₂, hb₁, hb₂, rfl⟩
    have hskip : skipBlanks (b₁ ++ '+' :: b₂) = '+' :: b₂ :=
      (skipBlanks_append _ hb₁).trans (List.dropWhile_cons_of_neg (by decide))
    rw [hskip]
    exact ⟨⟨b₂, rfl⟩, List.all_eq_true.2 hb₂⟩

/-- What becomes of a gap between two literals. -/
def joinGap (g : List Char) : List Char := if isPlus g then " || ".toList else g

theorem joinGap_eq_self_iff {g : List Char} : joinGap g = g ↔ isPlus g = false := by
  unfold joinGap
  split
  · rename_i h
    have hbars : isPlus " || ".toList = false := by decide
    constructor
    · intro heq
      rw [heq] at hbars
      exact hbars
    · intro hnot
      rw [h] at hnot
      cases hnot
  · rename_i h
    simpa using h

/-- Joins all gaps but the last two. -/
def joinFront : List (List Char) → List (List Char)
  | g :: x :: y :: gs => joinGap g :: joinFront (x :: y :: gs)
  | gs => gs

/-- Joins all gaps but the first two and the last two. -/
def joinGaps : List (List Char) → List (List Char)
  | x :: y :: gs => x :: y :: joinFront gs
  | gs => gs

theorem joinFront_cons {gs : List (List Char)} (h : 2 ≤ gs.length) (g : List Char) :
    joinFront (g :: gs) = joinGap g :: joinFront gs := by
  match gs with
  | _ :: _ :: _ => rfl
  | [] | [_] => simp at h

theorem joinFront_append {front back : List (List Char)} (h : 2 ≤ back.length) :
    joinFront (front ++ back) = front.map joinGap ++ joinFront back := by
  induction front with
  | nil => rfl
  | cons g front ih =>
    have hlength : 2 ≤ (front ++ back).length := by
      rw [List.length_append]
      omega
    rw [List.cons_append, joinFront_cons hlength, ih]
    rfl

/-- A gap in the middle counts only for what becomes of it. -/
theorem joinGaps_congr {front back : List (List Char)} {g g' : List Char}
    (hfront : 2 ≤ front.length) (hback : 2 ≤ back.length) (h : joinGap g = joinGap g') :
    joinGaps (front ++ g :: back) = joinGaps (front ++ g' :: back) := by
  have hmiddle : ∀ gs k, joinFront (gs ++ k :: back) =
      gs.map joinGap ++ joinGap k :: joinFront back := by
    intro gs k
    have happend : joinFront (gs ++ [k] ++ back) = _ := joinFront_append hback
    simpa using happend
  match front with
  | x :: y :: gs =>
    simp only [List.cons_append, joinGaps, hmiddle, h]
  | [] | [_] => simp at hfront

theorem joinFront_eq_self {gs : List (List Char)}
    (h : ∀ front g back, gs = front ++ g :: back → 2 ≤ back.length → isPlus g = false) :
    joinFront gs = gs := by
  fun_induction joinFront gs with
  | case1 g x y gs ih =>
    have hg : joinGap g = g := joinGap_eq_self_iff.2 (h [] g (x :: y :: gs) rfl (by simp))
    rw [hg, ih fun front k back hcut => h (g :: front) k back (by rw [hcut]; rfl)]
  | case2 => rfl

/-- Where no gap in the middle is a `+`, nothing is joined. -/
theorem joinGaps_eq_self {gs : List (List Char)}
    (h : ∀ front g back, gs = front ++ g :: back → 2 ≤ front.length → 2 ≤ back.length →
      isPlus g = false) : joinGaps gs = gs := by
  match gs with
  | [] | [_] => rfl
  | x :: y :: gs =>
    have hmiddle : joinFront gs = gs := joinFront_eq_self fun front g back hcut =>
      h (x :: y :: front) g back (by rw [hcut]; rfl) (by simp)
    rw [joinGaps, hmiddle]

/-! ## Sums -/

theorem closeLiteral?_cons {c : Char} (hc : c ≠ '\'') (s : List Char) :
    closeLiteral? (c :: s) = (closeLiteral? s).map fun (body, rest) => (c :: body, rest) := by
  rw [closeLiteral?, if_neg hc]
  rintro _ rfl
  exact fun _ => hc rfl

/-- A literal without quotes ends at the next quote, if another one does not follow at once. -/
theorem closeLiteral?_append {q s : List Char} (hq : '\'' ∉ q) (hs : s.head? ≠ some '\'') :
    closeLiteral? (q ++ '\'' :: s) = some (q ++ ['\''], s) := by
  induction q with
  | nil =>
    rw [List.nil_append, closeLiteral?, if_pos rfl]
    · rfl
    · rintro t - rfl
      exact hs rfl
  | cons c q ih =>
    rw [List.mem_cons, not_or] at hq
    rw [List.cons_append, closeLiteral?_cons (Ne.symm hq.1), ih hq.2]
    rfl

/-- A literal ends somewhere if there is a quote. -/
theorem isSome_closeLiteral? {s : List Char} (h : '\'' ∈ s) : (closeLiteral? s).isSome = true := by
  fun_induction closeLiteral? s with
  | case1 => cases h
  | case2 | case3 | case4 => rfl
  | case5 c s hs hc ih =>
    rw [Option.isSome_map]
    exact ih ((List.mem_cons.1 h).resolve_left (Ne.symm hc))

/-- A sum is read at the quote before a literal with a `+` and another quote behind it. -/
theorem isSome_literalSum {q g s : List Char} (hq : '\'' ∉ q) (hg : isPlus g = true) (hs : '\'' ∈ s)
    (before : Option Char) :
    (literalSum before ('\'' :: (q ++ '\'' :: (g ++ '\'' :: s)))).isSome = true := by
  obtain ⟨b₁, b₂, hb₁, hb₂, rfl⟩ := isPlus_iff.1 hg
  obtain ⟨⟨body, rest⟩, hclose⟩ := Option.isSome_iff_exists.1 (isSome_closeLiteral? hs)
  have hhead : (b₁ ++ '+' :: b₂ ++ '\'' :: s).head? ≠ some '\'' := by
    cases b₁ with
    | nil => simp
    | cons c b₁ =>
      rintro ⟨⟩
      exact absurd (hb₁ '\'' List.mem_cons_self) (by decide)
  have hleft := closeLiteral?_append hq hhead
  have hplus : skipBlanks (b₁ ++ '+' :: b₂ ++ '\'' :: s) = '+' :: (b₂ ++ '\'' :: s) := by
    rw [List.append_assoc, skipBlanks_append _ hb₁]
    exact List.dropWhile_cons_of_neg (by decide)
  have hquote : skipBlanks (b₂ ++ '\'' :: s) = '\'' :: s :=
    (skipBlanks_append _ hb₂).trans (List.dropWhile_cons_of_neg (by decide))
  simp only [literalSum, literal?, if_true, hleft, Option.map_some, Option.bind_eq_bind,
    Option.bind_some, hplus, symbol?, hquote, hclose, Option.pure_def, Option.isSome_some]

/-- A sum can be read wherever a `+` stands with two gaps before it and two behind it. -/
theorem readable_literalSum_of_gaps {s : List Char} {front back : List (List Char)} {g : List Char}
    (h : gaps s = front ++ g :: back) (hfront : 2 ≤ front.length) (hback : 2 ≤ back.length)
    (hg : isPlus g = true) : Readable literalSum s := by
  obtain ⟨start, q, rfl⟩ : ∃ start q, front = start ++ [q] :=
    ⟨_, _, (List.dropLast_concat_getLast (List.ne_nil_of_length_pos (by omega))).symm⟩
  obtain ⟨r, stop, rfl⟩ : ∃ r stop, back = r :: stop :=
    List.exists_cons_of_ne_nil (List.ne_nil_of_length_pos (by omega))
  have hstart : start ≠ [] := by
    rintro rfl
    simp at hfront
  have hstop : stop ≠ [] := by
    rintro rfl
    simp at hback
  rw [List.append_assoc] at h
  -- cut at the quotes around the gap before the sign, the sign and the gap behind it
  obtain ⟨u, v, rfl, -, hv⟩ := exists_of_gaps_eq_append h hstart (by simp)
  obtain ⟨w, rfl, hq, hw⟩ := exists_of_gaps_eq_cons hv (by simp)
  obtain ⟨z, rfl, -, hz⟩ := exists_of_gaps_eq_cons hw (by simp)
  obtain ⟨t, rfl, -, -⟩ := exists_of_gaps_eq_cons hz hstop
  exact ⟨u, _, rfl, isSome_literalSum hq hg (by simp) _⟩

/-! ## Turns -/

theorem two_le_length_gaps (s t : List Char) : 2 ≤ (gaps s ++ gaps t).length := by
  have hs := List.length_pos_iff.2 (gaps_ne_nil s)
  have ht := List.length_pos_iff.2 (gaps_ne_nil t)
  rw [List.length_append]
  omega

/-- The gaps around the sign of a sum. -/
theorem gaps_sum {g : List Char} (hg : '\'' ∉ g) (front x y back : List Char) :
    gaps (front ++ '\'' :: (x ++ '\'' :: (g ++ '\'' :: (y ++ '\'' :: back)))) =
      gaps front ++ gaps x ++ g :: (gaps y ++ gaps back) := by
  simp only [gaps_append_quote, gaps_of_not_mem hg, List.append_assoc, List.singleton_append]

/-- A turn joins only gaps in the middle. -/
theorem joinGaps_concatPass (s : List Char) :
    joinGaps (gaps (concatPass s)) = joinGaps (gaps s) := by
  refine replaceAll_invariant literalSum_reads (fun s => joinGaps (gaps s)) ?_ s
  rintro before _ _ rest @⟨_, b₁, b₂, _, ⟨x, rfl⟩, hb₁, hb₂, ⟨y, rfl⟩⟩ front back
  have hplus : isPlus (b₁ ++ '+' :: b₂) = true := isPlus_iff.2 ⟨b₁, b₂, hb₁, hb₂, rfl⟩
  have hquote : '\'' ∉ b₁ ++ '+' :: b₂ := by
    have hblank : isBlank '\'' = false := by decide
    simp [hb₁.not_mem hblank, hb₂.not_mem hblank]
  have htext : front ++ (['\''] ++ x ++ ['\''] ++ b₁ ++ ['+'] ++ b₂ ++ (['\''] ++ y ++ ['\'']) ++
      back) =
      front ++ '\'' :: (x ++ '\'' :: ((b₁ ++ '+' :: b₂) ++ '\'' :: (y ++ '\'' :: back))) := by
    simp
  have hwrite : ∀ bars : List Char, front ++ (['\''] ++ x ++ ['\''] ++ bars ++
      (['\''] ++ y ++ ['\'']) ++ back) =
      front ++ '\'' :: (x ++ '\'' :: (bars ++ '\'' :: (y ++ '\'' :: back))) := by
    simp
  have hx : 2 ≤ (gaps front ++ gaps x).length := two_le_length_gaps front x
  have hy : 2 ≤ (gaps y ++ gaps back).length := two_le_length_gaps y back
  simp only [concatText, htext, hwrite]
  rw [gaps_sum hquote, gaps_sum (by decide)]
  refine joinGaps_congr hx hy ?_
  rw [joinGap, if_neg (by decide), joinGap, if_pos hplus]

theorem joinGaps_concatLiterals (s : List Char) :
    joinGaps (gaps (concatLiterals s)) = joinGaps (gaps s) :=
  settle_induction (P := fun t => joinGaps (gaps t) = joinGaps (gaps s))
    (fun t ht => (joinGaps_concatPass t).trans ht) _ rfl

/-- A sum loses its `+` and gets the bars; of what is not blank it keeps the rest. -/
theorem LiteralSumText.count_concatText {text : List Char} {sum : List Char × List Char}
    (h : LiteralSumText text sum) {c : Char} (hc : isBlank c = false) :
    (concatText sum).count c + ['+'].count c = text.count c + " || ".toList.count c := by
  obtain @⟨left, b₁, b₂, right, -, hb₁, hb₂, -⟩ := h
  have h₁ : b₁.count c = 0 := List.count_eq_zero.2 (hb₁.not_mem hc)
  have h₂ : b₂.count c = 0 := List.count_eq_zero.2 (hb₂.not_mem hc)
  unfold concatText
  generalize " || ".toList = bars
  simp only [List.count_append, h₁, h₂]
  omega

theorem count_concatPass {c : Char} (hc : isBlank c = false) (s : List Char) :
    (concatPass s).count c + ['+'].count c * count literalSum s =
      s.count c + " || ".toList.count c * count literalSum s :=
  count_replaceAll literalSum_reads (fun _ _ _ _ h => h.count_concatText hc) s

/-- A turn takes a `+` away for each sum that it finds. -/
theorem count_plus_concatPass (s : List Char) :
    (concatPass s).count '+' + count literalSum s = s.count '+' := by
  have hcount := count_concatPass (c := '+') (by decide) s
  have hbars : " || ".toList.count '+' = 0 := by decide
  rw [hbars, List.count_singleton_self] at hcount
  omega

/-- A turn puts two bars in for each sum that it finds. -/
theorem count_bar_concatPass (s : List Char) :
    (concatPass s).count '|' = s.count '|' + 2 * count literalSum s := by
  have hcount := count_concatPass (c := '|') (by decide) s
  have hbars : " || ".toList.count '|' = 2 := by decide
  have hplus : ['+'].count '|' = 0 := by decide
  rw [hbars, hplus] at hcount
  omega

/-- Two bars come in for each `+` that goes, whatever the number of turns. -/
theorem count_bar_concatLiterals (s : List Char) :
    (concatLiterals s).count '|' + 2 * (concatLiterals s).count '+' =
      s.count '|' + 2 * s.count '+' := by
  refine settle_induction (P := fun t => t.count '|' + 2 * t.count '+' =
    s.count '|' + 2 * s.count '+') (fun t ht => ?_) _ rfl
  have hplus := count_plus_concatPass t
  have hbar := count_bar_concatPass t
  omega

/-- Where a sum can be read, a turn finds one. -/
theorem count_literalSum_pos {s : List Char} (h : Readable literalSum s) :
    0 < count literalSum s := by
  rw [← occurs_iff_readable literalSum_reads, ← Bool.not_eq_false, not_occurs_iff] at h
  exact List.length_pos_iff.2 h

/-- There are as many turns as it takes. -/
theorem concatPass_concatLiterals (s : List Char) :
    concatPass (concatLiterals s) = concatLiterals s := by
  refine settle_settled (fun t ht => ?_) (Nat.le_refl (s.count '+'))
  have hcount := count_plus_concatPass t
  have hsum : Readable literalSum t :=
    Classical.not_not.1 fun hnone => ht (sheds_concatPass.keeps t hnone)
  have hpos := count_literalSum_pos hsum
  omega

/-- **Literals and their signs.** Writing all sums of literals as concatenations turns every `+`
that is alone between two quotes into ` || `, if there is one more quote before it and one behind
it. All else stays. -/
theorem gaps_concatLiterals (s : List Char) : gaps (concatLiterals s) = joinGaps (gaps s) := by
  have hnone : ¬Readable literalSum (concatLiterals s) :=
    (sheds_concatPass.eq_self_iff _).1 (concatPass_concatLiterals s)
  have hself : joinGaps (gaps (concatLiterals s)) = gaps (concatLiterals s) := by
    refine joinGaps_eq_self fun front g back hcut hfront hback => ?_
    rw [Bool.eq_false_iff]
    exact fun hg => hnone (readable_literalSum_of_gaps hcut hfront hback hg)
  rw [← hself, joinGaps_concatLiterals]

end SqlDialect.Query

namespace SqlDialect

open Query Scan

/-- **The sums of literals settle.** Every turn takes away as many `+` as it finds sums, at least
one while a sum can be read, and puts in twice as many bars. Turns are taken as long as a sum can be
read and no longer, so the result has two bars more for each `+` less, no sum can be read in it, and
the rule leaves it alone. -/
theorem Rule.literalSums_settles (whole s : List Char) :
    (∀ t, (concatPass t).count '+' + count literalSum t = t.count '+' ∧
      (concatPass t).count '|' = t.count '|' + 2 * count literalSum t ∧
      (Rule.literalSums.Applies t → 0 < count literalSum t)) ∧
    (∃ n ≤ s.count '+', Rule.literalSums.apply whole s = concatPass^[n] s ∧
      ∀ m < n, Rule.literalSums.Applies (concatPass^[m] s)) ∧
    ((Rule.literalSums.apply whole s).count '|' : Int) - s.count '|' =
      2 * (s.count '+' - (Rule.literalSums.apply whole s).count '+') ∧
    ¬Rule.literalSums.Applies (Rule.literalSums.apply whole s) ∧
    Rule.literalSums.apply whole (Rule.literalSums.apply whole s) =
      Rule.literalSums.apply whole s := by
  have hrest : concatPass (Rule.literalSums.apply whole s) = Rule.literalSums.apply whole s :=
    concatPass_concatLiterals s
  have hbars : (Rule.literalSums.apply whole s).count '|' +
      2 * (Rule.literalSums.apply whole s).count '+' = s.count '|' + 2 * s.count '+' :=
    count_bar_concatLiterals s
  have hdone := (sheds_concatPass.eq_self_iff _).1 hrest
  refine ⟨fun t => ⟨count_plus_concatPass t, count_bar_concatPass t, count_literalSum_pos⟩, ?_,
    by omega, hdone, (apply_eq_self_iff (by simp) whole _).2 hdone⟩
  obtain ⟨n, hn, hturns, hchange⟩ := settle_eq_iterate concatPass (s.count '+') s
  refine ⟨n, hn, hturns, fun m hm => Classical.not_not.1 fun hnone => hchange m hm ?_⟩
  rw [Function.iterate_succ_apply']
  exact sheds_concatPass.keeps _ hnone

end SqlDialect
