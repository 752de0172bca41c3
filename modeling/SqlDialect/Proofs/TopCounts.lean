import SqlDialect.Proofs.RuleOrder
import SqlDialect.Proofs.SecondPass

/-!
# The count of the first `TOP`

The count of a query is read before any rule, and the rule for `TOP` comes fifth. Of the rules
before it, those for names in brackets, random order and pages leave the count as it is: a
`SELECT TOP` may touch what they write anew, with the blanks at its end, but it neither starts there
nor goes on into it.

* `topCountFrom?` — the count of the first `SELECT TOP` from a place on.
* `WordsStart` — the words of a text start with characters of some kind.
* `topCountFrom?_append` — a text that has no word with an `S` in front is passed over.
* `StopsBefore`, `topCountFrom?_append_cons` — if nothing is read over a place, the count is that of
  the text before it, or else of the text behind it.
* `topCount?_append_sign`, `Passable.topCount?_append` — such places are the signs around names, and
  the start of a word that is none of a `SELECT TOP`.
* `topCount?_append_blanks` — which blanks a text ends with does not matter.
* `Query.topCount?_beforeTop` — so the count that the rule for `TOP` would find in its own text is
  the one that is left by the rule for hints.
-/

namespace SqlDialect.Query

open Scan Text

/-! ## The first count from a place on -/

/-- The count of the first `SELECT TOP` in a text behind `before`. -/
def topCountFrom? (before : Option Char) (s : List Char) : Option (List Char) :=
  ((piecesFrom selectTop 0 before s).filterMap Piece.value?).head?.map SelectTop.count

theorem topCount?_eq (s : List Char) : topCount? s = topCountFrom? none s := rfl

theorem topCountFrom?_of_miss {before : Option Char} {c : Char} {s : List Char}
    (h : selectTop before (c :: s) = none) :
    topCountFrom? before (c :: s) = topCountFrom? (some c) s := by
  unfold topCountFrom?
  rw [piecesFrom_of_miss h]
  rfl

theorem topCountFrom?_of_hit {before : Option Char} {s rest : List Char} {t : SelectTop}
    (h : selectTop before s = some (t, rest)) : topCountFrom? before s = some t.count := by
  obtain ⟨text, hne, rfl, -⟩ := selectTop_reads _ _ _ _ h
  obtain ⟨c, text, rfl⟩ := List.exists_cons_of_ne_nil hne
  unfold topCountFrom?
  rw [piecesFrom_of_hit h]
  rfl

/-- Of the character before a place, all that matters is whether a word can start behind it. -/
theorem topCountFrom?_congr {before behind : Option Char}
    (h : atWordStart before = atWordStart behind) (s : List Char) :
    topCountFrom? before s = topCountFrom? behind s := by
  unfold topCountFrom?
  cases s with
  | nil => rfl
  | cons c s => rw [piecesFrom, piecesFrom, selectTop_congr h]

/-! ## The first characters of words -/

/-- Every word of the text starts with a character of the given kind. -/
def WordsStart (P : Char → Prop) (text : List Char) : Prop :=
  ∀ x c y, text = x ++ c :: y → atWordStart x.getLast? = true → isWord c = true → P c

theorem atWordStart_of_or {last before : Option Char} (h : atWordStart (last.or before) = true) :
    atWordStart last = true := by
  cases last with
  | none => rfl
  | some c => exact h

section

variable {P : Char → Prop}

theorem WordsStart.append {a b : List Char} (ha : WordsStart P a) (hb : WordsStart P b) :
    WordsStart P (a ++ b) := by
  intro x c y hcut hstart hc
  rcases List.append_eq_append_iff.1 hcut with ⟨z, rfl, hz⟩ | ⟨z, rfl, hz⟩
  · rw [List.getLast?_append] at hstart
    exact hb z c y hz (atWordStart_of_or hstart) hc
  · cases z with
    | nil => exact hb [] c y hz.symm rfl hc
    | cons d z =>
      obtain ⟨rfl, -⟩ := List.cons.inj hz
      exact ha x c z rfl hstart hc

theorem wordsStart_of_forall {text : List Char} (h : ∀ c ∈ text, isWord c = true → P c) :
    WordsStart P text := by
  rintro x c y rfl - hc
  exact h c (by simp) hc

theorem Blanks.wordsStart {b : List Char} (hb : Blanks b) : WordsStart P b := by
  refine wordsStart_of_forall fun c hmem hc => ?_
  exact absurd hmem (hb.not_mem_of_isWord hc)

theorem wordsStart_sign {sign : Char} (h : isWord sign = false) : WordsStart P [sign] := by
  refine wordsStart_of_forall fun c hmem hc => ?_
  rw [List.mem_singleton.1 hmem, h] at hc
  cases hc

theorem Spells.head? {name : String} {word : List Char} (hword : Spells name word) :
    (name.toList.map fold).head? = word.head?.map fold := by
  unfold Spells at hword
  rw [← hword, List.head?_map]

/-- A keyword is one word, so only its first letter counts. -/
theorem Spells.wordsStart {name : String} {word : List Char} (hword : Spells name word)
    (hname : (name.toList.map fold).all Char.isAlpha = true)
    (hfirst : ∀ c, (name.toList.map fold).head? = some (fold c) → P c) : WordsStart P word := by
  rintro x c y rfl hstart -
  rcases List.eq_nil_or_concat x with rfl | ⟨x, d, rfl⟩
  · exact hfirst c hword.head?
  · have hd := (hword.isWord hname d (by simp)).1
    rw [List.concat_eq_append, List.getLast?_concat, atWordStart, hd] at hstart
    cases hstart

end

/-- What a word in a `SELECT TOP` can start with. -/
def TopInitial (c : Char) : Prop := isDigit c = true ∨ fold c ∈ ['s', 'd', 't']

theorem TopRowsText.wordsStart {rows n : List Char} (h : TopRowsText rows n) :
    WordsStart TopInitial rows := by
  have hdigits : ∀ {m}, Digits m → WordsStart TopInitial m := fun hm =>
    wordsStart_of_forall fun c hc _ => .inl (hm.2 c hc)
  cases h with
  | enclosed hb₁ hn hb₂ hb₃ =>
    exact (((((wordsStart_sign (by decide)).append hb₁.wordsStart).append (hdigits hn)).append
      hb₂.wordsStart).append (wordsStart_sign (by decide))).append hb₃.wordsStart
  | bare hn _ hb => exact (hdigits hn).append hb.wordsStart

theorem SelectTopText.wordsStart {text : List Char} {t : SelectTop} (h : SelectTopText text t) :
    WordsStart TopInitial text := by
  have hletter : ∀ first ∈ ['s', 'd', 't'], ∀ c, some first = some (fold c) → TopInitial c := by
    intro first hfirst c hc
    rw [Option.some.inj hc] at hfirst
    exact .inr hfirst
  have hdistinct : ∀ {distinct}, DistinctText distinct → WordsStart TopInitial distinct := by
    rintro _ (rfl | ⟨word, b, hword, -, hb, rfl⟩)
    · exact blanks_nil.wordsStart
    · exact (hword.wordsStart (by decide) (hletter 'd' (by simp))).append hb.wordsStart
  obtain ⟨hselect, -, hb₁, hd, htop, hb₂, hrows⟩ := h
  have hfront := (hselect.wordsStart (by decide) (hletter 's' (by simp))).append hb₁.wordsStart
  have hback := (htop.wordsStart (by decide) (hletter 't' (by simp))).append hb₂.wordsStart
  have htext := ((hfront.append (hdistinct hd)).append hback).append hrows.wordsStart
  simpa only [List.append_assoc] using htext

/-! ## Texts that are passed over -/

/-- A `SELECT TOP` starts where a word can start, with an `S`. -/
theorem fold_of_selectTop {before : Option Char} {c : Char} {s rest : List Char} {t : SelectTop}
    (h : selectTop before (c :: s) = some (t, rest)) : atWordStart before = true ∧ fold c = 's' := by
  obtain ⟨_, -, hcut, hstart, ⟨hselect, -, -, -, -, -, -⟩⟩ := selectTop_reads _ _ _ _ h
  refine ⟨hstart, ?_⟩
  simp only [List.append_assoc] at hcut
  obtain ⟨d, select, rfl⟩ := List.exists_cons_of_ne_nil (hselect.ne_nil (by decide))
  obtain ⟨rfl, -⟩ := List.cons.inj hcut
  exact (List.cons.inj hselect).1

/-- Nothing is read in a text that has no word with an `S` in front. -/
theorem topCountFrom?_append {w : List Char} (hw : WordsStart (fold · ≠ 's') w)
    (before : Option Char) (s : List Char) :
    topCountFrom? before (w ++ s) = topCountFrom? (w.getLast?.or before) s := by
  have hnone : ∀ x c y, w = x ++ c :: y →
      selectTop (x.getLast?.or before) (c :: y ++ s) = none := by
    intro x c y hcut
    cases hread : selectTop (x.getLast?.or before) (c :: y ++ s) with
    | none => rfl
    | some r =>
      obtain ⟨hstart, hc⟩ := fold_of_selectTop hread
      have hword : isWord c = true := (isWord_of_fold_isAlpha (by rw [hc]; decide)).1
      exact absurd hc (hw x c y hcut (atWordStart_of_or hstart) hword)
  unfold topCountFrom?
  rw [piecesFrom_append hnone, List.filterMap_append]
  have hkept : (w.map (Piece.keep (α := SelectTop))).filterMap Piece.value? = [] := by
    simp [Piece.value?]
  rw [hkept, List.nil_append]

/-! ## Places that nothing is read over -/

/-- No `SELECT TOP` that starts in the text goes over the character behind it. -/
def StopsBefore (z : List Char) (c : Char) : Prop :=
  ∀ text t x y, SelectTopText text t → text = x ++ c :: y → x <:+ z → x = []

/-- What is read before such a place is read without a look behind it. -/
theorem selectTop_append_cons {z : List Char} {c : Char} (hc : isBlank c = false)
    (hstop : StopsBefore z c) (hne : z ≠ []) (before : Option Char) (s : List Char) :
    selectTop before (z ++ c :: s) =
      (selectTop before z).map fun r => (r.1, r.2 ++ c :: s) := by
  have hskip : ∀ u, skipBlanks (u ++ c :: s) = skipBlanks u ++ c :: s := by
    intro u
    unfold skipBlanks
    rw [List.dropWhile_append]
    split
    · rename_i hnil
      rw [List.isEmpty_iff.1 hnil, List.nil_append, List.dropWhile_cons_of_neg (by simp [hc])]
    · rfl
  have hread : ∀ text t u, SelectTopText text t → atWordStart before = true →
      selectTop before (text ++ u ++ c :: s) =
        (selectTop before (text ++ u)).map fun r => (r.1, r.2 ++ c :: s) := by
    intro text t u htext hstart
    rw [List.append_assoc, htext.selectTop_append hstart, htext.selectTop_append hstart, hskip]
    rfl
  cases hz : selectTop before z with
  | some r =>
    obtain ⟨text, -, rfl, hstart, htext⟩ := selectTop_reads before _ r.1 r.2 hz
    rw [hread text r.1 r.2 htext hstart, hz]
  | none =>
    cases hboth : selectTop before (z ++ c :: s) with
    | none => rfl
    | some r =>
      obtain ⟨text, -, hcut, hstart, htext⟩ := selectTop_reads before _ r.1 r.2 hboth
      rcases List.append_eq_append_iff.1 hcut with ⟨u, rfl, hu⟩ | ⟨u, rfl, -⟩
      · cases u with
        | nil =>
          rw [List.append_nil] at htext
          rw [← List.append_nil z, htext.selectTop_append hstart] at hz
          cases hz
        | cons d u =>
          obtain ⟨rfl, -⟩ := List.cons.inj hu
          exact absurd (hstop _ _ z u htext rfl List.suffix_rfl) hne
      · rw [htext.selectTop_append hstart] at hz
        cases hz

/-- The count is that of the text before such a place, or else of the text behind it. -/
theorem topCountFrom?_append_cons {z : List Char} {c : Char} (hc : isBlank c = false)
    (hstop : StopsBefore z c) (before : Option Char) (s : List Char) :
    topCountFrom? before (z ++ c :: s) =
      (topCountFrom? before z).or (topCountFrom? (z.getLast?.or before) (c :: s)) := by
  have hcut : piecesFrom selectTop 0 before (z ++ c :: s) = piecesFrom selectTop 0 before z ++
      piecesFrom selectTop 0 (z.getLast?.or before) (c :: s) := by
    refine piecesFrom_cut selectTop_reads fun front back hz hne => ?_
    have hback : StopsBefore back c := fun text t x y htext hcut hx =>
      hstop text t x y htext hcut (hx.trans ⟨front, hz.symm⟩)
    exact selectTop_append_cons hc hback hne _ s
  unfold topCountFrom?
  rw [hcut, List.filterMap_append, List.head?_append, Option.map_or]

/-- Brackets and quotes cut a text in two. -/
theorem topCount?_append_sign {sign : Char} (hsign : sign ∈ nameSigns) (x y : List Char) :
    topCount? (x ++ sign :: y) = (topCount? x).or (topCount? y) := by
  obtain ⟨hword, hblank, -⟩ := isWord_of_mem_nameSigns hsign
  have hstop : StopsBefore x sign := by
    rintro text t u v htext rfl -
    exact absurd (by simp) (htext.not_mem (c := sign) (by simp_all [nameSigns]))
  have hpass := topCountFrom?_append (w := [sign]) (wordsStart_sign hword) (x.getLast?.or none) y
  have hstart : atWordStart (some sign) = atWordStart none := by simp [atWordStart, hword]
  rw [topCount?_eq, topCountFrom?_append_cons hblank hstop, ← List.singleton_append, hpass]
  exact congrArg _ (topCountFrom?_congr hstart y)

/-- A text that is passed over, and that nothing is read into from before: it starts with a word
that is none of a `SELECT TOP`, and no word in it has an `S` in front. -/
structure Passable (w : List Char) : Prop where
  first : ∃ c ∈ w.head?, isWord c = true ∧ ¬TopInitial c
  words : WordsStart (fold · ≠ 's') w

theorem Passable.ne_nil {w : List Char} (hw : Passable w) : w ≠ [] := by
  rintro rfl
  obtain ⟨c, hc, -⟩ := hw.first
  cases hc

/-- Such a text, where a word can start, has no part in the count. -/
theorem Passable.topCount?_append {w : List Char} (hw : Passable w) {z : List Char}
    (hstart : atWordStart z.getLast? = true) (s : List Char) :
    topCount? (z ++ (w ++ s)) = (topCount? z).or (topCountFrom? w.getLast? s) := by
  obtain ⟨c, hc, hword, hinitial⟩ := hw.first
  obtain ⟨w', rfl⟩ := List.head?_eq_some_iff.1 hc
  have hblank : isBlank c = false := by
    rw [← Bool.not_eq_true]
    intro hb
    rw [isWord_of_isBlank hb] at hword
    cases hword
  have hstop : StopsBefore z c := by
    rintro text t x y htext hcut ⟨front, rfl⟩
    refine Classical.byContradiction fun hx => ?_
    rw [List.getLast?_append_of_ne_nil front hx] at hstart
    exact hinitial (htext.wordsStart x c y hcut hstart hword)
  have hpass := topCountFrom?_append hw.words (z.getLast?.or none) s
  have hlast : (c :: w').getLast?.or (z.getLast?.or none) = (c :: w').getLast? := by
    rw [List.getLast?_cons, Option.some_or]
  rw [hlast, List.cons_append] at hpass
  rw [topCount?_eq, List.cons_append, topCountFrom?_append_cons hblank hstop, hpass]
  rfl

/-! ## Blanks at the end -/

/-- What is read up to the blanks at the end of a text is read up to other ones. -/
theorem exists_selectTop_append_blanks {before : Option Char} {x b b' rest : List Char}
    {t : SelectTop} (hb : Blanks b) (hb' : Blanks b') (hne : b' ≠ [])
    (h : selectTop before (x ++ b) = some (t, rest)) :
    ∃ rest', selectTop before (x ++ b') = some (t, rest') := by
  obtain ⟨text, -, hcut, hstart, htext⟩ := selectTop_reads _ _ _ _ h
  rcases List.append_eq_append_iff.1 hcut with ⟨z, rfl, rfl⟩ | ⟨z, rfl, -⟩
  · have hz : Blanks z := fun c hc => hb c (List.mem_append_left rest hc)
    have hread := (htext.append_blanks hz hb' hne).selectTop_append hstart []
    rw [List.append_nil] at hread
    exact ⟨_, hread⟩
  · exact ⟨_, by rw [List.append_assoc]; exact htext.selectTop_append hstart (z ++ b')⟩

/-- It does not matter which blanks a text ends with, as long as there are some. -/
theorem topCount?_append_blanks {b b' : List Char} (hb : Blanks b) (hb' : Blanks b') (hne : b ≠ [])
    (hne' : b' ≠ []) (x : List Char) : topCount? (x ++ b) = topCount? (x ++ b') := by
  have hnone : ∀ {b}, Blanks b → ∀ before, topCountFrom? before b = none := by
    intro b hb before
    have hpass := topCountFrom?_append (w := b) hb.wordsStart before []
    rwa [List.append_nil] at hpass
  have hfrom : ∀ before, topCountFrom? before (x ++ b) = topCountFrom? before (x ++ b') := by
    induction x with
    | nil =>
      intro before
      rw [List.nil_append, List.nil_append, hnone hb, hnone hb']
    | cons c x ih =>
      intro before
      cases hread : selectTop before (c :: x ++ b) with
      | some r =>
        obtain ⟨rest', hread'⟩ := exists_selectTop_append_blanks hb hb' hne' hread
        rw [topCountFrom?_of_hit hread, topCountFrom?_of_hit hread']
      | none =>
        cases hread' : selectTop before (c :: x ++ b') with
        | some r =>
          obtain ⟨rest, hsome⟩ := exists_selectTop_append_blanks hb' hb hne hread'
          rw [hread] at hsome
          cases hsome
        | none =>
          rw [List.cons_append] at hread hread' ⊢
          rw [List.cons_append, topCountFrom?_of_miss hread, topCountFrom?_of_miss hread', ih]
  exact hfrom none

/-! ## Names, calls and pages -/

/-- Names in brackets have the same counts in them when they stand between quotes. -/
theorem topCount?_quoteBracketedNames (s : List Char) :
    topCount? (quoteBracketedNames s) = topCount? s := by
  induction hn : s.length using Nat.strongRecOn generalizing s with
  | _ n ih =>
    subst hn
    rcases signFree_or_exists_sign s with hfree | ⟨u, sign, v, hu, hsign, rfl⟩
    · rw [quoteBracketedNames_of_not_mem fun hmem => hfree '[' hmem (by decide)]
    · rw [quoteBracketedNames_append fun hmem => hu '[' hmem (by decide)]
      by_cases hread : sign = '[' ∧ facing ']' v = true
      · -- all signs cut alike, so it does not matter that brackets become quotes
        obtain ⟨rfl, hfacing⟩ := hread
        obtain ⟨name, rest, hne, rfl, hname⟩ := (facing_iff (by decide)).1 hfacing
        rw [quoteBracketedNames_name hne hname, topCount?_append_sign (by decide),
          topCount?_append_sign (by decide), topCount?_append_sign (by decide),
          topCount?_append_sign (by decide), ih _ (by simp; omega) rest rfl]
      · rw [quoteBracketedNames_cons hread, topCount?_append_sign hsign,
          topCount?_append_sign hsign, ih _ (by simp; omega) v rfl]

/-- A keyword that is none of a `SELECT TOP`, with something behind it. -/
theorem Spells.passable {name : String} {word : List Char} (hword : Spells name word)
    (hname : (name.toList.map fold).all Char.isAlpha = true) (first : Char)
    (hfirst : (name.toList.map fold).head? = some first) (hother : first ∉ ['s', 'd', 't'])
    {rest : List Char} (hrest : WordsStart (fold · ≠ 's') rest) : Passable (word ++ rest) := by
  have hletter : ∀ c, (name.toList.map fold).head? = some (fold c) → fold c ∉ ['s', 'd', 't'] := by
    intro c hc
    rw [hfirst] at hc
    rwa [← Option.some.inj hc]
  have hwords : WordsStart (fold · ≠ 's') word := hword.wordsStart hname fun c hc hs =>
    hletter c hc (by simp [hs])
  refine ⟨?_, hwords.append hrest⟩
  cases word with
  | nil =>
    rw [hword.head?] at hfirst
    cases hfirst
  | cons c word =>
    obtain ⟨hc, hdigit⟩ := hword.isWord hname c List.mem_cons_self
    refine ⟨c, rfl, hc, ?_⟩
    rintro (h | h)
    · rw [hdigit] at h
      cases h
    · exact hletter c hword.head? h

theorem Digits.wordsStart {n : List Char} (hn : Digits n) : WordsStart (fold · ≠ 's') n := by
  refine wordsStart_of_forall fun c hc _ hs => ?_
  have hdigit := (isWord_of_fold_isAlpha (c := c) (by rw [hs]; decide)).2
  rw [hn.2 c hc] at hdigit
  cases hdigit

/-- A call of `NEWID` and the one that is written for it end alike, and both are passed over. -/
theorem NewidCallText.passable {text : List Char} (h : NewidCallText text) :
    Passable text ∧ text.getLast? = some ')' := by
  obtain ⟨hword, hb₁, hb₂⟩ := h
  have hparen : ∀ sign ∈ ['(', ')'], WordsStart (fold · ≠ 's') [sign] := fun sign hsign =>
    wordsStart_sign (isWord_of_mem_parens hsign).1
  have htail := ((hb₁.wordsStart.append (hparen '(' (by decide))).append hb₂.wordsStart).append
    (hparen ')' (by decide))
  refine ⟨?_, List.getLast?_concat⟩
  simpa only [List.append_assoc] using
    hword.passable (by decide) 'n' (by decide) (by decide) htail

theorem topCount?_renameRandomCalls (s : List Char) :
    topCount? (renameRandomCalls s) = topCount? s := by
  have hword : Spells "random" "RANDOM".toList := by unfold Spells; decide
  have hrandom : Passable ("RANDOM".toList ++ (['('] ++ [')'])) :=
    hword.passable (by decide) 'r' (by decide) (by decide)
      ((wordsStart_sign (by decide)).append (wordsStart_sign (by decide)))
  refine replaceAll_keeps newidCall_reads (P := fun t => topCount? t = topCount? s) ?_ ?_ rfl
  · rintro before text _ rest ⟨-, htext⟩
    rw [htext.passable.2]
    decide
  · rintro before text _ rest ⟨hstart, htext⟩ front back rfl hcount
    obtain ⟨hpass, hlast⟩ := htext.passable
    rw [hpass.topCount?_append hstart, hlast] at hcount
    exact (hrandom.topCount?_append hstart back).trans hcount

/-- A page is blanks and a text that is passed over. -/
theorem FetchClauseText.exists_passable {text : List Char} {f : FetchClause}
    (h : FetchClauseText text f) :
    ∃ b page, text = b ++ page ∧ b ≠ [] ∧ Blanks b ∧ Passable page := by
  obtain ⟨hne, hblanks, hoffset, hm, hrows₁, hfetch, hnext, hn, hrows₂, honly⟩ := h
  have hword : ∀ name ∈ ["row", "rows", "fetch", "next", "first", "only"], ∀ {word},
      Spells name word → WordsStart (fold · ≠ 's') word := by
    intro name hname word hspells
    have hletters : ∀ name ∈ ["row", "rows", "fetch", "next", "first", "only"],
        (name.toList.map fold).all Char.isAlpha = true ∧ (name.toList.map fold).head? ≠ some 's' := by
      decide
    refine hspells.wordsStart (hletters name hname).1 fun c hc hs => ?_
    rw [hs] at hc
    exact (hletters name hname).2 hc
  have hrow : ∀ {word}, SpellsRows word → WordsStart (fold · ≠ 's') word := fun h =>
    h.elim (hword "row" (by decide)) (hword "rows" (by decide))
  have hstep := hnext.elim (hword "next" (by decide)) (hword "first" (by decide))
  simp only [List.forall_mem_cons] at hblanks
  obtain ⟨hb₁, hb₂, hb₃, hb₄, hb₅, hb₆, hb₇, hb₈, -⟩ := hblanks
  have hoffsetRows := ((hb₂.wordsStart.append hm.wordsStart).append hb₃.wordsStart).append
    (hrow hrows₁)
  have hfetchNext := ((hb₄.wordsStart.append (hword "fetch" (by decide) hfetch)).append
    hb₅.wordsStart).append hstep
  have hrowsOnly := ((((hb₆.wordsStart.append hn.wordsStart).append hb₇.wordsStart).append
    (hrow hrows₂)).append hb₈.wordsStart).append (hword "only" (by decide) honly)
  have hpass := hoffset.passable (by decide) 'o' (by decide) (by decide)
    ((hoffsetRows.append hfetchNext).append hrowsOnly)
  exact ⟨_, _, by simp only [List.append_assoc], hne, hb₁, hpass⟩

/-- So is what is written for a page. -/
theorem FetchClause.exists_passable {f : FetchClause} (hoffset : Digits f.offset)
    (hrows : Digits f.rows) : ∃ page, f.asLimit = [' '] ++ page ∧ Passable page := by
  have hword : Spells "offset" "OFFSET".toList ∧ Spells "limit" "LIMIT".toList := by
    unfold Spells
    decide
  have hlimit : WordsStart (fold · ≠ 's') "LIMIT".toList := hword.2.wordsStart (by decide)
    fun c hc hs => by
      rw [hs] at hc
      exact absurd hc (by decide)
  have hpass := hword.1.passable (by decide) 'o' (by decide) (by decide)
    ((((blanks_space.wordsStart.append hoffset.wordsStart).append blanks_space.wordsStart).append
      hlimit).append (blanks_space.wordsStart.append hrows.wordsStart))
  have hwritten : " OFFSET ".toList = [' '] ++ "OFFSET".toList ++ [' '] ∧
      " LIMIT ".toList = [' '] ++ "LIMIT".toList ++ [' '] := by decide
  refine ⟨_, ?_, hpass⟩
  unfold FetchClause.asLimit
  rw [hwritten.1, hwritten.2]
  simp only [List.append_assoc]

theorem topCount?_limitFetchClauses (s : List Char) :
    topCount? (limitFetchClauses s) = topCount? s := by
  refine replaceAll_invariant fetchClause_reads topCount? ?_ s
  intro before text f rest htext front back
  obtain ⟨hletter, hdigit⟩ := htext.atWordStart_getLast? none
  obtain ⟨page', hlimit, hpass'⟩ := FetchClause.exists_passable htext.digits.1 htext.digits.2
  obtain ⟨b, page, rfl, hne, hb, hpass⟩ := htext.exists_passable
  have hstart : ∀ {b}, Blanks b → b ≠ [] → atWordStart (front ++ b).getLast? = true := by
    intro b hb hne
    rw [List.getLast?_append]
    exact atWordStart_blanks hb hne _
  rw [List.getLast?_append_of_ne_nil _ hpass.ne_nil] at hletter
  rw [hlimit, Option.or_none, List.getLast?_append_of_ne_nil _ hpass'.ne_nil] at hdigit
  -- the blanks before the page are the last that a `SELECT TOP` before it can have
  calc topCount? (front ++ (f.asLimit ++ back))
      = topCount? (front ++ [' '] ++ (page' ++ back)) := by rw [hlimit]; simp
    _ = (topCount? (front ++ [' '])).or (topCountFrom? page'.getLast? back) :=
      hpass'.topCount?_append (hstart blanks_space (by simp)) back
    _ = (topCount? (front ++ b)).or (topCountFrom? page.getLast? back) := by
      rw [topCount?_append_blanks blanks_space hb (by simp) hne,
        topCountFrom?_congr (hdigit.trans hletter.symm)]
    _ = topCount? (front ++ b ++ (page ++ back)) :=
      (hpass.topCount?_append (hstart hb hne) back).symm
    _ = topCount? (front ++ (b ++ page ++ back)) := by simp

/-- **Between the rule for hints and the rule for `TOP` the count does not change.** The rules for
names in brackets, random order and pages leave the count of every text as it is. So the count of
the text that the rule for `TOP` is given is the one that the rule for hints leaves, and it can differ
from the count of the query only where the rule for hints has changed that. -/
theorem topCount?_beforeTop :
    (∀ rule ∈ [Rule.bracketedNames, .randomCalls, .fetchClauses], ∀ whole s,
      topCount? (rule.apply whole s) = topCount? s) ∧
    ∀ booleans query,
      topCount? (beforeTop booleans query) =
        topCount? (Rule.tableHints.apply query.toList query.toList) ∧
      (topCount? (beforeTop booleans query) ≠ topCount? query.toList →
        topCount? (Rule.tableHints.apply query.toList query.toList) ≠ topCount? query.toList) := by
  have hrules : ∀ rule ∈ [Rule.bracketedNames, .randomCalls, .fetchClauses], ∀ whole s,
      topCount? (rule.apply whole s) = topCount? s := by
    intro rule hrule whole s
    simp only [List.mem_cons, List.not_mem_nil, or_false] at hrule
    rcases hrule with rfl | rfl | rfl
    · exact topCount?_quoteBracketedNames s
    · exact topCount?_renameRandomCalls s
    · exact topCount?_limitFetchClauses s
  refine ⟨hrules, fun booleans query => ?_⟩
  have hhints : topCount? (beforeTop booleans query) =
      topCount? (Rule.tableHints.apply query.toList query.toList) := by
    have hfront : (Pipeline.standard booleans).rules.take 4 =
        .tableHints :: [.bracketedNames, .randomCalls, .fetchClauses] := rfl
    unfold beforeTop
    rw [hfront, Pipeline.runRules_cons_fst]
    exact Pipeline.runRules_induction (P := fun t => topCount? t =
      topCount? (Rule.tableHints.apply query.toList query.toList))
      (fun rule hrule t ht => (hrules rule hrule _ t).trans ht) rfl
  exact ⟨hhints, fun hne => hhints ▸ hne⟩

/-- A page shares its first blanks with a `SELECT TOP`, and a hint stands in the middle of one. -/
theorem topCount?_beforeTop_hint_within :
    (Rule.fetchClauses ∈ [Rule.bracketedNames, .randomCalls, .fetchClauses] ∧
      topCount? (Rule.fetchClauses.apply []
        "SELECT TOP 5\n OFFSET 2 ROWS FETCH NEXT 3 ROWS ONLY".toList) = some "5".toList) ∧
    (topCount? "SELECT WITH (x) TOP 5 [a]".toList = none ∧
      topCount? (beforeTop none "SELECT WITH (x) TOP 5 [a]") = some "5".toList ∧
      topCount? (Rule.tableHints.apply "SELECT WITH (x) TOP 5 [a]".toList
        "SELECT WITH (x) TOP 5 [a]".toList) ≠ topCount? "SELECT WITH (x) TOP 5 [a]".toList) := by
  have hrule : Rule.fetchClauses ∈ [Rule.bracketedNames, .randomCalls, .fetchClauses] := by simp
  have hnone : topCount? "SELECT WITH (x) TOP 5 [a]".toList = none := by decide
  obtain ⟨hhints, hdiffer⟩ := topCount?_beforeTop.2 none "SELECT WITH (x) TOP 5 [a]"
  have hfive : topCount? (beforeTop none "SELECT WITH (x) TOP 5 [a]") = some "5".toList :=
    hhints.trans (by decide)
  refine ⟨⟨hrule, (topCount?_beforeTop.1 _ hrule _ _).trans (by decide)⟩, hnone, hfive, ?_⟩
  exact hdiffer (by rw [hfive, hnone]; simp)

end SqlDialect.Query
