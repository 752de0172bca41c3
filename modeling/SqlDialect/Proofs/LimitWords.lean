import SqlDialect.Query.RowLimit
import SqlDialect.Proofs.Characters
import SqlDialect.Proofs.Constructs

/-!
# Row limit keywords, word by word

A row limit keyword is a whole word, so the keywords of a text can be listed by reading its words one
after the other.

* `limitsFrom` — the row limit keywords of a text as they are written, each with the count that
  follows it after one space. The word that is being read is carried along.
* `limitsFrom_append_sep`, `limitsFrom_of_nil` — a separator cuts a text in two, and what has no
  keyword can be left out up to a separator.
* `mem_limitsFrom` — what is listed stands in the text.
* `rowLimits_eq_length`, `hasRowLimit_iff` — the keywords listed are those that a sweep finds.
-/

namespace SqlDialect.Query

open Scan Text

/-! ## Keywords and counts -/

/-- The text is `OFFSET` or `LIMIT`, in any letter case. -/
def LimitWord (w : List Char) : Prop := Spells "offset" w ∨ Spells "limit" w

instance (word : String) (w : List Char) : Decidable (Spells word w) :=
  inferInstanceAs (Decidable (_ = _))

instance (w : List Char) : Decidable (LimitWord w) := inferInstanceAs (Decidable (_ ∨ _))

/-- The word at the start of a text, if it is made of digits; it may be empty. -/
def digitsAt (s : List Char) : Option (List Char) :=
  if (s.takeWhile isWord).all isDigit then some (s.takeWhile isWord) else none

/-- The count behind a keyword: a word of digits after one space. -/
def countBehind : List Char → Option (List Char)
  | [] => none
  | c :: s => if c = ' ' then (digitsAt s).filter (· ≠ []) else none

/-- A word with the text behind it, if the word is a row limit keyword. -/
def limitAt (w rest : List Char) : List (List Char × Option (List Char)) :=
  if LimitWord w then [(w, countBehind rest)] else []

/-- The row limit keywords of `w ++ s` and their counts, where `w` is the word read so far. -/
def limitsFrom : (w : List Char) → List Char → List (List Char × Option (List Char))
  | w, [] => limitAt w []
  | w, c :: s => if isWord c then limitsFrom (w ++ [c]) s else limitAt w (c :: s) ++ limitsFrom [] s

/-- A keyword is made of letters. -/
theorem Spells.isWord {word : String} {t : List Char} (h : Spells word t)
    (hw : (word.toList.map fold).all Char.isAlpha = true) :
    ∀ c ∈ t, Text.isWord c = true ∧ isDigit c = false := by
  intro c hc
  refine isWord_of_fold_isAlpha (List.all_eq_true.1 hw _ ?_)
  unfold Spells at h
  rw [← h]
  exact List.mem_map_of_mem hc

theorem LimitWord.isWord {w : List Char} (h : LimitWord w) :
    ∀ c ∈ w, Text.isWord c = true ∧ isDigit c = false := by
  rcases h with h | h
  · exact h.isWord (by decide)
  · exact h.isWord (by decide)

/-- A page is made of words and blanks. -/
theorem FetchClauseText.isWord_or_isBlank {text : List Char} {f : FetchClause}
    (h : FetchClauseText text f) : ∀ c ∈ text, isWord c = true ∨ isBlank c = true := by
  obtain @⟨b₁, offset, b₂, m, b₃, rows₁, b₄, fetch, b₅, next, b₆, n, b₇, rows₂, b₈, only, -,
    hblanks, hoffset, hm, hrows₁, hfetch, hnext, hn, hrows₂, honly⟩ := h
  simp only [List.forall_mem_cons] at hblanks
  obtain ⟨hb₁, hb₂, hb₃, hb₄, hb₅, hb₆, hb₇, hb₈, -⟩ := hblanks
  have hblank : ∀ {b}, Blanks b → ∀ c ∈ b, isWord c = true ∨ isBlank c = true :=
    fun hb c hc => .inr (hb c hc)
  have hdigits : ∀ {m}, Digits m → ∀ c ∈ m, isWord c = true ∨ isBlank c = true :=
    fun hm c hc => .inl (isWord_of_isDigit (hm.2 c hc))
  have hword : ∀ {word t}, Spells word t → (word.toList.map fold).all Char.isAlpha = true →
      ∀ c ∈ t, isWord c = true ∨ isBlank c = true :=
    fun ht hletters c hc => .inl (ht.isWord hletters c hc).1
  have hrows : ∀ {t}, SpellsRows t → ∀ c ∈ t, isWord c = true ∨ isBlank c = true :=
    fun ht => ht.elim (hword · (by decide)) (hword · (by decide))
  have hnext' := hnext.elim (hword · (by decide)) (hword · (by decide))
  have hparts : ∀ part ∈ [b₁, offset, b₂, m, b₃, rows₁, b₄, fetch, b₅, next, b₆, n, b₇, rows₂, b₈,
      only], ∀ c ∈ part, isWord c = true ∨ isBlank c = true := by
    simp only [List.forall_mem_cons]
    exact ⟨hblank hb₁, hword hoffset (by decide), hblank hb₂, hdigits hm, hblank hb₃, hrows hrows₁,
      hblank hb₄, hword hfetch (by decide), hblank hb₅, hnext', hblank hb₆, hdigits hn, hblank hb₇,
      hrows hrows₂, hblank hb₈, hword honly (by decide), by simp⟩
  intro c hc
  obtain ⟨part, hpart, hc⟩ : ∃ part ∈ [b₁, offset, b₂, m, b₃, rows₁, b₄, fetch, b₅, next, b₆, n, b₇,
      rows₂, b₈, only], c ∈ part := by
    rw [← List.mem_flatten]
    simpa using hc
  exact hparts part hpart c hc

theorem limitsFrom_cons_word {c : Char} (hc : isWord c = true) (w s : List Char) :
    limitsFrom w (c :: s) = limitsFrom (w ++ [c]) s := by
  rw [limitsFrom, if_pos hc]

theorem limitsFrom_cons_sep {c : Char} (hc : isWord c = false) (w s : List Char) :
    limitsFrom w (c :: s) = limitAt w (c :: s) ++ limitsFrom [] s := by
  rw [limitsFrom, if_neg (by simp [hc])]

theorem countBehind_cons (c : Char) (s : List Char) :
    countBehind (c :: s) = if c = ' ' then (digitsAt s).filter (· ≠ []) else none := rfl

theorem limitAt_congr {r t : List Char} (h : countBehind r = countBehind t) (w : List Char) :
    limitAt w r = limitAt w t := by
  unfold limitAt
  rw [h]

theorem limitAt_of_not {w : List Char} (h : ¬LimitWord w) (rest : List Char) : limitAt w rest = [] :=
  if_neg h

/-- Word characters are carried along. -/
theorem limitsFrom_word_append {x : List Char} (hx : ∀ c ∈ x, isWord c = true) (w s : List Char) :
    limitsFrom w (x ++ s) = limitsFrom (w ++ x) s := by
  induction x generalizing w with
  | nil => simp
  | cons c x ih =>
    rw [List.cons_append, limitsFrom_cons_word (hx c (by simp)), ih fun d hd => hx d (by simp [hd])]
    simp

/-! ## Words and what separates them -/

theorem takeWhile_append_sep {c : Char} (hc : isWord c = false) (x s : List Char) :
    (x ++ c :: s).takeWhile isWord = x.takeWhile isWord := by
  induction x with
  | nil => simp [hc]
  | cons d x ih =>
    rw [List.cons_append, List.takeWhile_cons, List.takeWhile_cons, ih]

theorem digitsAt_append_sep {c : Char} (hc : isWord c = false) (x s : List Char) :
    digitsAt (x ++ c :: s) = digitsAt x := by
  unfold digitsAt
  rw [takeWhile_append_sep hc]

theorem digitsAt_cons_congr (c : Char) {s t : List Char} (h : digitsAt s = digitsAt t) :
    digitsAt (c :: s) = digitsAt (c :: t) := by
  have hcons : ∀ u, digitsAt (c :: u) =
      if isWord c then if isDigit c then (digitsAt u).map (c :: ·) else none else some [] := by
    intro u
    unfold digitsAt
    cases hc : isWord c <;> cases hd : isDigit c <;>
      cases hall : (u.takeWhile isWord).all isDigit <;> simp_all
  rw [hcons, hcons, h]

theorem digitsAt_sep {c : Char} (hc : isWord c = false) (s : List Char) :
    digitsAt (c :: s) = some [] :=
  digitsAt_append_sep hc [] s

/-- A separator cuts a text in two, unless it is a space with a count behind it. -/
theorem limitsFrom_append_sep {c : Char} {s : List Char} (hc : isWord c = false)
    (hcount : countBehind (c :: s) = none) (w x : List Char) :
    limitsFrom w (x ++ c :: s) = limitsFrom w x ++ limitsFrom [] s := by
  induction x generalizing w with
  | nil =>
    rw [List.nil_append, limitsFrom_cons_sep hc, limitsFrom, limitAt_congr (t := []) hcount]
  | cons d x ih =>
    rw [List.cons_append]
    cases hd : isWord d with
    | true => rw [limitsFrom_cons_word hd, limitsFrom_cons_word hd, ih]
    | false =>
      have hsame : countBehind (d :: (x ++ c :: s)) = countBehind (d :: x) := by
        rw [countBehind_cons, countBehind_cons, digitsAt_append_sep hc]
      rw [limitsFrom_cons_sep hd, limitsFrom_cons_sep hd, ih, limitAt_congr hsame, List.append_assoc]

/-- Any separator cuts the number of keywords in two. -/
theorem length_limitsFrom_append_sep {c : Char} (hc : isWord c = false) (w x s : List Char) :
    (limitsFrom w (x ++ c :: s)).length = (limitsFrom w x).length + (limitsFrom [] s).length := by
  have hlen : ∀ v r r', (limitAt v r).length = (limitAt v r').length := by
    intro v r r'
    unfold limitAt
    split <;> rfl
  induction x generalizing w with
  | nil =>
    rw [List.nil_append, limitsFrom_cons_sep hc, List.length_append, limitsFrom, hlen w (c :: s) []]
  | cons d x ih =>
    rw [List.cons_append]
    cases hd : isWord d with
    | true => rw [limitsFrom_cons_word hd, limitsFrom_cons_word hd, ih]
    | false =>
      rw [limitsFrom_cons_sep hd, limitsFrom_cons_sep hd, List.length_append, List.length_append, ih,
        hlen w (d :: (x ++ c :: s)) (d :: x)]
      omega

/-- A text without keywords, up to a separator, can be left out. -/
theorem limitsFrom_of_nil {c : Char} (hc : isWord c = false) {w x : List Char}
    (hx : limitsFrom w x = []) (s : List Char) : limitsFrom w (x ++ c :: s) = limitsFrom [] s := by
  induction x generalizing w with
  | nil =>
    have hw : ¬LimitWord w := by
      intro hw
      rw [limitsFrom, limitAt, if_pos hw] at hx
      cases hx
    rw [List.nil_append, limitsFrom_cons_sep hc, limitAt_of_not hw, List.nil_append]
  | cons d x ih =>
    rw [List.cons_append]
    cases hd : isWord d with
    | true =>
      rw [limitsFrom_cons_word hd] at hx ⊢
      exact ih hx
    | false =>
      rw [limitsFrom_cons_sep hd, List.append_eq_nil_iff] at hx
      have hw : ¬LimitWord w := by
        intro hw
        rw [limitAt, if_pos hw] at hx
        cases hx.1
      rw [limitsFrom_cons_sep hd, limitAt_of_not hw, List.nil_append]
      exact ih hx.2

/-- The empty word is no keyword. -/
theorem limitsFrom_nil_sep {c : Char} (hc : isWord c = false) (s : List Char) :
    limitsFrom [] (c :: s) = limitsFrom [] s :=
  limitsFrom_of_nil hc (x := []) (by decide) s

/-- Blanks in front of a text do not matter. -/
theorem limitsFrom_blanks_append {b : List Char} (hb : Blanks b) (s : List Char) :
    limitsFrom [] (b ++ s) = limitsFrom [] s := by
  induction b with
  | nil => rfl
  | cons c b ih =>
    rw [List.cons_append, limitsFrom_nil_sep (isWord_of_isBlank (hb c (by simp)))]
    exact ih fun d hd => hb d (by simp [hd])

/-- A text without keywords can be left out with the blanks behind it. -/
theorem limitsFrom_of_nil_blanks {w x b : List Char} (hx : limitsFrom w x = []) (hne : b ≠ [])
    (hb : Blanks b) (s : List Char) : limitsFrom w (x ++ (b ++ s)) = limitsFrom [] s := by
  obtain ⟨c, b, rfl⟩ := List.exists_cons_of_ne_nil hne
  rw [List.cons_append, limitsFrom_of_nil (isWord_of_isBlank (hb c (by simp))) hx]
  exact limitsFrom_blanks_append (fun d hd => hb d (by simp [hd])) s

theorem limitsFrom_blanks {b : List Char} (hb : Blanks b) : limitsFrom [] b = [] := by
  have h := limitsFrom_blanks_append hb []
  rw [List.append_nil] at h
  exact h.trans (by decide)

/-- Blanks at the end of a text do not matter. -/
theorem limitsFrom_append_blanks {b : List Char} (hb : Blanks b) (w x : List Char) :
    limitsFrom w (x ++ b) = limitsFrom w x := by
  cases b with
  | nil => rw [List.append_nil]
  | cons c b =>
    have hc := isWord_of_isBlank (hb c (by simp))
    have hb' : Blanks b := fun d hd => hb d (by simp [hd])
    have hword : b.takeWhile isWord = [] := by
      cases b with
      | nil => rfl
      | cons d b => simp [isWord_of_isBlank (hb' d (by simp))]
    have hcount : countBehind (c :: b) = none := by
      rw [countBehind_cons, digitsAt, hword]
      simp
    rw [limitsFrom_append_sep hc hcount, limitsFrom_blanks hb', List.append_nil]

/-! ## Words that are no row limit keywords -/

theorem Spells.not_limitWord {word : String} {t : List Char} (h : Spells word t)
    (hw : ¬LimitWord word.toList) : ¬LimitWord t := by
  unfold LimitWord Spells at *
  rw [h]
  exact hw

theorem limitsFrom_of_not_limitWord {w : List Char} (hw : ∀ c ∈ w, isWord c = true)
    (h : ¬LimitWord w) : limitsFrom [] w = [] := by
  have hword := limitsFrom_word_append hw [] []
  rw [List.append_nil, List.nil_append] at hword
  rw [hword, limitsFrom, limitAt_of_not h]

theorem Digits.limitsFrom {n : List Char} (h : Digits n) : limitsFrom [] n = [] := by
  refine limitsFrom_of_not_limitWord (fun c hc => isWord_of_isDigit (h.2 c hc)) fun hw => ?_
  obtain ⟨c, n, rfl⟩ := List.exists_cons_of_ne_nil h.1
  have hdigit := h.2 c (by simp)
  rw [(hw.isWord c (by simp)).2] at hdigit
  cases hdigit

/-! ## Places where a word ends -/

theorem atWordEnd_dropWhile (s : List Char) : atWordEnd (s.dropWhile isWord) = true := by
  induction s with
  | nil => rfl
  | cons c s ih =>
    cases hc : isWord c with
    | true =>
      rw [List.dropWhile_cons_of_pos hc]
      exact ih
    | false =>
      rw [List.dropWhile_cons_of_neg (by simp [hc])]
      simp [atWordEnd, hc]

theorem takeWhile_dropWhile_of_atWordEnd {s : List Char} (h : atWordEnd s = true) :
    s.takeWhile isWord = [] ∧ s.dropWhile isWord = s := by
  cases s with
  | nil => exact ⟨rfl, rfl⟩
  | cons c s =>
    have hc : ¬isWord c = true := by simpa [atWordEnd] using h
    exact ⟨List.takeWhile_cons_of_neg hc, List.dropWhile_cons_of_neg hc⟩

theorem limitsFrom_of_nil_atWordEnd {w x s : List Char} (hx : limitsFrom w x = [])
    (hs : atWordEnd s = true) : limitsFrom w (x ++ s) = limitsFrom [] s := by
  cases s with
  | nil =>
    rw [List.append_nil, hx]
    decide
  | cons c s =>
    have hc : isWord c = false := by simpa [atWordEnd] using hs
    rw [limitsFrom_of_nil hc hx, limitsFrom_nil_sep hc]

theorem limitsFrom_append_eq_nil {w x s : List Char} (hs : atWordEnd s = true)
    (h : limitsFrom w (x ++ s) = []) : limitsFrom w x = [] ∧ limitsFrom [] s = [] := by
  cases s with
  | nil =>
    rw [List.append_nil] at h
    exact ⟨h, by decide⟩
  | cons c s =>
    have hc : isWord c = false := by simpa [atWordEnd] using hs
    have hlen := length_limitsFrom_append_sep hc w x s
    rw [h, List.length_nil] at hlen
    rw [limitsFrom_nil_sep hc]
    exact ⟨List.eq_nil_of_length_eq_zero (by omega), List.eq_nil_of_length_eq_zero (by omega)⟩

theorem countBehind_digits {n s : List Char} (hn : Digits n) (hs : atWordEnd s = true) :
    countBehind (' ' :: (n ++ s)) = some n := by
  have hword : (n ++ s).takeWhile isWord = n := by
    rw [List.takeWhile_append_of_pos fun c hc => isWord_of_isDigit (hn.2 c hc),
      (takeWhile_dropWhile_of_atWordEnd hs).1, List.append_nil]
  rw [countBehind_cons, if_pos rfl, digitsAt, hword, if_pos (List.all_eq_true.2 hn.2)]
  simp [hn.1]

/-- A keyword and its count are found in the text as they are listed. -/
theorem mem_limitsFrom {w s v n : List Char} (h : (v, some n) ∈ limitsFrom w s) :
    ∃ a b, w ++ s = a ++ v ++ ' ' :: (n ++ b) ∧ atWordStart a.getLast? = true ∧
      atWordEnd b = true := by
  have hcut : ∀ {w s}, (v, some n) ∈ limitAt w s →
      ∃ a b, w ++ s = a ++ v ++ ' ' :: (n ++ b) ∧ atWordStart a.getLast? = true ∧
        atWordEnd b = true := by
    intro w s h
    unfold limitAt at h
    split at h
    · obtain ⟨rfl, hn⟩ := Prod.mk.inj (List.mem_singleton.1 h)
      cases s with
      | nil => cases hn
      | cons c s =>
        rw [countBehind_cons] at hn
        split at hn
        · rename_i hc
          have hword : s.takeWhile isWord = n := by
            obtain ⟨hdigits, -⟩ := Option.filter_eq_some_iff.1 hn.symm
            unfold digitsAt at hdigits
            split at hdigits
            · exact Option.some.inj hdigits
            · cases hdigits
          refine ⟨[], s.dropWhile isWord, ?_, rfl, atWordEnd_dropWhile s⟩
          rw [← hword, List.takeWhile_append_dropWhile, hc, List.nil_append]
        · cases hn
    · cases h
  induction s generalizing w with
  | nil => exact hcut h
  | cons c s ih =>
    cases hc : isWord c with
    | true =>
      rw [limitsFrom_cons_word hc] at h
      simpa using ih h
    | false =>
      rw [limitsFrom_cons_sep hc] at h
      rcases List.mem_append.1 h with h | h
      · exact hcut h
      · obtain ⟨a, b, hs, ha, hb⟩ := ih h
        refine ⟨w ++ c :: a, b, ?_, ?_, hb⟩
        · rw [List.nil_append] at hs
          rw [hs]
          simp
        · rw [List.getLast?_append, getLast?_cons_or]
          cases hlast : a.getLast? with
          | none => simp [atWordStart, hc]
          | some d =>
            rw [hlast] at ha
            exact ha

/-! ## The sweep for row limits -/

theorem rowLimit_reads : Reads rowLimit fun before text _ rest =>
    atWordStart before = true ∧ LimitWord text ∧ atWordEnd rest = true := by
  intro before s a rest h
  simp only [rowLimit, Option.bind_eq_bind, Option.bind_eq_some_iff, guard_eq_some, Option.pure_def,
    Option.some.injEq, Prod.mk.injEq] at h
  obtain ⟨-, hstart, s₁, h₁, -, hend, -, rfl⟩ := h
  obtain ⟨w, hw, rfl⟩ := oneOf?_keyword_eq_some h₁
  refine ⟨w, ?_, rfl, hstart, hw, hend⟩
  rcases hw with hw | hw
  · exact hw.ne_nil (by decide)
  · exact hw.ne_nil (by decide)

/-- A keyword that stands alone is read. -/
theorem rowLimit_append {before : Option Char} {w rest : List Char}
    (hstart : atWordStart before = true) (hw : LimitWord w) (hend : atWordEnd rest = true) :
    rowLimit before (w ++ rest) = some ((), rest) := by
  have hread :
      oneOf? (keyword? "offset".toList) (keyword? "limit".toList) (w ++ rest) = some rest := by
    unfold oneOf?
    rcases hw with hw | hw
    · rw [keyword?, dropFolded?_append rest hw, Option.some_or]
    · have hlimit : keyword? "limit".toList (w ++ rest) = some rest := dropFolded?_append rest hw
      rw [keyword?_eq_none "offset" (by decide) hlimit, Option.none_or, hlimit]
  have hguard : (guard (atWordStart before = true) : Option Unit) = some () := guard_eq_some.2 hstart
  have hguard' : (guard (atWordEnd rest = true) : Option Unit) = some () := guard_eq_some.2 hend
  unfold rowLimit
  simp only [hguard, hread, hguard', Option.bind_eq_bind, Option.pure_def, Option.bind_some]

/-- The word that is being read ends where its characters end. -/
theorem limitsFrom_eq (w s : List Char) :
    limitsFrom w s = limitAt (w ++ s.takeWhile isWord) (s.dropWhile isWord) ++
      limitsFrom [] (s.dropWhile isWord) := by
  induction s generalizing w with
  | nil => simp [limitsFrom, limitAt_of_not (show ¬LimitWord [] by decide)]
  | cons c s ih =>
    cases hc : isWord c with
    | true =>
      rw [limitsFrom_cons_word hc, ih, List.takeWhile_cons_of_pos hc, List.dropWhile_cons_of_pos hc]
      simp
    | false =>
      have hc' : ¬isWord c = true := by simp [hc]
      rw [limitsFrom_cons_sep hc, List.takeWhile_cons_of_neg hc', List.dropWhile_cons_of_neg hc',
        limitsFrom_nil_sep hc, List.append_nil]

/-- Where no word can start, a sweep sees what follows the word it is in. -/
theorem length_hits_rowLimit (before : Option Char) (s : List Char) :
    ((piecesFrom rowLimit 0 before s).filterMap Piece.value?).length =
      (limitsFrom [] (if atWordStart before then s else s.dropWhile isWord)).length := by
  refine piecesFrom_induction rowLimit_reads (motive := fun before s ps =>
    (ps.filterMap Piece.value?).length =
      (limitsFrom [] (if atWordStart before then s else s.dropWhile isWord)).length) ?_ ?_ ?_ before s
  · intro before
    simp [limitsFrom, limitAt_of_not (show ¬LimitWord [] by decide)]
  · intro before c s ps hmiss ih
    rw [List.filterMap_cons_none rfl, ih]
    cases hc : isWord c with
    | false =>
      have hc' : ¬isWord c = true := by simp [hc]
      simp [atWordStart, hc, List.dropWhile_cons_of_neg hc', limitsFrom_nil_sep hc]
    | true =>
      cases hstart : atWordStart before with
      | false => simp [atWordStart, hc, List.dropWhile_cons_of_pos hc]
      | true =>
        have hword : ¬LimitWord ((c :: s).takeWhile isWord) := by
          intro hw
          have hread := rowLimit_append hstart hw (atWordEnd_dropWhile (c :: s))
          rw [List.takeWhile_append_dropWhile, hmiss] at hread
          cases hread
        rw [if_pos rfl, limitsFrom_eq [] (c :: s), List.nil_append, limitAt_of_not hword]
        simp [atWordStart, hc, List.dropWhile_cons_of_pos hc]
  · intro before text a rest ps _ h ih
    obtain ⟨hstart, hw, hend⟩ := h
    obtain ⟨htake, hdrop⟩ := takeWhile_dropWhile_of_atWordEnd hend
    have hword : ∀ c ∈ text, isWord c = true := fun c hc => (hw.isWord c hc).1
    have hlast : limitsFrom [] (if atWordStart text.getLast? then rest else rest.dropWhile isWord) =
        limitsFrom [] rest := by
      rw [hdrop, ite_self]
    rw [hlast] at ih
    rw [if_pos hstart, limitsFrom_word_append hword, limitsFrom_eq, htake, hdrop, List.nil_append,
      List.append_nil, limitAt, if_pos hw, List.length_append, ← ih]
    exact Nat.add_comm _ 1

theorem rowLimits_eq_length (s : List Char) : rowLimits s = (limitsFrom [] s).length :=
  length_hits_rowLimit none s

theorem hasRowLimit_eq_false_iff {s : List Char} :
    hasRowLimit s = false ↔ limitsFrom [] s = [] := by
  have hcount : (hits rowLimit s).length = (limitsFrom [] s).length := rowLimits_eq_length s
  rw [hasRowLimit, not_occurs_iff, ← List.length_eq_zero_iff, hcount, List.length_eq_zero_iff]

theorem hasRowLimit_iff (s : List Char) : hasRowLimit s = true ↔ limitsFrom [] s ≠ [] := by
  rw [← Bool.not_eq_false, hasRowLimit_eq_false_iff]

theorem rowLimits_pos_iff {s : List Char} : 0 < rowLimits s ↔ hasRowLimit s = true := by
  rw [rowLimits_eq_length, List.length_pos_iff, hasRowLimit_iff]

end SqlDialect.Query
