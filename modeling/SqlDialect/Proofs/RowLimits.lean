import SqlDialect.Translator
import SqlDialect.Proofs.LimitWords

/-!
# Row limits under translation

* `KeepsLimits` — a construct is written anew such that the row limit keywords stay, whatever stands
  around it. The constructs of the rules from the one for `TOP` on are of this kind, and so their
  sweeps keep the list of keywords and counts (`limitsFrom_replaceAll`).
* `limitsFrom_insertBeforeTail` — a limit put before the tail of a statement without one is then the
  only one.
* `rowLimits_translate` — a translation has the row limits that the first four rules leave, or the
  one of the `TOP` when they leave none.
-/

namespace SqlDialect.Query

open Scan Text

/-! ## Constructs that keep the row limits -/

/-- A construct at a place is written anew such that the row limit keywords around it stay as they
are, and their counts. -/
structure KeepsLimits (before : Option Char) (text new rest : List Char) : Prop where
  /-- A count that would end in the construct ends in what is written for it. -/
  digits : ∀ s t, digitsAt (text ++ s) = digitsAt (new ++ t)
  /-- The keywords stay, if they do so in the rest. -/
  limits : ∀ w t, (atWordStart before = true → w = []) → (rest = [] → t = []) →
    limitsFrom [] rest = limitsFrom [] t → limitsFrom w (text ++ rest) = limitsFrom w (new ++ t)

/-- If every construct keeps the row limits, so does the sweep that writes them anew. -/
theorem limitsFrom_piecesFrom {α : Type} {scan : Scanner α} {write : α → List Char}
    {Shape : Option Char → List Char → α → List Char → Prop} (hscan : Reads scan Shape)
    (h : ∀ before text a rest, Shape before text a rest → KeepsLimits before text (write a) rest)
    (before : Option Char) (s : List Char) :
    let out := (piecesFrom scan 0 before s).flatMap (Piece.render write)
    (s = [] → out = []) ∧ digitsAt s = digitsAt out ∧
      ∀ w, (atWordStart before = true → w = []) → limitsFrom w s = limitsFrom w out := by
  refine piecesFrom_induction hscan (motive := fun before s ps =>
    (s = [] → ps.flatMap (Piece.render write) = []) ∧
      digitsAt s = digitsAt (ps.flatMap (Piece.render write)) ∧
      ∀ w, (atWordStart before = true → w = []) →
        limitsFrom w s = limitsFrom w (ps.flatMap (Piece.render write))) ?_ ?_ ?_ before s
  · intro _
    exact ⟨fun _ => rfl, rfl, fun _ _ => rfl⟩
  · rintro before c s ps - ⟨-, hdigits, hlimits⟩
    refine ⟨nofun, ?_, fun w hw => ?_⟩
    · exact digitsAt_cons_congr c hdigits
    · simp only [List.flatMap_cons, Piece.render, List.cons_append, List.nil_append]
      cases hc : isWord c with
      | true =>
        rw [limitsFrom_cons_word hc, limitsFrom_cons_word hc]
        exact hlimits _ fun hs => by simp [atWordStart, hc] at hs
      | false =>
        have hcount : countBehind (c :: s) = countBehind (c :: ps.flatMap (Piece.render write)) := by
          rw [countBehind_cons, countBehind_cons, hdigits]
        rw [limitsFrom_cons_sep hc, limitsFrom_cons_sep hc, limitAt_congr hcount,
          hlimits [] fun _ => rfl]
  · rintro before text a rest ps hne hshape ⟨hnil, -, hlimits⟩
    have hkeep := h before text a rest hshape
    exact ⟨fun heq => absurd (List.append_eq_nil_iff.1 heq).1 hne, hkeep.digits _ _,
      fun w hw => hkeep.limits w _ hw hnil (hlimits [] fun _ => rfl)⟩

theorem limitsFrom_replaceAll {α : Type} {scan : Scanner α} {write : α → List Char}
    {Shape : Option Char → List Char → α → List Char → Prop} (hscan : Reads scan Shape)
    (h : ∀ before text a rest, Shape before text a rest → KeepsLimits before text (write a) rest)
    (s : List Char) : limitsFrom [] (replaceAll scan write s) = limitsFrom [] s :=
  ((limitsFrom_piecesFrom hscan h none s).2.2 [] fun _ => rfl).symm

/-- A word that starts with a letter and is no row limit keyword. -/
def OtherWord (w : List Char) : Prop :=
  w.head?.any (fun c => isWord c && !isDigit c) = true ∧ limitsFrom [] w = []

instance (w : List Char) : Decidable (OtherWord w) := inferInstanceAs (Decidable (_ ∧ _))

theorem OtherWord.digitsAt_append {w : List Char} (h : OtherWord w) (s : List Char) :
    digitsAt (w ++ s) = none := by
  obtain ⟨hhead, -⟩ := h
  cases w with
  | nil => cases hhead
  | cons c w =>
    have hc : isWord c = true ∧ isDigit c = false := by simpa using hhead
    unfold digitsAt
    rw [List.cons_append, List.takeWhile_cons_of_pos hc.1, List.all_cons, hc.2]
    rfl

theorem OtherWord.limitsFrom_append_sep {w b : List Char} {c : Char} (h : OtherWord w)
    (hb : Blanks b) (hc : isWord c = false) (s : List Char) :
    limitsFrom [] (w ++ (b ++ c :: s)) = limitsFrom [] s := by
  rw [← List.append_assoc]
  exact limitsFrom_of_nil hc ((limitsFrom_append_blanks hb [] w).trans h.2) s

/-- Keywords other than those for row limits are other words. -/
theorem Spells.otherWord {word : String} {t : List Char} (h : Spells word t)
    (hw : word.toList ≠ [] ∧ (word.toList.map fold).all Char.isAlpha = true ∧
      ¬LimitWord word.toList) : OtherWord t := by
  obtain ⟨hne, hletters, hnot⟩ := hw
  have hword := h.isWord hletters
  refine ⟨?_, limitsFrom_of_not_limitWord (fun c hc => (hword c hc).1) (h.not_limitWord hnot)⟩
  obtain ⟨c, t, rfl⟩ := List.exists_cons_of_ne_nil (h.ne_nil hne)
  simp [hword c (by simp)]

/-- A construct that starts with a word and is written with another one. -/
theorem KeepsLimits.of_words {before : Option Char} {w w' x y rest : List Char}
    (hstart : atWordStart before = true) (hw : OtherWord w) (hw' : OtherWord w')
    (h : ∀ t, limitsFrom [] rest = limitsFrom [] t →
      limitsFrom [] (w ++ x ++ rest) = limitsFrom [] (w' ++ y ++ t)) :
    KeepsLimits before (w ++ x) (w' ++ y) rest where
  digits s t := by
    rw [List.append_assoc, List.append_assoc, hw.digitsAt_append, hw'.digitsAt_append]
  limits v t hv _ ht := by
    rw [hv hstart]
    exact h t ht

/-! ## Constructs -/

/-- An argument ends at the parenthesis behind it, and the blanks there do not matter. -/
theorem limitsFrom_argument {b : List Char} (hb : Blanks b) (arg s : List Char) :
    limitsFrom [] (arg ++ (b ++ ')' :: s)) = limitsFrom [] arg ++ limitsFrom [] s := by
  rw [← List.append_assoc, limitsFrom_append_sep (by decide) rfl, limitsFrom_append_blanks hb]

theorem OpenCallText.keepsLimits {before : Option Char} {name : String} {text : List Char}
    (h : OpenCallText name text) (hstart : atWordStart before = true)
    (hname : name.toList ≠ [] ∧ (name.toList.map fold).all Char.isAlpha = true ∧
      ¬LimitWord name.toList)
    (new : String) (hnew : OtherWord new.toList) (rest : List Char) :
    KeepsLimits before text (new.toList ++ ['(']) rest := by
  obtain @⟨word, b, hword, hb⟩ := h
  rw [List.append_assoc]
  refine .of_words hstart (hword.otherWord hname) hnew fun t ht => ?_
  have hold : limitsFrom [] (word ++ (b ++ ['(']) ++ rest) = limitsFrom [] rest := by
    simp only [List.append_assoc, List.cons_append, List.nil_append]
    exact (hword.otherWord hname).limitsFrom_append_sep hb (by decide) rest
  have hnew' : limitsFrom [] (new.toList ++ ['('] ++ t) = limitsFrom [] t := by
    rw [List.append_assoc]
    exact limitsFrom_of_nil (by decide) hnew.2 t
  rw [hold, hnew', ht]

/-- The limits of `TO_CHAR(arg, format)` are those of the argument. -/
theorem limitsFrom_formatted {format : List Char} (hformat : limitsFrom [] format = [])
    (arg s : List Char) :
    limitsFrom [] ("TO_CHAR".toList ++ '(' :: (arg ++ ',' :: (format ++ ')' :: s))) =
      limitsFrom [] arg ++ limitsFrom [] s := by
  rw [limitsFrom_of_nil (by decide) (by decide), limitsFrom_append_sep (by decide) rfl,
    limitsFrom_of_nil (by decide) hformat]

theorem MonthNameCallText.keepsLimits {before : Option Char} {text arg : List Char}
    (h : MonthNameCallText text arg) (hstart : atWordStart before = true) (rest : List Char) :
    KeepsLimits before text (monthNameText arg) rest := by
  obtain @⟨name, b₁, b₂, month, b₃, b₄, arg, b₅, hname, hb₁, hb₂, hmonth, hb₃, hb₄, hb₅, -⟩ := h
  have hnew : monthNameText arg =
      "TO_CHAR".toList ++ '(' :: (arg ++ ',' :: (" 'Month'".toList ++ [')'])) := by
    unfold monthNameText
    simp
  have hname := hname.otherWord (by decide)
  have hmonth := hmonth.otherWord (by decide)
  rw [hnew]
  simp only [List.append_assoc, List.cons_append, List.nil_append]
  refine .of_words hstart hname (by decide) fun t ht => ?_
  simp only [List.append_assoc, List.cons_append, List.nil_append]
  calc
    _ = limitsFrom [] arg ++ limitsFrom [] rest := by
      rw [hname.limitsFrom_append_sep hb₁ (by decide), limitsFrom_blanks_append hb₂,
        hmonth.limitsFrom_append_sep hb₃ (by decide), limitsFrom_blanks_append hb₄,
        limitsFrom_argument hb₅]
    _ = limitsFrom [] arg ++ limitsFrom [] t := by rw [ht]
    _ = _ := (limitsFrom_formatted (by decide) arg t).symm

theorem DateTextCallText.keepsLimits {before : Option Char} {text arg : List Char}
    (h : DateTextCallText text arg) (hstart : atWordStart before = true) (rest : List Char) :
    KeepsLimits before text (dateText arg) rest := by
  obtain @⟨name, b₁, b₂, type, b₃, b₄, b₅, b₆, b₇, arg, b₈, hname, hblanks, htype, -⟩ := h
  simp only [List.forall_mem_cons] at hblanks
  obtain ⟨hb₁, hb₂, hb₃, hb₄, hb₅, hb₆, hb₇, hb₈, -⟩ := hblanks
  have hnew : dateText arg =
      "TO_CHAR".toList ++ '(' :: (arg ++ ',' :: (" 'YYYY-MM-DD'".toList ++ [')'])) := by
    unfold dateText
    simp
  have hname := hname.otherWord (by decide)
  have htype := htype.otherWord (by decide)
  have hsize : limitsFrom [] (['1', '0'] ++ b₅) = [] :=
    (limitsFrom_append_blanks hb₅ _ _).trans (by decide)
  rw [hnew]
  simp only [List.append_assoc, List.cons_append, List.nil_append]
  refine .of_words hstart hname (by decide) fun t ht => ?_
  simp only [List.append_assoc, List.cons_append, List.nil_append]
  calc
    _ = limitsFrom [] ((['1', '0'] ++ b₅) ++
          ')' :: (b₆ ++ ',' :: (b₇ ++ (arg ++ (b₈ ++ ')' :: rest))))) := by
      rw [hname.limitsFrom_append_sep hb₁ (by decide), limitsFrom_blanks_append hb₂,
        htype.limitsFrom_append_sep hb₃ (by decide), limitsFrom_blanks_append hb₄]
      simp
    _ = limitsFrom [] arg ++ limitsFrom [] rest := by
      rw [limitsFrom_of_nil (by decide) hsize, limitsFrom_blanks_append hb₆,
        limitsFrom_nil_sep (by decide), limitsFrom_blanks_append hb₇,
        limitsFrom_argument hb₈]
    _ = limitsFrom [] arg ++ limitsFrom [] t := by rw [ht]
    _ = _ := (limitsFrom_formatted (by decide) arg t).symm

theorem MonthCallText.keepsLimits {before : Option Char} {text arg : List Char}
    (h : MonthCallText text arg) (hstart : atWordStart before = true) (rest : List Char) :
    KeepsLimits before text (monthText arg) rest := by
  obtain @⟨month, b, arg, hmonth, hb, -⟩ := h
  have hnew : monthText arg
      = "EXTRACT".toList ++ '(' :: ("MONTH FROM".toList ++ ' ' :: (arg ++ [')'])) := by
    unfold monthText
    simp
  have hmonth := hmonth.otherWord (by decide)
  rw [hnew]
  simp only [List.append_assoc, List.cons_append, List.nil_append]
  refine .of_words hstart hmonth (by decide) fun t ht => ?_
  simp only [List.append_assoc, List.cons_append, List.nil_append]
  calc
    _ = limitsFrom [] (arg ++ ')' :: rest) := hmonth.limitsFrom_append_sep hb (by decide) _
    _ = limitsFrom [] (arg ++ ')' :: t) := by
      rw [limitsFrom_append_sep (by decide) rfl, limitsFrom_append_sep (by decide) rfl, ht]
    _ = limitsFrom [] ("MONTH FROM".toList ++ ' ' :: (arg ++ ')' :: t)) :=
      (limitsFrom_of_nil (by decide) (by decide) _).symm
    _ = _ := (limitsFrom_of_nil (by decide) (by decide) _).symm

/-- What stands in quotes ends at the second one. -/
theorem limitsFrom_quoted {q : Char} (hq : q = '\'' ∨ q = '"') (w body s : List Char) :
    limitsFrom w (q :: (body ++ q :: s)) = limitsFrom w (q :: body) ++ limitsFrom [] s := by
  rcases hq with rfl | rfl
  · exact limitsFrom_append_sep (by decide) rfl w ('\'' :: body)
  · exact limitsFrom_append_sep (by decide) rfl w ('"' :: body)

theorem LiteralSumText.keepsLimits {before : Option Char} {text : List Char}
    {sum : List Char × List Char} (h : LiteralSumText text sum) (rest : List Char) :
    KeepsLimits before text (concatText sum) rest := by
  obtain @⟨left, b₁, b₂, right, ⟨body, rfl⟩, hb₁, hb₂, ⟨body', rfl⟩⟩ := h
  have hbars : " || ".toList = " ||".toList ++ [' '] := by decide
  unfold concatText
  rw [hbars]
  simp only [List.append_assoc, List.cons_append, List.nil_append]
  constructor
  · intro s t
    rw [List.cons_append, List.cons_append, digitsAt_sep (by decide), digitsAt_sep (by decide)]
  · intro w t _ _ ht
    simp only [List.append_assoc, List.cons_append, List.nil_append]
    rw [limitsFrom_quoted (.inl rfl), limitsFrom_quoted (.inl rfl), limitsFrom_blanks_append hb₁,
      limitsFrom_nil_sep (by decide), limitsFrom_blanks_append hb₂, limitsFrom_quoted (.inl rfl),
      limitsFrom_of_nil (by decide) (by decide), limitsFrom_quoted (.inl rfl), ht]

/-- A flag at the end of a comparison is no row limit. -/
theorem StopText.limitsFrom_append {value stop rest t : List Char} (h : StopText stop rest)
    (hvalue : limitsFrom [] value = []) (hnil : rest = [] → t = []) :
    limitsFrom [] (value ++ (stop ++ t)) = limitsFrom [] t := by
  cases h with
  | atEnd =>
    rw [hnil rfl]
    simp [hvalue]
    decide
  | sign hc =>
    refine limitsFrom_of_nil ?_ hvalue t
    rcases hc with hc | hc
    · exact isWord_of_isBlank hc
    · simp only [List.mem_cons, List.not_mem_nil, or_false] at hc
      rcases hc with rfl | rfl | rfl <;> decide

theorem FlagComparisonText.keepsLimits {before : Option Char} {digit : Char} {text rest : List Char}
    {f : FlagComparison} (h : FlagComparisonText digit text f rest) {value : String}
    (hdigit : limitsFrom [] [digit] = []) (hvalue : limitsFrom [] value.toList = []) :
    KeepsLimits before text (f.comparedTo value.toList) rest := by
  obtain @⟨name, b₁, b₂, stop, rest, hb₁, hb₂, hstop⟩ := h
  have heq : " = ".toList = " =".toList ++ [' '] := by decide
  unfold FlagComparison.comparedTo
  rw [heq]
  simp only [List.append_assoc, List.cons_append, List.nil_append]
  constructor
  · intro s t
    rw [List.cons_append, List.cons_append, digitsAt_sep (by decide), digitsAt_sep (by decide)]
  · intro w t _ hnil ht
    simp only [List.append_assoc, List.cons_append]
    have hold : limitsFrom [] (digit :: (stop ++ rest)) = limitsFrom [] rest :=
      hstop.limitsFrom_append hdigit id
    rw [limitsFrom_quoted (.inr rfl), limitsFrom_quoted (.inr rfl), limitsFrom_blanks_append hb₁,
      limitsFrom_nil_sep (by decide), limitsFrom_blanks_append hb₂, hold,
      limitsFrom_of_nil (by decide) (by decide), hstop.limitsFrom_append hvalue hnil, ht]

theorem DistinctText.limitsFrom_append {text : List Char} (h : DistinctText text) (s : List Char) :
    limitsFrom [] (text ++ s) = limitsFrom [] s := by
  rcases h with rfl | ⟨word, b, hword, hne, hb, rfl⟩
  · rfl
  · have hword := hword.otherWord (by decide)
    rw [List.append_assoc]
    exact limitsFrom_of_nil_blanks hword.2 hne hb s

/-- `TOP` and a count, also without a blank between them, are no row limit. -/
theorem limitsFrom_top_append {top b n : List Char} (htop : Spells "top" top) (hb : Blanks b)
    (hn : Digits n) : limitsFrom [] (top ++ b ++ n) = [] := by
  have hword : ∀ c ∈ top, isWord c = true := fun c hc => (htop.isWord (by decide) c hc).1
  cases b with
  | nil =>
    rw [List.append_nil]
    refine limitsFrom_of_not_limitWord ?_ ?_
    · intro c hc
      rcases List.mem_append.1 hc with hc | hc
      · exact hword c hc
      · exact isWord_of_isDigit (hn.2 c hc)
    · intro hw
      -- the last letter of a row limit keyword is no digit
      obtain ⟨d, hd⟩ := List.exists_mem_of_ne_nil n hn.1
      have hdigit := hn.2 d hd
      rw [(hw.isWord d (List.mem_append_right _ hd)).2] at hdigit
      cases hdigit
  | cons c b =>
    have hrest : limitsFrom [] (b ++ n) = [] :=
      (limitsFrom_blanks_append (fun d hd => hb d (by simp [hd])) n).trans hn.limitsFrom
    rw [List.append_assoc, List.cons_append]
    exact (limitsFrom_of_nil (isWord_of_isBlank (hb c (by simp)))
      (htop.otherWord (by decide)).2 _).trans hrest

theorem TopRowsText.limitsFrom_append {top b rows n : List Char} (h : TopRowsText rows n)
    (htop : Spells "top" top) (hb : Blanks b) (s : List Char) :
    limitsFrom [] (top ++ (b ++ (rows ++ s))) = limitsFrom [] s := by
  cases h with
  | enclosed hb₁ hn hb₂ hb₃ =>
    simp only [List.append_assoc, List.cons_append, List.nil_append]
    rw [(htop.otherWord (by decide)).limitsFrom_append_sep hb (by decide),
      limitsFrom_blanks_append hb₁, limitsFrom_argument hb₂, hn.limitsFrom, List.nil_append,
      limitsFrom_blanks_append hb₃]
  | bare hn hne hb' =>
    have hcount := limitsFrom_of_nil_blanks (limitsFrom_top_append htop hb hn) hne hb' s
    simpa only [List.append_assoc] using hcount

theorem SelectTopText.keepsLimits {before : Option Char} {text : List Char} {t : SelectTop}
    (h : SelectTopText text t) (hstart : atWordStart before = true) (rest : List Char) :
    KeepsLimits before text t.bare rest := by
  obtain @⟨select, b₁, distinct, top, b₂, rows, n, hselect, hne, hb₁, hdistinct, htop, hb₂, hrows⟩ := h
  have hnew : "SELECT ".toList = "SELECT".toList ++ [' '] := by decide
  have hselect := hselect.otherWord (by decide)
  unfold SelectTop.bare
  rw [hnew]
  simp only [List.append_assoc]
  refine .of_words hstart hselect (by decide) fun t ht => ?_
  simp only [List.append_assoc, List.cons_append, List.nil_append]
  rw [limitsFrom_of_nil_blanks hselect.2 hne hb₁, hdistinct.limitsFrom_append,
    hrows.limitsFrom_append htop hb₂, limitsFrom_of_nil (by decide) (by decide),
    hdistinct.limitsFrom_append, ht]

/-! ## Rules -/

theorem limitsFrom_stripTop (s : List Char) : limitsFrom [] (stripTop s) = limitsFrom [] s :=
  limitsFrom_replaceAll selectTop_reads (fun _ _ _ rest h => h.2.keepsLimits h.1 rest) s

theorem limitsFrom_datePass (s : List Char) : limitsFrom [] (datePass s) = limitsFrom [] s := by
  unfold datePass
  rw [limitsFrom_replaceAll dateTextCall_reads fun _ _ _ rest h => h.2.keepsLimits h.1 rest,
    limitsFrom_replaceAll monthCall_reads fun _ _ _ rest h => h.2.keepsLimits h.1 rest,
    limitsFrom_replaceAll monthNameCall_reads fun _ _ _ rest h => h.2.keepsLimits h.1 rest]

theorem limitsFrom_renameScalarCalls (s : List Char) :
    limitsFrom [] (renameScalarCalls s) = limitsFrom [] s := by
  have hlen : ∀ s,
      limitsFrom [] (replaceAll lenCall (fun _ => "LENGTH(".toList) s) = limitsFrom [] s :=
    limitsFrom_replaceAll (openCall_reads "len") fun _ _ _ rest h =>
      h.2.keepsLimits h.1 (by decide) "LENGTH" (by decide) rest
  have hisnull : ∀ s, limitsFrom [] (replaceAll isnullCall (fun _ => "COALESCE(".toList) s) =
      limitsFrom [] s :=
    limitsFrom_replaceAll (openCall_reads "isnull") fun _ _ _ rest h =>
      h.2.keepsLimits h.1 (by decide) "COALESCE" (by decide) rest
  unfold renameScalarCalls
  rw [hisnull, hlen]

theorem limitsFrom_concatPass (s : List Char) : limitsFrom [] (concatPass s) = limitsFrom [] s :=
  limitsFrom_replaceAll literalSum_reads (fun _ _ _ rest h => h.keepsLimits rest) s

theorem limitsFrom_spellBooleans (columns : BooleanColumns) (s : List Char) :
    limitsFrom [] (spellBooleans columns s) = limitsFrom [] s := by
  unfold spellBooleans
  rw [limitsFrom_replaceAll (flagComparison_reads columns '0') fun _ _ _ _ h =>
      h.keepsLimits (by decide) (by decide),
    limitsFrom_replaceAll (flagComparison_reads columns '1') fun _ _ _ _ h =>
      h.keepsLimits (by decide) (by decide)]

theorem limitsFrom_settle {f : List Char → List Char} (h : ∀ s, limitsFrom [] (f s) = limitsFrom [] s)
    (n : Nat) (s : List Char) : limitsFrom [] (settle f n s) = limitsFrom [] s :=
  settle_induction (P := fun t => limitsFrom [] t = limitsFrom [] s) (fun t ht => (h t).trans ht) n rfl

/-- The rules behind the one for `TOP` keep the row limits. -/
theorem limitsFrom_apply (whole : List Char) {rule : Rule}
    (h : rule ∈ [.dateCalls, .scalarCalls, .literalSums] ∨ ∃ columns, rule = .booleanColumns columns)
    (s : List Char) : limitsFrom [] (rule.apply whole s) = limitsFrom [] s := by
  rcases h with h | ⟨columns, rfl⟩
  · simp only [List.mem_cons, List.not_mem_nil, or_false] at h
    rcases h with rfl | rfl | rfl
    · exact limitsFrom_settle limitsFrom_datePass _ s
    · exact limitsFrom_renameScalarCalls s
    · exact limitsFrom_settle limitsFrom_concatPass _ s
  · exact limitsFrom_spellBooleans columns s

/-! ## The limit that is put in -/

/-- A tail starts with a blank, a terminator or a comment. -/
theorem atWordEnd_splitTail (s : List Char) : atWordEnd (splitTail s).2 = true := by
  rcases splitTail_snd s with h | h
  · rw [h]
    rfl
  · cases ht : (splitTail s).2 with
    | nil => rfl
    | cons c tail =>
      rw [ht] at h
      simp only [isTail_cons, Bool.or_eq_true, Bool.and_eq_true, beq_iff_eq] at h
      have hc : isWord c = false := by
        rcases h with (⟨rfl, -⟩ | ⟨rfl, -⟩) | ⟨hc, -⟩
        · decide
        · decide
        · exact isWord_of_isBlank hc
      simp [atWordEnd, hc]

/-- A limit that is put into a statement without one is the only one there, whatever its count is. -/
theorem limitsFrom_insertBeforeTail_of_nil {s n : List Char} (hs : limitsFrom [] s = [])
    (hn : limitsFrom [] n = []) : limitsFrom [] (insertBeforeTail s (limitClause n)) =
      [("LIMIT".toList, countBehind (' ' :: (n ++ (splitTail s).2)))] := by
  have htail := atWordEnd_splitTail s
  have hsplit : limitsFrom [] (splitTail s).1 = [] ∧ limitsFrom [] (splitTail s).2 = [] := by
    rw [← splitTail_append s] at hs
    exact limitsFrom_append_eq_nil htail hs
  have hclause : " LIMIT ".toList = ' ' :: ("LIMIT".toList ++ [' ']) := by decide
  unfold insertBeforeTail limitClause
  generalize (splitTail s).1 = body at hsplit ⊢
  generalize (splitTail s).2 = tail at hsplit htail ⊢
  rw [hclause]
  simp only [List.append_assoc, List.cons_append, List.nil_append]
  rw [limitsFrom_of_nil (by decide) hsplit.1, limitsFrom_word_append (List.all_eq_true.1 (by decide)),
    List.nil_append, limitsFrom_cons_sep (by decide), limitAt, if_pos (by decide),
    limitsFrom_of_nil_atWordEnd hn htail, hsplit.2]
  rfl

theorem limitsFrom_insertBeforeTail {s n : List Char} (hs : limitsFrom [] s = []) (hn : Digits n) :
    limitsFrom [] (insertBeforeTail s (limitClause n)) = [("LIMIT".toList, some n)] := by
  rw [limitsFrom_insertBeforeTail_of_nil hs hn.limitsFrom,
    countBehind_digits hn (atWordEnd_splitTail s)]

/-- The row limits after the rule for `TOP`. -/
theorem limitsFrom_limitTop (whole s : List Char) :
    limitsFrom [] (limitTop whole s) =
      match topCount? whole with
      | none => limitsFrom [] s
      | some n => if limitsFrom [] s = [] then [("LIMIT".toList, some n)] else limitsFrom [] s := by
  unfold limitTop
  cases hn : topCount? whole with
  | none => exact limitsFrom_stripTop s
  | some n =>
    simp only [hasRowLimit_iff, limitsFrom_stripTop]
    by_cases h : limitsFrom [] s = []
    · rw [if_neg (by simp [h]), if_pos h]
      exact limitsFrom_insertBeforeTail ((limitsFrom_stripTop s).trans h) (digits_of_topCount? hn)
    · rw [if_pos h, if_neg h, limitsFrom_stripTop]

/-! ## Translation -/

/-- The query as the first four rules leave it: those for table hints, bracketed names, random calls
and fetch clauses. -/
def beforeTop (booleans : Option BooleanColumns) (query : String) : List Char :=
  (Pipeline.runRules query.toList ((Pipeline.standard booleans).rules.take 4) query.toList).1

/-- The rules from the one for `TOP` on leave the row limits that this one leaves. -/
theorem limitsFrom_translate (booleans : Option BooleanColumns) (query : String) :
    limitsFrom [] (Translator.translate ⟨.standard booleans⟩ query).toList =
      limitsFrom [] (limitTop query.toList (beforeTop booleans query)) := by
  have hrules : (Pipeline.standard booleans).rules = (Pipeline.standard booleans).rules.take 4 ++
      (.selectTop :: ([.dateCalls, .scalarCalls, .literalSums] ++
        (booleans.map Rule.booleanColumns).toList)) := rfl
  rw [Translator.translate_eq, Pipeline.toList_translate, hrules, Pipeline.runRules_append,
    Pipeline.runRules_cons_fst]
  refine Pipeline.runRules_induction (P := fun t => limitsFrom [] t =
    limitsFrom [] (limitTop query.toList (beforeTop booleans query))) ?_ rfl
  intro rule hrule t ht
  refine (limitsFrom_apply _ ?_ t).trans ht
  rcases List.mem_append.1 hrule with h | h
  · exact .inl h
  · obtain ⟨columns, -, rfl⟩ := Option.map_eq_some_iff.1 (Option.mem_toList.1 h)
    exact .inr ⟨columns, rfl⟩

/-- **Row limits are neither duplicated nor lost.** If the first four rules leave no row limit and
the query has a `TOP`, the translation has one row limit, which is `LIMIT` with the count of the
`TOP`; otherwise it has as many as the first four rules leave. -/
theorem rowLimits_translate (booleans : Option BooleanColumns) (query : String) :
    (∀ n, topCount? query.toList = some n → rowLimits (beforeTop booleans query) = 0 →
      rowLimits (Translator.translate ⟨.standard booleans⟩ query).toList = 1 ∧
      ∃ a b, (Translator.translate ⟨.standard booleans⟩ query).toList =
        a ++ "LIMIT ".toList ++ n ++ b ∧ atWordStart a.getLast? = true ∧ atWordEnd b = true) ∧
    (topCount? query.toList = none ∨ rowLimits (beforeTop booleans query) ≠ 0 →
      rowLimits (Translator.translate ⟨.standard booleans⟩ query).toList =
        rowLimits (beforeTop booleans query)) := by
  have hall := (limitsFrom_translate booleans query).trans (limitsFrom_limitTop _ _)
  simp only [rowLimits_eq_length, List.length_eq_zero_iff, ne_eq]
  constructor
  · intro n hn hnone
    rw [hn] at hall
    simp only [hnone, if_true] at hall
    refine ⟨by rw [hall]; rfl, ?_⟩
    have hmem : ("LIMIT".toList, some n) ∈ limitsFrom [] _ := hall ▸ List.mem_singleton_self _
    obtain ⟨a, b, hs, ha, hb⟩ := mem_limitsFrom hmem
    refine ⟨a, b, ?_, ha, hb⟩
    rw [← List.nil_append (String.toList _), hs]
    simp
  · intro h
    rw [hall]
    cases hn : topCount? query.toList with
    | none => rfl
    | some n =>
      have hsome := h.resolve_left (by simp [hn])
      simp only [hsome, if_false]

/-- A `TOP` in front of another one, and a `TOP` with a row limit behind it. -/
theorem rowLimits_translate_nested_top :
    (topCount? "SELECT TOP(5) a FROM (SELECT TOP 3 b FROM [t]) x; -- y".toList = some "5".toList ∧
      rowLimits (beforeTop none "SELECT TOP(5) a FROM (SELECT TOP 3 b FROM [t]) x; -- y") = 0 ∧
      rowLimits (Translator.translate ⟨.standard none⟩
        "SELECT TOP(5) a FROM (SELECT TOP 3 b FROM [t]) x; -- y").toList = 1) ∧
    (rowLimits (beforeTop none "SELECT TOP 5 a FROM t OFFSET 2 ROWS FETCH NEXT 3 ROWS ONLY") = 2 ∧
      rowLimits (Translator.translate ⟨.standard none⟩
        "SELECT TOP 5 a FROM t OFFSET 2 ROWS FETCH NEXT 3 ROWS ONLY").toList = 2) := by
  have hnone :
      rowLimits (beforeTop none "SELECT TOP(5) a FROM (SELECT TOP 3 b FROM [t]) x; -- y") = 0 := by
    decide
  have hsome : rowLimits
      (beforeTop none "SELECT TOP 5 a FROM t OFFSET 2 ROWS FETCH NEXT 3 ROWS ONLY") = 2 := by
    decide
  refine ⟨⟨by decide, hnone, ?_⟩, hsome, ?_⟩
  · exact ((rowLimits_translate none _).1 "5".toList (by decide) hnone).1
  · exact ((rowLimits_translate none _).2 (.inr (by rw [hsome]; decide))).trans hsome

end SqlDialect.Query
