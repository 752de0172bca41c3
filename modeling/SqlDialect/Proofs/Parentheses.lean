import SqlDialect.Pipeline
import SqlDialect.Proofs.Characters
import SqlDialect.Proofs.Constructs
import SqlDialect.Proofs.LimitWords

/-!
# Parentheses

* `depthAfter` — the nesting depth after a text, read from left to right; there is none once a
  parenthesis closes that was never opened.
* `Balanced` — a text that leads from depth 0 to depth 0.
* `SameDepth` — two texts that lead from every depth to the same depth. Texts of this kind can stand
  for each other in any context (`SameDepth.append`).
* `sameDepth_apply` — every rule but the one for table hints writes a construct as a text of the same
  depth. What a rule removes is at most a pair of parentheses with nothing of that kind between them.
* `balanced_translate_iff` — hence no pipeline of these rules makes a balanced text unbalanced, or an
  unbalanced one balanced.
-/

namespace SqlDialect.Query

open Scan

/-! ## Depth -/

/-- The depth after one more character. -/
def depthStep (depth : Nat) (c : Char) : Option Nat :=
  if c = '(' then some (depth + 1)
  else if c = ')' then
    match depth with
    | 0 => none
    | d + 1 => some d
  else some depth

/-- The depth after a text that starts at the given depth. -/
def depthAfter (depth : Nat) (s : List Char) : Option Nat := s.foldlM depthStep depth

/-- Every parenthesis that closes was opened before, and all are closed at the end. -/
def Balanced (s : List Char) : Prop := depthAfter 0 s = some 0

instance (s : List Char) : Decidable (Balanced s) := inferInstanceAs (Decidable (_ = _))

theorem depthAfter_append (d : Nat) (s t : List Char) :
    depthAfter d (s ++ t) = (depthAfter d s).bind fun e => depthAfter e t := by
  unfold depthAfter
  rw [List.foldlM_append]
  rfl

/-- Nothing in the text opens or closes. -/
def Flat (s : List Char) : Prop := '(' ∉ s ∧ ')' ∉ s

instance (s : List Char) : Decidable (Flat s) := inferInstanceAs (Decidable (_ ∧ _))

theorem Flat.append {s t : List Char} (hs : Flat s) (ht : Flat t) : Flat (s ++ t) :=
  ⟨by simp [hs.1, ht.1], by simp [hs.2, ht.2]⟩

theorem flat_of_words {s : List Char}
    (h : ∀ c ∈ s, Text.isWord c = true ∨ Text.isBlank c = true) : Flat s :=
  ⟨fun hm => absurd (h _ hm) (by decide), fun hm => absurd (h _ hm) (by decide)⟩

theorem depthAfter_flat {s : List Char} (h : Flat s) (d : Nat) : depthAfter d s = some d := by
  induction s with
  | nil => rfl
  | cons c s ih =>
    obtain ⟨ho, hc⟩ := h
    have hstep : depthStep d c = some d := by
      unfold depthStep
      rw [if_neg fun e => ho (by simp [e]), if_neg fun e => hc (by simp [e])]
    unfold depthAfter at ih ⊢
    rw [List.foldlM_cons, hstep]
    exact ih ⟨fun hm => ho (by simp [hm]), fun hm => hc (by simp [hm])⟩

theorem depthAfter_flat_append {s : List Char} (h : Flat s) (d : Nat) (t : List Char) :
    depthAfter d (s ++ t) = depthAfter d t := by
  rw [depthAfter_append, depthAfter_flat h]
  rfl

theorem Blanks.flat {b : List Char} (h : Blanks b) : Flat b :=
  ⟨fun hm => (Text.fold_of_isBlank (h _ hm)).2 (by simp),
   fun hm => (Text.fold_of_isBlank (h _ hm)).2 (by simp)⟩

theorem Digits.flat {n : List Char} (h : Digits n) : Flat n :=
  ⟨fun hm => absurd (h.2 _ hm) (by decide), fun hm => absurd (h.2 _ hm) (by decide)⟩

theorem Spells.flat {word : String} {t : List Char} (h : Spells word t)
    (hw : Flat (word.toList.map Text.fold)) : Flat t := by
  unfold Spells at h
  rw [← h] at hw
  exact ⟨fun hm => hw.1 (List.mem_map_of_mem hm), fun hm => hw.2 (List.mem_map_of_mem hm)⟩

/-! ## Texts of the same depth -/

/-- The two texts lead from every depth to the same one. -/
def SameDepth (s t : List Char) : Prop := ∀ d, depthAfter d s = depthAfter d t

theorem SameDepth.refl (s : List Char) : SameDepth s s := fun _ => rfl

theorem SameDepth.trans {s t u : List Char} (h₁ : SameDepth s t) (h₂ : SameDepth t u) :
    SameDepth s u := fun d => (h₁ d).trans (h₂ d)

theorem SameDepth.of_flat {s t : List Char} (hs : Flat s) (ht : Flat t) : SameDepth s t := fun d => by
  rw [depthAfter_flat hs, depthAfter_flat ht]

theorem SameDepth.append {s t s' t' : List Char} (h : SameDepth s t) (h' : SameDepth s' t') :
    SameDepth (s ++ s') (t ++ t') := by
  intro d
  rw [depthAfter_append, depthAfter_append, h d]
  exact congrArg _ (funext h')

theorem SameDepth.balanced_iff {s t : List Char} (h : SameDepth s t) : Balanced s ↔ Balanced t := by
  unfold Balanced
  rw [h 0]

/-- If every construct is written as a text of the same depth, so is the whole text. -/
theorem sameDepth_replaceAll {α : Type} {scan : Scanner α} {write : α → List Char}
    {Shape : Option Char → List Char → α → List Char → Prop} (hscan : Reads scan Shape)
    (h : ∀ before text a rest, Shape before text a rest → SameDepth (write a) text) (s : List Char) :
    SameDepth (replaceAll scan write s) s := by
  unfold replaceAll pieces
  refine piecesFrom_induction hscan
    (motive := fun _ s ps => SameDepth (ps.flatMap (Piece.render write)) s) ?_ ?_ ?_ none s
  · intro _
    exact .refl []
  · intro _ c s ps _ ih
    exact (SameDepth.refl [c]).append ih
  · intro before text a rest ps _ hshape ih
    exact (h before text a rest hshape).append ih

/-! ## Constructs -/

@[simp]
theorem depthAfter_nil (d : Nat) : depthAfter d [] = some d := rfl

@[simp]
theorem depthAfter_open (d : Nat) (s : List Char) :
    depthAfter d ('(' :: s) = depthAfter (d + 1) s := rfl

@[simp]
theorem depthAfter_close (d : Nat) (s : List Char) :
    depthAfter (d + 1) (')' :: s) = depthAfter d s := rfl

@[simp]
theorem depthAfter_cons_of_ne {c : Char} (ho : c ≠ '(') (hc : c ≠ ')') (d : Nat) (s : List Char) :
    depthAfter d (c :: s) = depthAfter d s :=
  depthAfter_flat_append (s := [c]) ⟨by simp [ho.symm], by simp [hc.symm]⟩ d s

theorem BracketedNameText.sameDepth {text name : List Char} (h : BracketedNameText text name) :
    SameDepth ('"' :: name ++ ['"']) text := by
  obtain ⟨-⟩ := h
  have hopen : SameDepth ['"'] ['['] := fun _ => rfl
  have hclose : SameDepth ['"'] [']'] := fun _ => rfl
  exact (hopen.append (.refl name)).append hclose

theorem NewidCallText.sameDepth {text : List Char} (h : NewidCallText text) :
    SameDepth "RANDOM()".toList text := by
  obtain ⟨hword, hb₁, hb₂⟩ := h
  intro d
  simp only [List.append_assoc, List.cons_append, List.nil_append,
    depthAfter_flat_append (hword.flat (by decide)), depthAfter_flat_append hb₁.flat,
    depthAfter_flat_append hb₂.flat, depthAfter_open, depthAfter_close]
  rfl

theorem FetchClauseText.sameDepth {text : List Char} {f : FetchClause} (h : FetchClauseText text f) :
    SameDepth f.asLimit text := by
  obtain ⟨hm, hn⟩ := h.digits
  refine .of_flat ?_ (flat_of_words h.isWord_or_isBlank)
  unfold FetchClause.asLimit
  exact (((show Flat " OFFSET ".toList by decide).append hm.flat).append (by decide)).append hn.flat

theorem TopRowsText.sameDepth {text n : List Char} (h : TopRowsText text n) : SameDepth [] text := by
  intro d
  cases h with
  | enclosed hb₁ hn hb₂ hb₃ =>
    simp only [List.append_assoc, List.cons_append, List.nil_append, depthAfter_open,
      depthAfter_flat_append hb₁.flat, depthAfter_flat_append hn.flat, depthAfter_flat_append hb₂.flat,
      depthAfter_close, depthAfter_flat hb₃.flat, depthAfter_nil]
  | bare hn _ hb =>
    rw [depthAfter_flat (hn.flat.append hb.flat)]
    rfl

theorem DistinctText.flat {text : List Char} (h : DistinctText text) : Flat text := by
  rcases h with rfl | ⟨word, b, hword, -, hb, rfl⟩
  · decide
  · exact (hword.flat (by decide)).append hb.flat

theorem SelectTopText.sameDepth {text : List Char} {t : SelectTop} (h : SelectTopText text t) :
    SameDepth t.bare text := by
  obtain ⟨hselect, -, hb₁, hdistinct, htop, hb₂, hrows⟩ := h
  intro d
  unfold SelectTop.bare
  rw [depthAfter_flat ((show Flat "SELECT ".toList by decide).append hdistinct.flat)]
  simp only [List.append_assoc, depthAfter_flat_append (hselect.flat (by decide)),
    depthAfter_flat_append hb₁.flat, depthAfter_flat_append hdistinct.flat,
    depthAfter_flat_append (htop.flat (by decide)), depthAfter_flat_append hb₂.flat,
    ← hrows.sameDepth d, depthAfter_nil]

/-- The argument of a call is kept; what stands before and behind it has the same depth. -/
theorem sameDepth_argument {head head' foot foot' : List Char} (arg : List Char)
    (hhead : SameDepth head head') (hfoot : SameDepth foot foot') :
    SameDepth (head ++ arg ++ foot) (head' ++ arg ++ foot') :=
  (hhead.append (.refl arg)).append hfoot

theorem MonthNameCallText.sameDepth {text arg : List Char} (h : MonthNameCallText text arg) :
    SameDepth (monthNameText arg) text := by
  obtain @⟨name, b₁, b₂, month, b₃, b₄, arg, b₅, hname, hb₁, hb₂, hmonth, hb₃, hb₄, hb₅, -⟩ := h
  have hhead : SameDepth "TO_CHAR(".toList
      (name ++ b₁ ++ ['('] ++ b₂ ++ month ++ b₃ ++ [','] ++ b₄) := fun d => by
    simp [depthAfter_flat_append (hname.flat (by decide)), depthAfter_flat_append hb₁.flat,
      depthAfter_flat_append hb₂.flat, depthAfter_flat_append (hmonth.flat (by decide)),
      depthAfter_flat_append hb₃.flat, depthAfter_flat hb₄.flat]
  have hfoot : SameDepth ", 'Month')".toList (b₅ ++ [')']) := fun d => by
    simp [depthAfter_flat_append hb₅.flat]
  have hwhole := sameDepth_argument arg hhead hfoot
  rwa [← List.append_assoc] at hwhole

theorem MonthCallText.sameDepth {text arg : List Char} (h : MonthCallText text arg) :
    SameDepth (monthText arg) text := by
  obtain @⟨month, b, arg, hmonth, hb, -⟩ := h
  have hhead : SameDepth "EXTRACT(MONTH FROM ".toList (month ++ b ++ ['(']) := fun d => by
    simp [depthAfter_flat_append (hmonth.flat (by decide)), depthAfter_flat_append hb.flat]
  have hfoot : SameDepth ")".toList [')'] := fun d => by simp
  exact sameDepth_argument arg hhead hfoot

/-- The parentheses of `VARCHAR(10)` go, and nothing opens or closes between them. -/
theorem DateTextCallText.sameDepth {text arg : List Char} (h : DateTextCallText text arg) :
    SameDepth (dateText arg) text := by
  obtain @⟨name, b₁, b₂, type, b₃, b₄, b₅, b₆, b₇, arg, b₈, hname, hblanks, htype, -⟩ := h
  simp only [List.forall_mem_cons] at hblanks
  obtain ⟨hb₁, hb₂, hb₃, hb₄, hb₅, hb₆, hb₇, hb₈, -⟩ := hblanks
  have hhead : SameDepth "TO_CHAR(".toList (name ++ b₁ ++ ['('] ++ b₂ ++ type ++ b₃ ++ ['('] ++ b₄ ++
      ['1', '0'] ++ b₅ ++ [')'] ++ b₆ ++ [','] ++ b₇) := fun d => by
    simp [depthAfter_flat_append (hname.flat (by decide)), depthAfter_flat_append hb₁.flat,
      depthAfter_flat_append hb₂.flat, depthAfter_flat_append (htype.flat (by decide)),
      depthAfter_flat_append hb₃.flat, depthAfter_flat_append hb₄.flat,
      depthAfter_flat_append hb₅.flat, depthAfter_flat_append hb₆.flat, depthAfter_flat hb₇.flat]
  have hfoot : SameDepth ", 'YYYY-MM-DD')".toList (b₈ ++ [')']) := fun d => by
    simp [depthAfter_flat_append hb₈.flat]
  have hwhole := sameDepth_argument arg hhead hfoot
  rwa [← List.append_assoc] at hwhole

theorem OpenCallText.sameDepth {name : String} {text : List Char} (h : OpenCallText name text)
    (new : String) (hname : Flat (name.toList.map Text.fold)) (hnew : Flat new.toList) :
    SameDepth (new.toList ++ ['(']) text := by
  obtain ⟨hword, hb⟩ := h
  exact (SameDepth.of_flat hnew ((hword.flat hname).append hb.flat)).append (.refl ['('])

theorem LiteralSumText.sameDepth {text : List Char} {sum : List Char × List Char}
    (h : LiteralSumText text sum) : SameDepth (concatText sum) text := by
  obtain ⟨-, hb₁, hb₂, -⟩ := h
  intro d
  have hbars : Flat " || ".toList := by decide
  have hplus : Flat ['+'] := by decide
  simp only [concatText, List.append_assoc, depthAfter_append _ (_ : List Char),
    depthAfter_flat hbars, depthAfter_flat hb₁.flat, depthAfter_flat hplus, depthAfter_flat hb₂.flat,
    Option.bind_some]

theorem FlagComparisonText.sameDepth {digit : Char} {text rest : List Char} {f : FlagComparison}
    {value : String} (h : FlagComparisonText digit text f rest) (hdigit : Flat [digit])
    (hvalue : Flat value.toList) : SameDepth (f.comparedTo value.toList) text := by
  obtain @⟨name, b₁, b₂, stop, _, hb₁, hb₂, -⟩ := h
  unfold FlagComparison.comparedTo
  have hmid : SameDepth (" = ".toList ++ value.toList) _ :=
    .of_flat ((show Flat " = ".toList by decide).append hvalue)
      (((hb₁.flat.append (show Flat ['='] by decide)).append hb₂.flat).append hdigit)
  have hcolumn := SameDepth.refl (['"'] ++ name ++ ['"'])
  simpa only [List.append_assoc] using (hcolumn.append hmid).append (.refl stop)

/-! ## Rules -/

theorem sameDepth_stripTop (s : List Char) : SameDepth (stripTop s) s :=
  sameDepth_replaceAll selectTop_reads (fun _ _ _ _ h => h.2.sameDepth) s

theorem sameDepth_datePass (s : List Char) : SameDepth (datePass s) s :=
  ((sameDepth_replaceAll dateTextCall_reads (fun _ _ _ _ h => h.2.sameDepth) _).trans
    (sameDepth_replaceAll monthCall_reads (fun _ _ _ _ h => h.2.sameDepth) _)).trans
    (sameDepth_replaceAll monthNameCall_reads (fun _ _ _ _ h => h.2.sameDepth) s)

theorem sameDepth_concatPass (s : List Char) : SameDepth (concatPass s) s :=
  sameDepth_replaceAll literalSum_reads (fun _ _ _ _ h => h.sameDepth) s

/-- Turns that each keep the depth keep it together. -/
theorem sameDepth_settle {f : List Char → List Char} (h : ∀ s, SameDepth (f s) s) (n : Nat)
    (s : List Char) : SameDepth (settle f n s) s :=
  settle_induction (P := fun t => SameDepth t s) (fun t ht => (h t).trans ht) n (.refl s)

theorem sameDepth_insertBeforeTail {clause : List Char} (h : Flat clause) (s : List Char) :
    SameDepth (insertBeforeTail s clause) s := by
  intro d
  unfold insertBeforeTail
  conv => rhs; rw [← splitTail_append s]
  rw [List.append_assoc, depthAfter_append, depthAfter_append]
  exact congrArg _ (funext fun e => depthAfter_flat_append h e _)

theorem sameDepth_limitTop (whole s : List Char) : SameDepth (limitTop whole s) s := by
  unfold limitTop
  split
  · exact sameDepth_stripTop s
  · rename_i n hn
    have hclause : Flat (limitClause n) :=
      (show Flat " LIMIT ".toList by decide).append (digits_of_topCount? hn).flat
    split
    · exact sameDepth_stripTop s
    · exact (sameDepth_insertBeforeTail hclause _).trans (sameDepth_stripTop s)

theorem sameDepth_renameScalarCalls (s : List Char) : SameDepth (renameScalarCalls s) s := by
  have hlen : ∀ s, SameDepth (replaceAll lenCall (fun _ => "LENGTH(".toList) s) s :=
    sameDepth_replaceAll (openCall_reads "len") fun _ _ _ _ h =>
      h.2.sameDepth "LENGTH" (by decide) (by decide)
  have hisnull : ∀ s, SameDepth (replaceAll isnullCall (fun _ => "COALESCE(".toList) s) s :=
    sameDepth_replaceAll (openCall_reads "isnull") fun _ _ _ _ h =>
      h.2.sameDepth "COALESCE" (by decide) (by decide)
  exact (hisnull _).trans (hlen s)

theorem sameDepth_spellBooleans (columns : BooleanColumns) (s : List Char) :
    SameDepth (spellBooleans columns s) s :=
  (sameDepth_replaceAll (flagComparison_reads columns '0')
    (fun _ _ _ _ h => h.sameDepth (by decide) (by decide)) _).trans
    (sameDepth_replaceAll (flagComparison_reads columns '1')
      (fun _ _ _ _ h => h.sameDepth (by decide) (by decide)) s)

/-- Every rule but the one for table hints keeps the depth. -/
theorem sameDepth_apply (whole : List Char) {rule : Rule} (h : rule ≠ .tableHints) (s : List Char) :
    SameDepth (rule.apply whole s) s := by
  cases rule with
  | tableHints => exact absurd rfl h
  | bracketedNames => exact sameDepth_replaceAll bracketedName_reads (fun _ _ _ _ h => h.sameDepth) s
  | randomCalls => exact sameDepth_replaceAll newidCall_reads (fun _ _ _ _ h => h.2.sameDepth) s
  | fetchClauses => exact sameDepth_replaceAll fetchClause_reads (fun _ _ _ _ h => h.sameDepth) s
  | selectTop => exact sameDepth_limitTop whole s
  | dateCalls => exact sameDepth_settle sameDepth_datePass _ s
  | scalarCalls => exact sameDepth_renameScalarCalls s
  | literalSums => exact sameDepth_settle sameDepth_concatPass _ s
  | booleanColumns columns => exact sameDepth_spellBooleans columns s

/-- **Balance is an invariant of rewriting.** A pipeline without the rule for table hints leaves a
balanced text exactly when it is given one. -/
theorem balanced_translate_iff (p : Pipeline) (h : Rule.tableHints ∉ p.rules) (sql : String) :
    Balanced (p.translate sql).toList ↔ Balanced sql.toList := by
  rw [p.toList_translate]
  have hrun : SameDepth (Pipeline.runRules sql.toList p.rules sql.toList).1 sql.toList := by
    refine Pipeline.runRules_induction (P := fun t => SameDepth t sql.toList) ?_ (.refl _)
    intro rule hrule t ht
    have hne : rule ≠ .tableHints := fun e => h (e ▸ hrule)
    exact (sameDepth_apply sql.toList hne t).trans ht
  exact hrun.balanced_iff

/-- The rules for dates and for `TOP`, which each remove a pair of parentheses. -/
theorem balanced_translate_convert_top :
    Rule.tableHints ∉ [Rule.dateCalls, .selectTop, .dateCalls, .booleanColumns .standard] ∧
      Balanced "SELECT TOP (5) CONVERT(VARCHAR(10), MONTH(f(d))) FROM t".toList ∧
      Balanced (Pipeline.translate ⟨[.dateCalls, .selectTop, .dateCalls, .booleanColumns .standard]⟩
        "SELECT TOP (5) CONVERT(VARCHAR(10), MONTH(f(d))) FROM t").toList :=
  ⟨by simp, by decide, (balanced_translate_iff _ (by simp) _).2 (by decide)⟩

end SqlDialect.Query
