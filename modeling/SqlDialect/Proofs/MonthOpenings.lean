import SqlDialect.Proofs.CallHeads
import SqlDialect.Proofs.Elimination
import SqlDialect.Proofs.TwoSweeps

/-!
# Months in one sweep

A call of `MONTH` is read up to the first closing parenthesis, so that a turn of the rule for dates
may swallow the calls within an argument and leave them to the next turn. What is written for a call
depends on its opening alone, though: all turns together do what one sweep for openings does.

* `monthOpening` — the opening of a call with an argument.
* `replaceFrom_monthOpening_close` — for its sweep a closing parenthesis cuts a text in two.
* `replaceFrom_monthOpening_turn` — one turn leaves to the sweep what it would write itself.
* `not_mentions_monthTurn` — a turn does not bring in the names of the other date functions.
* `Rule.dateCalls_one_sweep` — so the rule is one sweep for openings, if there are no other date
  functions.
-/

namespace SqlDialect.Query

open Scan Text

/-! ## Openings -/

/-- Behind an opening parenthesis: the first character is not a closing one, but one follows. -/
def hasArgument (s : List Char) : Bool := s.head? != some ')' && s.contains ')'

/-- Reads `MONTH(`, if the call has an argument. -/
def monthOpening : Scanner Unit := fun before s =>
  (openCall "month".toList before s).filter (hasArgument ·.2)

/-- What is written for an opening. -/
def monthHead : List Char := "EXTRACT(MONTH FROM ".toList

theorem openCall_eq_some_iff {name : String} {before : Option Char} {s rest : List Char} :
    openCall name.toList before s = some ((), rest) ↔ atWordStart before = true ∧
      ∃ word b, Spells name word ∧ Blanks b ∧ s = word ++ b ++ '(' :: rest := by
  constructor
  · intro h
    obtain ⟨text, -, rfl, hstart, @⟨word, b, hword, hb⟩⟩ := openCall_reads name _ _ _ _ h
    exact ⟨hstart, word, b, hword, hb, by simp⟩
  · rintro ⟨hstart, word, b, hword, hb, rfl⟩
    have hopen : symbol? '(' (skipBlanks (b ++ '(' :: rest)) = some rest := by
      rw [skipBlanks_append _ hb]
      exact symbol?_skipBlanks_cons (by decide) rest
    unfold openCall
    rw [List.append_assoc, keyword?_append hword]
    simp [hstart, hopen]

theorem monthOpening_eq_some_iff {before : Option Char} {s rest : List Char} :
    monthOpening before s = some ((), rest) ↔
      openCall "month".toList before s = some ((), rest) ∧ hasArgument rest = true :=
  Option.filter_eq_some_iff

theorem monthOpening_reads : Reads monthOpening fun before text _ rest =>
    atWordStart before = true ∧ OpenCallText "month" text ∧ hasArgument rest = true := by
  intro before s _ rest h
  obtain ⟨hread, harg⟩ := monthOpening_eq_some_iff.1 h
  obtain ⟨text, hne, hs, hstart, htext⟩ := openCall_reads "month" _ _ _ _ hread
  exact ⟨text, hne, hs, hstart, htext, harg⟩

/-- What stands before a place matters only if a word can start there. -/
theorem monthOpening_congr {before behind : Option Char}
    (h : atWordStart before = atWordStart behind) : monthOpening before = monthOpening behind := by
  have hcall : ReadsCall "month" (openCall "month".toList) := openCall_readsCall (by decide)
  unfold monthOpening
  rw [hcall.start before behind h]

/-- A call has an argument if it is closed with something before. -/
theorem isSome_enclosed1?_close (s : List Char) :
    (enclosed1? [')'] ')' s).isSome = hasArgument s := by
  rw [Bool.eq_iff_iff, Option.isSome_iff_exists, Prod.exists]
  simp only [enclosed1?_eq_some_iff (List.mem_singleton_self ')'), hasArgument, Bool.and_eq_true,
    bne_iff_ne, ne_eq, List.contains_iff_mem]
  constructor
  · rintro ⟨body, rest, hne, rfl, hbody⟩
    obtain ⟨c, body, rfl⟩ := List.exists_cons_of_ne_nil hne
    have hc := hbody c List.mem_cons_self
    exact ⟨by simpa using hc, by simp⟩
  · rintro ⟨hhead, hmem⟩
    obtain ⟨body, rest, rfl, hbody⟩ := List.eq_append_cons_of_mem hmem
    refine ⟨body, rest, ?_, rfl, fun c hc hclose => ?_⟩
    · rintro rfl
      exact hhead rfl
    · rw [List.mem_singleton.1 hclose] at hc
      exact hbody hc

/-- Calls are read where their openings are. -/
theorem isSome_monthCall (before : Option Char) (s : List Char) :
    (monthCall before s).isSome = (monthOpening before s).isSome := by
  have hcall : monthCall before s =
      (openCall "month".toList before s).bind fun r => enclosed1? [')'] ')' r.2 := by
    simp only [monthCall, openCall, Option.bind_eq_bind, Option.bind_assoc, Option.pure_def,
      Option.bind_some]
  rw [hcall]
  unfold monthOpening
  cases openCall "month".toList before s with
  | none => rfl
  | some r => rw [Option.bind_some, isSome_enclosed1?_close, Option.isSome_filter, Option.any_some]

theorem monthCall_eq_none_iff {before : Option Char} {s : List Char} :
    monthCall before s = none ↔ monthOpening before s = none := by
  rw [← Option.not_isSome_iff_eq_none, ← Option.not_isSome_iff_eq_none, isSome_monthCall]

theorem readable_monthOpening_iff {s : List Char} :
    Readable monthOpening s ↔ Readable monthCall s := by
  unfold Readable
  simp only [isSome_monthCall]

/-- Before a closing parenthesis an opening is read without a look behind it. -/
theorem monthOpening_close (before : Option Char) (s t : List Char) :
    monthOpening before (s ++ ')' :: t) =
      (monthOpening before (s ++ [')'])).map fun r => (r.1, r.2 ++ t) := by
  have hread : ∀ t, openCall "month".toList before (s ++ ')' :: t) =
      (openCall "month".toList before s).map fun r => (r.1, r.2 ++ ')' :: t) := fun t => by
    refine (openCall_ended (by decide) before).append_cons (fun text a rest hread => ?_) s t
    obtain ⟨-, -, @⟨word, b, hword, hb⟩⟩ := (openCall_reads "month").shape hread
    simp [hword.not_mem (c := ')') (by decide), hb.not_mem (c := ')') (by decide)]
  unfold monthOpening
  rw [hread, hread]
  cases openCall "month".toList before s with
  | none => rfl
  | some r =>
    have harg : hasArgument (r.2 ++ ')' :: t) = hasArgument (r.2 ++ [')']) := by
      cases r.2 <;> simp [hasArgument]
    rw [Option.map_some, Option.map_some, Option.filter_some, Option.filter_some, harg]
    cases hasArgument (r.2 ++ [')']) <;> simp

/-- A closing parenthesis cuts a text in two. -/
theorem replaceFrom_monthOpening_close (write : Unit → List Char) (before : Option Char)
    (s t : List Char) : replaceFrom monthOpening write before (s ++ ')' :: t) =
      replaceFrom monthOpening write before (s ++ [')']) ++
        replaceFrom monthOpening write (some ')') t := by
  have hcut : piecesFrom monthOpening 0 before (s ++ [')'] ++ t) =
      piecesFrom monthOpening 0 before (s ++ [')']) ++
        piecesFrom monthOpening 0 ((s ++ [')']).getLast?.or before) t := by
    refine piecesFrom_cut monthOpening_reads fun front back hs hne => ?_
    obtain ⟨z, c, rfl⟩ := (List.eq_nil_or_concat' back).resolve_left hne
    have hlast := congrArg List.getLast? hs
    rw [← List.append_assoc, List.getLast?_concat, List.getLast?_concat] at hlast
    obtain rfl := Option.some.inj hlast
    rw [List.append_assoc]
    exact monthOpening_close _ z t
  rw [List.getLast?_concat, Option.some_or, List.append_assoc] at hcut
  unfold replaceFrom
  rw [← List.flatMap_append, ← hcut]
  rfl

/-! ## One turn -/

theorem monthText_eq (arg : List Char) : monthText arg = monthHead ++ (arg ++ [')']) := by
  have hclose : ")".toList = [')'] := by decide
  unfold monthText monthHead
  rw [hclose, List.append_assoc]

theorem mem_monthText_iff {text arg : List Char} (h : MonthCallText text arg) :
    ')' ∈ monthText arg ↔ ')' ∈ text := by
  obtain ⟨-, -, -⟩ := h
  exact iff_of_true (by simp [monthText_eq]) (by simp)

/-- A turn leaves arguments where there were some. -/
theorem hasArgument_monthTurn (before : Option Char) (s : List Char) :
    hasArgument (replaceFrom monthCall monthText before s) = hasArgument s := by
  have hmem : ')' ∈ replaceFrom monthCall monthText before s ↔ ')' ∈ s :=
    mem_replaceFrom_iff monthCall_reads (fun _ _ _ _ h => mem_monthText_iff h.2) before s
  have hhead : (replaceFrom monthCall monthText before s).head? = some ')' ↔
      s.head? = some ')' := by
    cases s with
    | nil => exact Iff.rfl
    | cons c s =>
      cases hread : monthCall before (c :: s) with
      | none => rw [replaceFrom_of_miss hread, List.head?_cons, List.head?_cons]
      | some r =>
        obtain ⟨text, hne, heq, -, @⟨month, b, arg, hmonth, -, -⟩⟩ := monthCall_reads _ _ _ _ hread
        obtain ⟨d, month, rfl⟩ := List.exists_cons_of_ne_nil (hmonth.ne_nil (by decide))
        have hd : ')' ≠ d := List.ne_of_not_mem_cons (hmonth.not_mem (by decide))
        rw [heq] at hread ⊢
        rw [replaceFrom_of_hit hne hread, monthText_eq]
        exact iff_of_false (fun h => absurd (Option.some.inj h) (by decide))
          (by simpa using hd.symm)
  unfold hasArgument
  rw [Bool.eq_iff_iff]
  simp only [Bool.and_eq_true, bne_iff_ne, ne_eq, hhead, List.contains_iff_mem, hmem]

/-- What is written for an opening is left alone by the sweep. -/
theorem monthOpening_monthHead {x y : List Char} {c : Char} (h : monthHead = x ++ c :: y)
    (before : Option Char) (t : List Char) :
    monthOpening (x.getLast?.or before) (c :: y ++ t) = none := by
  have hplaces : ∀ i < monthHead.length, (monthHead.drop i).head?.map fold ≠ some 'm' ∨
      (monthHead.take i).getLast? = some 'O' ∨ monthHead.drop i = "MONTH FROM ".toList := by decide
  have hplace := hplaces x.length (by simp [h])
  rw [h, List.drop_left, List.take_left] at hplace
  have hnone : openCall "month".toList (x.getLast?.or before) (c :: y ++ t) = none := by
    rcases hplace with hletter | hlast | hmonth
    · have hfirst : ("month".toList.map fold).head? = some 'm' := by decide
      exact (openCall_readsCall (by decide)).eq_none hfirst (by simpa using hletter) _ _
    · refine Option.eq_none_iff_forall_ne_some.2 fun r hread => ?_
      have hstart := (openCall_eq_some_iff.1 hread).1
      rw [hlast, Option.some_or] at hstart
      exact absurd hstart (by decide)
    · have hkey : keyword? "month".toList ("MONTH FROM ".toList ++ t) =
          some (" FROM ".toList ++ t) := rfl
      have hsymbol : symbol? '(' (skipBlanks (" FROM ".toList ++ t)) = none := rfl
      unfold openCall
      simp only [hmonth, hkey, hsymbol, Option.bind_eq_bind, Option.bind_some, Option.bind_none,
        Option.bind_fun_none]
  unfold monthOpening
  rw [hnone]
  rfl

theorem replaceFrom_monthHead (before : Option Char) (t : List Char) :
    replaceFrom monthOpening (fun _ => monthHead) before (monthHead ++ t) =
      monthHead ++ replaceFrom monthOpening (fun _ => monthHead) (some ' ') t :=
  replaceFrom_append fun _ _ _ h => monthOpening_monthHead h before t

/-- Where no call is read, no opening is read after a turn either. -/
theorem monthOpening_monthTurn {before behind : Option Char} {s : List Char}
    (h : monthCall before s = none) (hstart : atWordStart behind = atWordStart before) :
    monthOpening behind (replaceFrom monthCall monthText before s) = none := by
  cases hread : monthOpening behind (replaceFrom monthCall monthText before s) with
  | none => rfl
  | some r =>
    obtain ⟨hopen, harg⟩ := monthOpening_eq_some_iff.1 hread
    obtain ⟨hword, month, b, hmonth, hb, hcut⟩ := openCall_eq_some_iff.1 hopen
    -- the head has none of the letters that a turn starts with
    have hnot : 'E' ∉ month ++ b ++ ['('] := by
      simp [hmonth.not_mem (c := 'E') (by decide), hb.not_mem (c := 'E') (by decide)]
    obtain ⟨rest, rfl, hrest⟩ := exists_of_replaceFrom_eq_append monthCall_reads
      (fun _ _ _ _ _ => rfl) hnot (hcut.trans (by simp : _ = month ++ b ++ ['('] ++ r.2))
    have hopening : monthOpening before (month ++ b ++ ['('] ++ rest) = some ((), rest) := by
      refine monthOpening_eq_some_iff.2 ⟨openCall_eq_some_iff.2 ⟨hstart ▸ hword, month, b, hmonth,
        hb, by simp⟩, ?_⟩
      rwa [hrest, hasArgument_monthTurn] at harg
    rw [monthCall_eq_none_iff.1 h] at hopening
    cases hopening

/-- **A turn leaves to the sweep what it would write itself.** -/
theorem replaceFrom_monthOpening_turn (before : Option Char) (s : List Char) :
    ∀ behind, atWordStart behind = atWordStart before →
      replaceFrom monthOpening (fun _ => monthHead) behind
        (replaceFrom monthCall monthText before s) =
      replaceFrom monthOpening (fun _ => monthHead) before s := by
  refine piecesFrom_induction monthCall_reads.scanned (motive := fun before s _ =>
    ∀ behind, atWordStart behind = atWordStart before →
      replaceFrom monthOpening (fun _ => monthHead) behind
        (replaceFrom monthCall monthText before s) =
      replaceFrom monthOpening (fun _ => monthHead) before s) ?_ ?_ ?_ before s
  · intro before behind _
    rfl
  · intro before c s _ hmiss ih behind hstart
    have hnone := monthOpening_monthTurn hmiss hstart
    rw [replaceFrom_of_miss hmiss] at hnone ⊢
    rw [replaceFrom_of_miss hnone, replaceFrom_of_miss (monthCall_eq_none_iff.1 hmiss),
      ih (some c) rfl]
  · intro before text arg rest _ hne hread ih behind hstart
    obtain ⟨-, hword, @⟨month, b, arg, hmonth, hb, -⟩⟩ := monthCall_reads.shape hread
    have hcut : month ++ b ++ ['('] ++ arg ++ [')'] ++ rest =
        month ++ b ++ ['('] ++ (arg ++ ')' :: rest) := by simp
    -- the opening is read for itself, the argument and the rest behind it
    have hopening : monthOpening before (month ++ b ++ ['('] ++ (arg ++ ')' :: rest)) =
        some ((), arg ++ ')' :: rest) := by
      have hopen : openCall "month".toList before (month ++ b ++ ['('] ++ (arg ++ ')' :: rest)) =
          some ((), arg ++ ')' :: rest) :=
        openCall_eq_some_iff.2 ⟨hword, month, b, hmonth, hb, by simp⟩
      refine monthOpening_eq_some_iff.2 ⟨hopen, ?_⟩
      have hsome := isSome_monthCall before (month ++ b ++ ['('] ++ (arg ++ ')' :: rest))
      unfold monthOpening at hsome
      rwa [← hcut, hread, hcut, hopen, Option.isSome_filter, Option.any_some, eq_comm] at hsome
    have hrest := ih (some ')') (by rw [List.getLast?_concat])
    rw [List.getLast?_concat] at hrest
    have hspace : ∀ t, monthOpening (some ' ') t = monthOpening (some '(') t := fun t =>
      congrFun (monthOpening_congr (by decide)) t
    rw [replaceFrom_of_hit hne hread, List.getLast?_concat, monthText_eq, hcut,
      replaceFrom_of_hit (by simp) hopening, List.getLast?_concat, List.append_assoc,
      replaceFrom_monthHead, List.append_assoc, List.singleton_append,
      replaceFrom_monthOpening_close, hrest, replaceFrom_monthOpening_close _ (some '('),
      replaceFrom_congr hspace]

/-! ## Names of the other functions -/

/-- A turn brings in no name that is neither in `EXTRACT` nor in `MONTH FROM`. -/
theorem not_mentions_monthTurn {name : String} (hname : IsCallName name)
    (hhead : ¬Mentions name "EXTRACT".toList ∧ ¬Mentions name "MONTH FROM".toList) {s : List Char}
    (hs : ¬Mentions name s) : ¬Mentions name (replaceAll monthCall monthText s) := by
  refine replaceAll_keeps monthCall_reads (P := fun s => ¬Mentions name s) ?_ ?_ hs
  · rintro _ text arg _ ⟨-, htext⟩
    obtain ⟨-, -, -⟩ := htext
    rw [monthText_eq, ← List.append_assoc, List.getLast?_concat, List.getLast?_concat]
  · rintro _ text arg _ ⟨hstart, @⟨month, b, arg, -, -, -⟩⟩ front back rfl hnot hmentions
    have hcut : front ++ (monthText arg ++ back) = front ++ "EXTRACT".toList ++ '(' ::
        ("MONTH FROM".toList ++ ' ' :: (arg ++ ')' :: back)) := by
      have hopen : monthHead = "EXTRACT".toList ++ '(' :: ("MONTH FROM".toList ++ [' ']) := by
        decide
      rw [monthText_eq, hopen]
      simp only [List.append_assoc, List.cons_append, List.nil_append]
    rw [hcut] at hmentions
    rcases hmentions.of_append_cons (hname.fold_not_mem (by decide)) with hfront | hback
    · rcases List.eq_nil_or_concat' front with rfl | ⟨x, d, rfl⟩
      · exact hhead.1 hfront
      · -- no word goes on from what stands before the call
        have hd : isWord d = false := by
          rwa [List.getLast?_concat, atWordStart, Bool.not_eq_true'] at hstart
        rw [List.append_assoc, List.singleton_append] at hfront
        rcases hfront.of_append_cons (hname.fold_not_mem hd) with hx | hextract
        · exact hnot (hx.mono ⟨[], _, by rw [List.nil_append, List.append_assoc]⟩)
        · exact hhead.1 hextract
    · rcases hback.of_append_cons (hname.fold_not_mem (by decide)) with hfield | hrest
      · exact hhead.2 hfield
      · exact hnot (hrest.mono ⟨front ++ month ++ b ++ ['('], [], by simp⟩)

/-- Without the other date functions a turn is a sweep for months. -/
theorem datePass_of_not_mentions {s : List Char} (hname : ¬Mentions "datename" s)
    (hconvert : ¬Mentions "convert" s) : datePass s = replaceAll monthCall monthText s := by
  have hturn : ¬Mentions "convert" (replaceAll monthCall monthText s) :=
    not_mentions_monthTurn (by decide) (by decide) hconvert
  unfold datePass
  rw [monthNameCall_headedBy.replaceAll_eq_self _ fun h => hname h.mentions,
    dateTextCall_headedBy.replaceAll_eq_self _ fun h => hturn h.mentions]

end SqlDialect.Query

namespace SqlDialect

open Query Scan

/-- **Months are written in one sweep.** In a text that mentions neither `DATENAME` nor `CONVERT`,
all turns of the rule for dates write each `MONTH(` with an argument as `EXTRACT(MONTH FROM` and
leave everything else as it is. None is left, however deep the calls are nested. -/
theorem Rule.dateCalls_one_sweep (whole : List Char) {s : List Char}
    (hname : ¬Mentions "datename" s) (hconvert : ¬Mentions "convert" s) :
    Rule.dateCalls.apply whole s = replaceAll monthOpening (fun _ => monthHead) s ∧
      ¬Readable monthOpening (Rule.dateCalls.apply whole s) := by
  -- what the sweep gives is the same before and after each turn
  have hturns : ¬Mentions "datename" (renameDateCalls s) ∧ ¬Mentions "convert" (renameDateCalls s) ∧
      replaceAll monthOpening (fun _ => monthHead) (renameDateCalls s) =
        replaceAll monthOpening (fun _ => monthHead) s := by
    refine settle_induction (f := datePass) (P := fun t => ¬Mentions "datename" t ∧
      ¬Mentions "convert" t ∧ replaceAll monthOpening (fun _ => monthHead) t =
        replaceAll monthOpening (fun _ => monthHead) s) ?_ _ ⟨hname, hconvert, rfl⟩
    rintro t ⟨hname, hconvert, hsweep⟩
    rw [datePass_of_not_mentions hname hconvert]
    exact ⟨not_mentions_monthTurn (by decide) (by decide) hname,
      not_mentions_monthTurn (by decide) (by decide) hconvert,
      (replaceFrom_monthOpening_turn none t none rfl).trans hsweep⟩
  have hnone : ¬Readable monthOpening (renameDateCalls s) := by
    have hrest := (sheds_datePass.eq_self_iff _).1 (datePass_renameDateCalls s)
    exact fun h => hrest (.inl (.inr (readable_monthOpening_iff.1 h)))
  have hself : replaceAll monthOpening (fun _ => monthHead) (renameDateCalls s) =
      renameDateCalls s := by
    refine replaceAll_of_not_occurs _ ?_
    rwa [← Bool.not_eq_true, occurs_iff_readable monthOpening_reads]
  exact ⟨hself.symm.trans hturns.2.2, hnone⟩

/-- Calls within calls, calls without an argument, a longer name, and a call that is not closed. -/
theorem Rule.dateCalls_one_sweep_nested :
    let s := "MONTH(LEN(month (a)) + MONTH()) + xMONTH(b) + Month(".toList
    ¬Mentions "datename" s ∧ ¬Mentions "convert" s ∧
      replaceAll monthOpening (fun _ => monthHead) s =
        "EXTRACT(MONTH FROM LEN(EXTRACT(MONTH FROM a)) + MONTH()) + xMONTH(b) + Month(".toList ∧
      Rule.dateCalls.apply [] s = replaceAll monthOpening (fun _ => monthHead) s := by
  intro s
  have hname : ¬Mentions "datename" s := by decide
  have hconvert : ¬Mentions "convert" s := by decide
  exact ⟨hname, hconvert, by decide +kernel, (Rule.dateCalls_one_sweep [] hname hconvert).1⟩

end SqlDialect
