import SqlDialect.Proofs.DateArguments

/-!
# The heads of date calls

A date call can hold another one in its argument, and two of the three calls are written anew with
the word `MONTH` in them. What goes down from turn to turn is the number of heads: a name and its
opening parenthesis.

* `DateName` — what stands before the parenthesis of a head; `callHead_eq_some_iff` says where a
  head is read.
* `Spans` — a head reaches across a cut of a text. Where none does, and no word is cut in two, heads
  are counted on each side (`callHeads_append`).
* `AddsHeads` — how many heads a text has beside those of its argument: one for each call that is
  read, and none for what is written in its place.
* `callHeads_datePass_add` — so a turn takes away as many heads as it writes calls anew.
* `Rule.dateCalls_settles` — the turns come to rest, and no date call can be read in what they
  leave.
-/

namespace SqlDialect.Query

open Scan Text

/-! ## Heads -/

/-- One of the names of the date calls, perhaps with blanks behind it. -/
def DateName (w : List Char) : Prop :=
  ∃ name ∈ dateNames, ∃ word b, w = word ++ b ∧ Spells name word ∧ Blanks b

/-- A name is a word, and blanks may stand behind it. -/
theorem DateName.exists_word {w : List Char} (h : DateName w) :
    ∃ c word b, w = c :: word ++ b ∧ (∀ d ∈ c :: word, isWord d = true) ∧ Blanks b := by
  obtain ⟨name, hname, word, b, rfl, hword, hb⟩ := h
  have hcall := isCallName_of_mem hname
  obtain ⟨c, word, rfl⟩ := List.exists_cons_of_ne_nil (hword.ne_nil hcall.1)
  exact ⟨c, word, b, rfl, fun d hd => (hword.isWord hcall.2 d hd).1, hb⟩

/-- No sign stands in a name. -/
theorem DateName.not_mem {w : List Char} (h : DateName w) {c : Char}
    (hc : isWord c = false ∧ isBlank c = false) : c ∉ w := by
  obtain ⟨name, hname, word, b, rfl, hword, hb⟩ := h
  exact (isCallName_of_mem hname).not_mem hword hb hc

theorem CallHeadText.exists_dateName {text : List Char} (h : CallHeadText text) :
    ∃ w, DateName w ∧ text = w ++ ['('] := by
  rcases h with h | h | h
  all_goals obtain @⟨word, b, hword, hb⟩ := h
  · exact ⟨word ++ b, ⟨"datename", by decide, word, b, rfl, hword, hb⟩, rfl⟩
  · exact ⟨word ++ b, ⟨"month", by decide, word, b, rfl, hword, hb⟩, rfl⟩
  · exact ⟨word ++ b, ⟨"convert", by decide, word, b, rfl, hword, hb⟩, rfl⟩

/-- A head is read where a word can start with one of the names before a parenthesis. -/
theorem callHead_eq_some_iff {before : Option Char} {s rest : List Char} :
    callHead before s = some ((), rest) ↔
      atWordStart before = true ∧ ∃ w, DateName w ∧ s = w ++ '(' :: rest := by
  constructor
  · intro h
    obtain ⟨text, -, rfl, hstart, htext⟩ := callHead_reads _ _ _ _ h
    obtain ⟨w, hw, rfl⟩ := htext.exists_dateName
    exact ⟨hstart, w, hw, by simp⟩
  · rintro ⟨hstart, _, ⟨name, hname, word, b, rfl, hword, hb⟩, rfl⟩
    have hopen : symbol? '(' (skipBlanks (b ++ '(' :: rest)) = some rest := by
      rw [skipBlanks_append _ hb]
      exact symbol?_skipBlanks_cons (by decide) rest
    have hread := keyword?_append hword (b ++ '(' :: rest)
    rw [List.append_assoc]
    refine callHead_eq_some hstart ?_ hopen
    simp only [dateNames, List.mem_cons, List.not_mem_nil, or_false] at hname
    rcases hname with rfl | rfl | rfl
    · exact .inl hread
    · exact .inr (.inl hread)
    · exact .inr (.inr hread)

/-- Without an opening parenthesis there is no head. -/
theorem absent_callHead_of_not_mem {s : List Char} (h : '(' ∉ s) : Absent callHead s := by
  refine absent_of_reads callHead_reads ?_
  rintro before x text _ rest rfl ⟨-, htext⟩
  obtain ⟨w, -, rfl⟩ := htext.exists_dateName
  simp at h

theorem callHeads_of_not_mem {s : List Char} (h : '(' ∉ s) : callHeads s = 0 :=
  List.length_eq_zero_iff.2 ((absent_callHead_of_not_mem h).hits_eq_nil none)

/-! ## Cuts -/

/-- A head that starts in the first text ends in the second. -/
def Spans (x y : List Char) : Prop :=
  ∃ front u v rest, x = front ++ u ∧ u ≠ [] ∧ y = v ++ '(' :: rest ∧ DateName (u ++ v)

/-- Where no head reaches across, what is read before the cut is read without a look behind it. -/
theorem callHead_append {before : Option Char} {x y front back : List Char} (hspan : ¬Spans x y)
    (hx : x = front ++ back) (hback : back ≠ []) :
    callHead before (back ++ y) = (callHead before back).map fun r => (r.1, r.2 ++ y) := by
  cases h : callHead before back with
  | some r =>
    obtain ⟨⟨⟩, r⟩ := r
    obtain ⟨hstart, w, hw, rfl⟩ := callHead_eq_some_iff.1 h
    exact callHead_eq_some_iff.2 ⟨hstart, w, hw, by simp⟩
  | none =>
    refine Option.eq_none_iff_forall_ne_some.2 ?_
    rintro ⟨⟨⟩, rest⟩ hread
    obtain ⟨hstart, w, hw, hcut⟩ := callHead_eq_some_iff.1 hread
    rcases List.append_eq_append_iff.1 hcut with ⟨v, rfl, hy⟩ | ⟨u, rfl, hy⟩
    · exact hspan ⟨front, back, v, rest, hx, hback, hy, hw⟩
    · cases u with
      | nil =>
        rw [List.append_nil] at hx hback
        exact hspan ⟨front, w, [], rest, hx, hback, hy.symm, by rwa [List.append_nil]⟩
      | cons c u =>
        obtain ⟨rfl, -⟩ := List.cons.inj hy
        have hhead : callHead before (w ++ '(' :: u) = some ((), u) :=
          callHead_eq_some_iff.2 ⟨hstart, w, hw, rfl⟩
        rw [h] at hhead
        cases hhead

/-- What stands before a place does not matter if a word can start there or none does. -/
theorem piecesFrom_callHead {before : Option Char} {y : List Char}
    (h : atWordStart before = true ∨ atWordEnd y = true) :
    piecesFrom callHead 0 before y = piecesFrom callHead 0 none y := by
  cases y with
  | nil => rfl
  | cons c y =>
    have hsame : callHead before (c :: y) = callHead none (c :: y) := by
      refine Option.ext ?_
      rintro ⟨⟨⟩, rest⟩
      rw [callHead_eq_some_iff, callHead_eq_some_iff]
      refine and_congr_left ?_
      rintro ⟨w, hw, hcut⟩
      refine iff_of_true (h.resolve_right fun hend => ?_) rfl
      obtain ⟨d, word, b, rfl, hword, -⟩ := hw.exists_word
      obtain ⟨rfl, -⟩ := List.cons.inj hcut
      have hc := hword c List.mem_cons_self
      simp [atWordEnd, hc] at hend
    rw [piecesFrom, piecesFrom, hsame]

/-- Heads are counted on each side of a cut that no head reaches across and that cuts no word. -/
theorem callHeads_append {x y : List Char}
    (hbreak : atWordStart x.getLast? = true ∨ atWordEnd y = true) (hspan : ¬Spans x y) :
    callHeads (x ++ y) = callHeads x + callHeads y := by
  have hcut : piecesFrom callHead 0 none (x ++ y) =
      piecesFrom callHead 0 none x ++ piecesFrom callHead 0 (x.getLast?.or none) y :=
    piecesFrom_cut callHead_reads fun _ _ hx hback => callHead_append hspan hx hback
  rw [Option.or_none, piecesFrom_callHead hbreak] at hcut
  unfold callHeads count hits pieces
  rw [hcut, List.filterMap_append, List.length_append]

theorem not_spans_of_not_mem {x y : List Char} (h : '(' ∉ y) : ¬Spans x y := by
  rintro ⟨_, _, v, rest, -, -, rfl, -⟩
  simp at h

/-- A text without an opening parenthesis adds no head. -/
theorem callHeads_foot {y : List Char} (hend : atWordEnd y = true) (h : '(' ∉ y) (x : List Char) :
    callHeads (x ++ y) = callHeads x := by
  rw [callHeads_append (.inr hend) (not_spans_of_not_mem h), callHeads_of_not_mem h, Nat.add_zero]

/-- A sign cuts a text in two. -/
theorem callHeads_sign {c : Char} (hc : isWord c = false ∧ isBlank c = false) (x y : List Char) :
    callHeads (x ++ c :: y) = callHeads (x ++ [c]) + callHeads y := by
  have hspan : ¬Spans (x ++ [c]) y := by
    rintro ⟨front, u, v, rest, hx, hu, -, hw⟩
    have hlast := congrArg List.getLast? hx
    rw [List.getLast?_concat, List.getLast?_append_of_ne_nil _ hu] at hlast
    exact hw.not_mem hc (List.mem_append_left v (List.mem_of_getLast? hlast.symm))
  have hbreak : atWordStart (x ++ [c]).getLast? = true := by
    rw [List.getLast?_concat]
    simp [atWordStart, hc.1]
  rw [List.append_cons, callHeads_append (.inl hbreak) hspan]

theorem Blanks.not_mem_of_isWord {b : List Char} (hb : Blanks b) {c : Char}
    (hc : isWord c = true) : c ∉ b := by
  intro hmem
  rw [isWord_of_isBlank (hb c hmem)] at hc
  cases hc

/-- Blanks in front of a text do not matter. -/
theorem callHeads_blanks {b : List Char} (hb : Blanks b) (y : List Char) :
    callHeads (b ++ y) = callHeads y := by
  have hspan : ¬Spans b y := by
    rintro ⟨front, u, v, rest, rfl, hu, -, hw⟩
    obtain ⟨c, word, b, hcut, hword, -⟩ := hw.exists_word
    obtain ⟨d, u, rfl⟩ := List.exists_cons_of_ne_nil hu
    obtain ⟨rfl, -⟩ := List.cons.inj hcut
    exact hb.not_mem_of_isWord (hword d List.mem_cons_self) (by simp)
  have hbreak : atWordStart b.getLast? = true := by
    cases hlast : b.getLast? with
    | none => rfl
    | some c => simp [atWordStart, isWord_of_isBlank (hb c (List.mem_of_getLast? hlast))]
  have hopen : '(' ∉ b := hb.not_mem (by decide)
  rw [callHeads_append (.inl hbreak) hspan, callHeads_of_not_mem hopen, Nat.zero_add]

/-- The start of a word cuts a text in two. -/
theorem callHeads_word {x y : List Char} (hx : atWordStart x.getLast? = true)
    (hy : y.head?.any isWord = true) : callHeads (x ++ y) = callHeads x + callHeads y := by
  refine callHeads_append (.inl hx) ?_
  rintro ⟨front, u, v, rest, rfl, hu, rfl, hw⟩
  obtain ⟨c, word, b, hcut, hword, hb⟩ := hw.exists_word
  cases v with
  | nil =>
    have hopen : isWord '(' = true := hy
    exact absurd hopen (by decide)
  | cons e v =>
    have he : isWord e = true := hy
    rcases List.append_eq_append_iff.1 hcut with ⟨t, ht, -⟩ | ⟨t, -, ht⟩
    · -- the last character of `u` is in the word, but no word character
      have hlast := List.getLast?_eq_some_getLast hu
      rw [List.getLast?_append_of_ne_nil _ hu, hlast] at hx
      have hmem : u.getLast hu ∈ c :: word := ht ▸ List.mem_append_left t (List.getLast_mem hu)
      simp [atWordStart, hword _ hmem] at hx
    · exact absurd (ht ▸ by simp) (hb.not_mem_of_isWord he)

/-- A word that ends unlike all the names is no part of a head. -/
theorem callHeads_other {x y : List Char} {c : Char} (hlast : x.getLast? = some c)
    (hc : isWord c = true)
    (hnames : ∀ name ∈ dateNames, (name.toList.map fold).getLast? ≠ some (fold c))
    (hy : atWordEnd y = true) : callHeads (x ++ y) = callHeads x + callHeads y := by
  refine callHeads_append (.inr hy) ?_
  rintro ⟨front, u, v, rest, rfl, hu, rfl, name, hname, word, b, hcut, hword, hb⟩
  have hletters := (isCallName_of_mem hname).2
  rw [List.getLast?_append_of_ne_nil _ hu] at hlast
  have hsame : word = u := by
    rcases List.append_eq_append_iff.1 hcut with ⟨t, ht, rfl⟩ | ⟨t, rfl, rfl⟩
    · -- the word goes on behind the cut with word characters only, and there are none
      cases t with
      | nil => rw [ht, List.append_nil]
      | cons d t =>
        have hd := (hword.isWord hletters d (ht ▸ by simp)).1
        simp [atWordEnd, hd] at hy
    · cases t with
      | nil => rw [List.append_nil]
      | cons d t =>
        rw [List.getLast?_append_of_ne_nil _ (List.cons_ne_nil d t)] at hlast
        have hmem : c ∈ d :: t ++ v := List.mem_append_left v (List.mem_of_getLast? hlast)
        exact absurd hmem (hb.not_mem_of_isWord hc)
  refine hnames name hname ?_
  unfold Spells at hword
  rw [← hword, hsame, List.getLast?_map, hlast]
  rfl

theorem atWordEnd_blanks_append {b : List Char} (hb : Blanks b) {y : List Char}
    (hy : atWordEnd y = true) : atWordEnd (b ++ y) = true := by
  cases b with
  | nil => exact hy
  | cons c b => simp [atWordEnd, isWord_of_isBlank (hb c List.mem_cons_self)]

/-- A sign that opens nothing cuts a text in two, together with the blanks before it. -/
theorem callHeads_stop {c : Char} (hc : isWord c = false ∧ isBlank c = false) (hopen : c ≠ '(')
    {b : List Char} (hb : Blanks b) (x y : List Char) :
    callHeads (x ++ (b ++ c :: y)) = callHeads x + callHeads y := by
  have hend : atWordEnd (b ++ [c]) = true :=
    atWordEnd_blanks_append hb (by simp [atWordEnd, hc.1])
  have hfoot : '(' ∉ b ++ [c] := by
    rw [List.mem_append, List.mem_singleton]
    exact fun h => h.elim (hb.not_mem (by decide)) fun h => hopen h.symm
  rw [← List.append_assoc, callHeads_sign hc, List.append_assoc, callHeads_foot hend hfoot]

/-- A name and its parenthesis are one head, and what stands around them is counted on its own. -/
theorem DateName.callHeads_open {w : List Char} (hw : DateName w) {front : List Char}
    (hstart : atWordStart front.getLast? = true) (y : List Char) :
    callHeads (front ++ (w ++ '(' :: y)) = callHeads front + (1 + callHeads y) := by
  have hword : (w ++ '(' :: y).head?.any isWord = true := by
    obtain ⟨c, word, b, rfl, hword, -⟩ := hw.exists_word
    simpa using hword c List.mem_cons_self
  have hhead : callHeads (w ++ ['(']) = 1 := by
    have hread : callHead none (w ++ ['('] ++ []) = some ((), []) :=
      callHead_eq_some_iff.2 ⟨rfl, w, hw, by simp⟩
    obtain ⟨c, t, htext⟩ := List.exists_cons_of_ne_nil (List.append_ne_nil_of_right_ne_nil w
      (List.cons_ne_nil '(' []))
    unfold callHeads count hits pieces
    rw [htext] at hread ⊢
    rw [← List.append_nil (c :: t), piecesFrom_of_hit hread]
    rfl
  rw [callHeads_word hstart hword, callHeads_sign (by decide), hhead]

/-! ## Calls and what is written for them -/

/-- Where a word can start, the text has the heads of its argument and `k` more. -/
def AddsHeads (k : Nat) (arg text : List Char) : Prop :=
  ∀ front back, atWordStart front.getLast? = true →
    callHeads (front ++ (text ++ back)) = callHeads front + (k + callHeads arg + callHeads back)

theorem MonthNameCallText.addsHeads {text arg : List Char} (h : MonthNameCallText text arg) :
    AddsHeads 1 arg text := by
  intro front back hstart
  obtain @⟨name, b₁, b₂, month, b₃, b₄, arg, b₅, hname, hb₁, hb₂, hmonth, hb₃, hb₄, hb₅, -⟩ := h
  have hw : DateName (name ++ b₁) := ⟨"datename", by decide, name, b₁, rfl, hname, hb₁⟩
  have htext : front ++ (name ++ b₁ ++ ['('] ++ b₂ ++ month ++ b₃ ++ [','] ++ b₄ ++ arg ++ b₅ ++
      [')'] ++ back) = front ++ ((name ++ b₁) ++ '(' :: (b₂ ++ (month ++ (b₃ ++ ',' ::
        (b₄ ++ (arg ++ (b₅ ++ ')' :: back))))))) := by simp
  rw [htext, hw.callHeads_open hstart, callHeads_blanks hb₂,
    callHeads_stop (by decide) (by decide) hb₃, callHeads_of_not_mem (hmonth.flat (by decide)).1,
    callHeads_blanks hb₄, callHeads_stop (by decide) (by decide) hb₅]
  omega

theorem MonthCallText.addsHeads {text arg : List Char} (h : MonthCallText text arg) :
    AddsHeads 1 arg text := by
  intro front back hstart
  obtain @⟨month, b, arg, hmonth, hb, -⟩ := h
  have hw : DateName (month ++ b) := ⟨"month", by decide, month, b, rfl, hmonth, hb⟩
  have htext : front ++ (month ++ b ++ ['('] ++ arg ++ [')'] ++ back) =
      front ++ ((month ++ b) ++ '(' :: (arg ++ ([] ++ ')' :: back))) := by simp
  rw [htext, hw.callHeads_open hstart, callHeads_stop (by decide) (by decide) blanks_nil]
  omega

/-- The type of a conversion is no date call: it ends unlike the three names. -/
theorem callHeads_varchar {type b : List Char} (htype : Spells "varchar" type) (hb : Blanks b)
    (y : List Char) : callHeads (type ++ (b ++ '(' :: y)) = callHeads y := by
  obtain ⟨c, hlast⟩ : ∃ c, type.getLast? = some c :=
    ⟨_, List.getLast?_eq_some_getLast (htype.ne_nil (by decide))⟩
  have hword : isWord c = true := (htype.isWord (by decide) c (List.mem_of_getLast? hlast)).1
  have hfold : fold c = 'r' := by
    have hend := congrArg List.getLast? htype
    rw [List.getLast?_map, hlast] at hend
    exact Option.some.inj hend
  have hnames : ∀ name ∈ dateNames, (name.toList.map fold).getLast? ≠ some (fold c) := by
    rw [hfold]
    decide
  have hparen : isWord '(' = false := by decide
  have hend : atWordEnd (b ++ '(' :: y) = true :=
    atWordEnd_blanks_append hb (by simp [atWordEnd, hparen])
  have hopen : callHeads ['('] = 0 := by decide
  rw [callHeads_other hlast hword hnames hend, callHeads_of_not_mem (htype.flat (by decide)).1,
    callHeads_blanks hb, ← List.nil_append ('(' :: y), callHeads_sign (by decide), List.nil_append,
    hopen, Nat.zero_add, Nat.zero_add]

theorem DateTextCallText.addsHeads {text arg : List Char} (h : DateTextCallText text arg) :
    AddsHeads 1 arg text := by
  intro front back hstart
  obtain @⟨name, b₁, b₂, type, b₃, b₄, b₅, b₆, b₇, arg, b₈, hname, hblanks, htype, -⟩ := h
  have hw : DateName (name ++ b₁) :=
    ⟨"convert", by decide, name, b₁, rfl, hname, hblanks b₁ (by simp)⟩
  have htext : front ++ (name ++ b₁ ++ ['('] ++ b₂ ++ type ++ b₃ ++ ['('] ++ b₄ ++ ['1', '0'] ++
        b₅ ++ [')'] ++ b₆ ++ [','] ++ b₇ ++ arg ++ b₈ ++ [')'] ++ back) =
      front ++ ((name ++ b₁) ++ '(' :: (b₂ ++ (type ++ (b₃ ++ '(' :: (b₄ ++ (['1', '0'] ++ (b₅ ++
        ')' :: ([] ++ (b₆ ++ ',' :: (b₇ ++ (arg ++ (b₈ ++ ')' :: back)))))))))))) := by simp
  have hcount : '(' ∉ ['1', '0'] := by decide
  rw [htext, hw.callHeads_open hstart, callHeads_blanks (hblanks b₂ (by simp)),
    callHeads_varchar htype (hblanks b₃ (by simp)), callHeads_blanks (hblanks b₄ (by simp)),
    callHeads_stop (by decide) (by decide) (hblanks b₅ (by simp)), callHeads_of_not_mem hcount,
    callHeads_stop (by decide) (by decide) (hblanks b₆ (by simp)),
    callHeads_of_not_mem List.not_mem_nil, callHeads_blanks (hblanks b₇ (by simp)),
    callHeads_stop (by decide) (by decide) (hblanks b₈ (by simp))]
  omega

/-- A date written in some format has the heads of its argument. -/
theorem addsHeads_formatted {arg foot : List Char} (format : List Char)
    (hfoot : foot = ',' :: (format ++ [')'])) (hformat : '(' ∉ format) :
    AddsHeads 0 arg ("TO_CHAR(".toList ++ arg ++ foot) := by
  intro front back hstart
  have htext : front ++ ("TO_CHAR(".toList ++ arg ++ foot ++ back) =
      front ++ ("TO_CHAR".toList ++ '(' ::
        (arg ++ ([] ++ ',' :: (format ++ ([] ++ ')' :: back))))) := by
    have hopen : "TO_CHAR(".toList = "TO_CHAR".toList ++ ['('] := by decide
    rw [hopen, hfoot]
    simp only [List.append_assoc, List.cons_append, List.nil_append]
  have hfunction : callHeads ("TO_CHAR".toList ++ ['(']) = 0 := by decide
  rw [htext, callHeads_word hstart (by rfl), callHeads_sign (by decide), hfunction,
    callHeads_stop (by decide) (by decide) blanks_nil,
    callHeads_stop (by decide) (by decide) blanks_nil, callHeads_of_not_mem hformat]
  omega

theorem addsHeads_monthNameText (arg : List Char) : AddsHeads 0 arg (monthNameText arg) :=
  addsHeads_formatted " 'Month'".toList (by decide) (by decide)

theorem addsHeads_dateText (arg : List Char) : AddsHeads 0 arg (dateText arg) :=
  addsHeads_formatted " 'YYYY-MM-DD'".toList (by decide) (by decide)

/-- The word `MONTH` comes back, but the word behind it opens no call. -/
theorem addsHeads_monthText (arg : List Char) : AddsHeads 0 arg (monthText arg) := by
  intro front back hstart
  have htext : front ++ (monthText arg ++ back) = front ++ ("EXTRACT".toList ++ '(' ::
      ("MONTH FROM".toList ++ ([' '] ++ (arg ++ ([] ++ ')' :: back))))) := by
    have hopen : "EXTRACT(MONTH FROM ".toList =
        "EXTRACT".toList ++ '(' :: ("MONTH FROM".toList ++ [' ']) := by decide
    have hclose : ")".toList = [')'] := by decide
    unfold monthText
    rw [hopen, hclose]
    simp only [List.append_assoc, List.cons_append, List.nil_append]
  have hfunction : callHeads ("EXTRACT".toList ++ ['(']) = 0 := by decide
  have hfield : callHeads "MONTH FROM".toList = 0 := by decide
  have hlast : "MONTH FROM".toList.getLast? = some 'M' := by decide
  rw [htext, callHeads_word hstart (by rfl), callHeads_sign (by decide), hfunction,
    callHeads_other hlast (by decide) (by decide) (by rfl), hfield, callHeads_blanks blanks_space,
    callHeads_stop (by decide) (by decide) blanks_nil]
  omega

/-! ## Turns -/

/-- A sweep that writes calls anew takes one head away for each. -/
theorem callHeads_replaceAll_add {scan : Scanner (List Char)} {write : List Char → List Char}
    {CallText : List Char → List Char → Prop}
    (hscan : Reads scan fun before text arg _ => atWordStart before = true ∧ CallText text arg)
    (hcall : ∀ {text arg}, CallText text arg → AddsHeads 1 arg text)
    (hclosed : ∀ {text arg}, CallText text arg → text.getLast? = some ')')
    (hwrite : ∀ arg, AddsHeads 0 arg (write arg))
    (hwritten : ∀ arg, (write arg).getLast? = some ')')
    (s : List Char) : callHeads (replaceAll scan write s) + count scan s = callHeads s := by
  refine replaceAll_add_count hscan callHeads ?_ ?_ s
  · rintro _ text arg _ ⟨-, htext⟩
    rw [hwritten, hclosed htext]
  · rintro _ text arg _ ⟨hstart, htext⟩ front back rfl
    rw [hwrite arg front back hstart, hcall htext front back hstart]
    omega

theorem getLast?_append_foot {foot : List Char} (h : foot.getLast? = some ')') (head : List Char) :
    (head ++ foot).getLast? = some ')' := by
  rw [List.getLast?_append, h]
  rfl

/-- The number of calls that one turn writes anew. -/
def callsWritten (s : List Char) : Nat :=
  count monthNameCall s + count monthCall (replaceAll monthNameCall monthNameText s) +
    count dateTextCall (replaceAll monthCall monthText (replaceAll monthNameCall monthNameText s))

/-- **Each call that a turn writes anew is one head less.** -/
theorem callHeads_datePass_add (s : List Char) :
    callHeads (datePass s) + callsWritten s = callHeads s := by
  have hnames := callHeads_replaceAll_add monthNameCall_reads MonthNameCallText.addsHeads
    (fun h => by cases h; exact List.getLast?_concat) addsHeads_monthNameText
    (fun _ => getLast?_append_foot (by decide) _) s
  have hmonths := callHeads_replaceAll_add monthCall_reads MonthCallText.addsHeads
    (fun h => by cases h; exact List.getLast?_concat) addsHeads_monthText
    (fun _ => getLast?_append_foot (by decide) _) (replaceAll monthNameCall monthNameText s)
  have hdates := callHeads_replaceAll_add dateTextCall_reads DateTextCallText.addsHeads
    (fun h => by cases h; exact List.getLast?_concat) addsHeads_dateText
    (fun _ => getLast?_append_foot (by decide) _)
    (replaceAll monthCall monthText (replaceAll monthNameCall monthNameText s))
  unfold datePass callsWritten
  omega

theorem replaceAll_of_count_eq_zero {α : Type} {scan : Scanner α} (write : α → List Char)
    {s : List Char} (h : count scan s = 0) : replaceAll scan write s = s :=
  replaceAll_of_not_occurs write (not_occurs_iff.2 (List.length_eq_zero_iff.1 h))

/-- A turn that writes nothing changes nothing. -/
theorem datePass_of_callsWritten_eq_zero {s : List Char} (h : callsWritten s = 0) :
    datePass s = s := by
  unfold callsWritten at h
  have hnames := replaceAll_of_count_eq_zero monthNameText (by omega : count monthNameCall s = 0)
  rw [hnames] at h
  have hmonths := replaceAll_of_count_eq_zero monthText (by omega : count monthCall s = 0)
  rw [hmonths] at h
  have hdates := replaceAll_of_count_eq_zero dateText (by omega : count dateTextCall s = 0)
  rw [datePass, hnames, hmonths, hdates]

theorem callHeads_datePass_lt {s : List Char} (h : datePass s ≠ s) :
    callHeads (datePass s) < callHeads s := by
  have hpos : callsWritten s ≠ 0 := fun hzero => h (datePass_of_callsWritten_eq_zero hzero)
  have hheads := callHeads_datePass_add s
  omega

theorem datePass_renameDateCalls (s : List Char) :
    datePass (renameDateCalls s) = renameDateCalls s :=
  settle_settled (fun _ => callHeads_datePass_lt) (Nat.le_refl (callHeads s))

end SqlDialect.Query

namespace SqlDialect

open Query Scan Text

/-- **Date calls are all written anew.** A turn over a text with a date call in it takes heads of
calls away. So the turns that change something come to an end, after no more of them than there were
heads; no date call can be read in what they leave, and the rule leaves that as it is. -/
theorem Rule.dateCalls_settles (whole s : List Char) :
    (∀ t, Rule.dateCalls.Applies t → callHeads (datePass t) < callHeads t) ∧
      (∃ n ≤ callHeads s, Rule.dateCalls.apply whole s = datePass^[n] s ∧
        (∀ m < n, datePass^[m + 1] s ≠ datePass^[m] s) ∧ datePass^[n + 1] s = datePass^[n] s) ∧
      ¬Rule.dateCalls.Applies (Rule.dateCalls.apply whole s) ∧
      Rule.dateCalls.apply whole (Rule.dateCalls.apply whole s) =
        Rule.dateCalls.apply whole s := by
  have hrest : datePass (Rule.dateCalls.apply whole s) = Rule.dateCalls.apply whole s :=
    datePass_renameDateCalls s
  have hdone := (sheds_datePass.eq_self_iff _).1 hrest
  refine ⟨fun t ht => ?_, ?_, hdone, (apply_eq_self_iff (by simp) whole _).2 hdone⟩
  · exact callHeads_datePass_lt fun heq => (sheds_datePass.eq_self_iff t).1 heq ht
  · obtain ⟨n, hn, hturns, hchange⟩ := settle_eq_iterate datePass (callHeads s) s
    have happly : Rule.dateCalls.apply whole s = datePass^[n] s := hturns
    refine ⟨n, hn, happly, hchange, ?_⟩
    rw [Function.iterate_succ_apply', ← happly, hrest]

end SqlDialect
