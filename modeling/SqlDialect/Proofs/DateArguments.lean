import SqlDialect.Proofs.Absence
import SqlDialect.Proofs.Parentheses

/-!
# The arguments of date calls

A date call is read up to the first closing parenthesis. Where the argument is a call itself, that
parenthesis belongs to the argument.

* `Calls` — a function is called somewhere in a text; `calls_append_cons` and `calls_append_open`
  cut a text at a sign.
* `HeadedBy` — a scanner that reads calls of one function, and so finds nothing in a text without
  them.
* `renameDateCalls_dateText`, `renameDateCalls_monthName` — what becomes of one call: its argument
  is the text before the first closing parenthesis.
* `dateCalls_argument_iff` — an argument is kept whole exactly when nothing closes within it;
  `dateCalls_nested_argument` is a call that is torn apart.
-/

namespace SqlDialect.Query

open Scan Text

/-! ## Calls and where they can stand -/

/-- The function is called somewhere in the text: its name, in some letter case and not within a
longer one, and an opening parenthesis. -/
def Calls (name : String) (s : List Char) : Prop :=
  ∃ a word b y, s = a ++ (word ++ b) ++ '(' :: y ∧ Spells name word ∧ Blanks b ∧
    atWordStart a.getLast? = true

/-- The name is made of letters. -/
def IsCallName (name : String) : Prop :=
  name.toList ≠ [] ∧ (name.toList.map fold).all Char.isAlpha = true

instance (name : String) : Decidable (IsCallName name) := inferInstanceAs (Decidable (_ ∧ _))

/-- What has no separator in it stands before the separator or behind it. -/
theorem append_cons_eq_append {c : Char} {x y a h z : List Char} (hc : c ∉ h)
    (hs : x ++ c :: y = a ++ h ++ z) :
    (∃ u, x = a ++ h ++ u ∧ z = u ++ c :: y) ∨ ∃ v, a = x ++ c :: v ∧ y = v ++ h ++ z := by
  rcases List.append_eq_append_iff.1 hs with ⟨u, hu, hy⟩ | ⟨u, hu, hz⟩
  · cases u with
    | nil => exact .inl ⟨[], by rw [List.append_nil] at hu ⊢; exact hu.symm, hy.symm⟩
    | cons d u =>
      obtain ⟨rfl, rfl⟩ := List.cons.inj hy
      rcases List.append_eq_append_iff.1 hu with ⟨v, -, hv⟩ | ⟨v, ha, hv⟩
      · exact absurd (hv ▸ List.mem_append_right v List.mem_cons_self) hc
      · cases v with
        | nil => exact absurd (hv.subst List.mem_cons_self : c ∈ [] ++ h) hc
        | cons d v =>
          obtain ⟨rfl, rfl⟩ := List.cons.inj hv
          exact .inr ⟨v, ha, rfl⟩
  · exact .inl ⟨u, hu, hz⟩

theorem IsCallName.fold_not_mem {name : String} (hname : IsCallName name) {c : Char}
    (hc : isWord c = false) : fold c ∉ name.toList.map fold := by
  intro hmem
  rw [(isWord_of_fold_isAlpha (List.all_eq_true.1 hname.2 _ hmem)).1] at hc
  cases hc

theorem IsCallName.not_mem {name : String} (hname : IsCallName name) {c : Char} {word b : List Char}
    (hword : Spells name word) (hb : Blanks b) (hc : isWord c = false ∧ isBlank c = false) :
    c ∉ word ++ b := by
  intro hmem
  rcases List.mem_append.1 hmem with h | h
  · have hw := (hword.isWord hname.2 c h).1
    rw [hc.1] at hw
    cases hw
  · have hblank := hb c h
    rw [hc.2] at hblank
    cases hblank

theorem calls_of_append {name : String} {x v word b y : List Char} (hword : Spells name word)
    (hb : Blanks b) (hstart : atWordStart (x ++ v).getLast? = true) :
    Calls name (v ++ (word ++ b) ++ '(' :: y) := by
  refine ⟨v, word, b, y, rfl, hword, hb, ?_⟩
  rw [List.getLast?_append] at hstart
  cases hv : v.getLast? with
  | none => rfl
  | some d =>
    rw [hv] at hstart
    exact hstart

/-- A sign that is no part of a call cuts a text in two. -/
theorem calls_append_cons {name : String} (hname : IsCallName name) {c : Char}
    (hc : isWord c = false ∧ isBlank c = false) (hopen : c ≠ '(') {x y : List Char}
    (h : Calls name (x ++ c :: y)) : Calls name x ∨ Calls name y := by
  obtain ⟨a, word, b, z, hs, hword, hb, hstart⟩ := h
  have hnot : c ∉ word ++ b ++ ['('] := by
    rw [List.mem_append, List.mem_singleton]
    exact fun hmem => hmem.elim (hname.not_mem hword hb hc) hopen
  have hcut : x ++ c :: y = a ++ (word ++ b ++ ['(']) ++ z := by simpa using hs
  rcases append_cons_eq_append hnot hcut with ⟨u, rfl, -⟩ | ⟨v, rfl, rfl⟩
  · exact .inl ⟨a, word, b, u, by simp, hword, hb, hstart⟩
  · refine .inr ?_
    have hcall := calls_of_append (x := x ++ [c]) (y := z) hword hb (by simpa using hstart)
    simpa using hcall

/-- An opening parenthesis ends a call or has nothing to do with it. -/
theorem calls_append_open {name : String} (hname : IsCallName name) {x y : List Char}
    (h : Calls name (x ++ '(' :: y)) : Calls name (x ++ ['(']) ∨ Calls name y := by
  obtain ⟨a, word, b, z, hs, hword, hb, hstart⟩ := h
  have hnot : '(' ∉ word ++ b := hname.not_mem hword hb (by decide)
  rcases append_cons_eq_append hnot hs with ⟨u, rfl, hz⟩ | ⟨v, rfl, rfl⟩
  · refine .inl ?_
    cases u with
    | nil => exact ⟨a, word, b, [], by simp, hword, hb, hstart⟩
    | cons d u =>
      obtain ⟨rfl, -⟩ := List.cons.inj hz
      exact ⟨a, word, b, u ++ ['('], by simp, hword, hb, hstart⟩
  · exact .inr (calls_of_append (x := x ++ ['(']) hword hb (by simpa using hstart))

/-- No call starts with a blank. -/
theorem calls_of_blank_cons {name : String} (hname : IsCallName name) {c : Char}
    (hc : isBlank c = true) {s : List Char} (h : Calls name (c :: s)) : Calls name s := by
  obtain ⟨a, word, b, z, hs, hword, hb, hstart⟩ := h
  cases a with
  | nil =>
    obtain ⟨d, word, rfl⟩ := List.exists_cons_of_ne_nil (hword.ne_nil hname.1)
    obtain ⟨rfl, -⟩ := List.cons.inj hs
    have hw := (hword.isWord hname.2 c List.mem_cons_self).1
    rw [isWord_of_isBlank hc] at hw
    cases hw
  | cons d a =>
    obtain ⟨rfl, rfl⟩ := List.cons.inj hs
    exact calls_of_append (x := [c]) hword hb hstart

theorem Calls.append {name : String} {s : List Char} (h : Calls name s) (t : List Char) :
    Calls name (s ++ t) := by
  obtain ⟨a, word, b, y, rfl, hword, hb, hstart⟩ := h
  exact ⟨a, word, b, y ++ t, by simp, hword, hb, hstart⟩

/-- A call behind a sign is a call with the sign before it. -/
theorem Calls.append_cons {name : String} {s : List Char} (h : Calls name s) {c : Char}
    (hc : isWord c = false) (t : List Char) : Calls name (t ++ c :: s) := by
  obtain ⟨a, word, b, y, rfl, hword, hb, hstart⟩ := h
  refine ⟨t ++ c :: a, word, b, y, by simp, hword, hb, ?_⟩
  rw [List.getLast?_append, getLast?_cons_or]
  cases ha : a.getLast? with
  | none => simp [atWordStart, hc]
  | some d =>
    rw [ha] at hstart
    exact hstart

theorem Calls.mentions {name : String} {s : List Char} (h : Calls name s) : Mentions name s := by
  obtain ⟨a, word, b, y, rfl, hword, -, -⟩ := h
  exact hword.mentions ⟨a, b ++ '(' :: y, by simp⟩

/-! ## Scanners for the calls of one function -/

theorem readable_of_start {α : Type} {scan : Scanner α} {s : List Char} {r : α × List Char}
    (h : scan none s = some r) : Readable scan s :=
  ⟨[], s, rfl, by rw [List.getLast?_nil, h]; rfl⟩

/-- Whatever the scanner reads starts with a call of the function. -/
def HeadedBy {α : Type} (name : String) (scan : Scanner α) : Prop :=
  ∀ before s a rest, scan before s = some (a, rest) → atWordStart before = true ∧
    ∃ word b y, s = word ++ b ++ '(' :: y ∧ Spells name word ∧ Blanks b

/-- Nothing is found in a text without such calls. -/
theorem HeadedBy.hits_eq_nil {α : Type} {name : String} {scan : Scanner α} (h : HeadedBy name scan)
    {s : List Char} (hs : ¬Calls name s) (before : Option Char) :
    (piecesFrom scan 0 before s).filterMap Piece.value? = [] := by
  refine Classical.byContradiction fun hne => ?_
  obtain ⟨a, c, b, rfl, hread⟩ := (hits_piecesFrom_ne_nil_iff scan before s).1 hne
  obtain ⟨⟨v, rest⟩, hread⟩ := Option.isSome_iff_exists.1 hread
  obtain ⟨hstart, word, blanks, y, hcall, hword, hblanks⟩ := h _ _ _ _ hread
  refine hs ⟨a, word, blanks, y, by rw [hcall]; simp, hword, hblanks, ?_⟩
  cases ha : a.getLast? with
  | none => rfl
  | some d =>
    rw [ha] at hstart
    exact hstart

theorem HeadedBy.replaceAll_eq_self {α : Type} {name : String} {scan : Scanner α}
    (h : HeadedBy name scan) (write : α → List Char) {s : List Char} (hs : ¬Calls name s) :
    replaceAll scan write s = s :=
  render_piecesFrom_of_no_hit write (h.hits_eq_nil hs none)

/-- A call at the start of a text is written anew, if there is none behind it. -/
theorem HeadedBy.replaceAll_append {α : Type} {name : String} {scan : Scanner α}
    (h : HeadedBy name scan) (write : α → List Char) {text rest : List Char} {a : α}
    (hne : text ≠ []) (hread : scan none (text ++ rest) = some (a, rest))
    (hrest : ¬Calls name rest) :
    replaceAll scan write (text ++ rest) = write a ++ rest := by
  obtain ⟨c, text, rfl⟩ := List.exists_cons_of_ne_nil hne
  unfold replaceAll pieces
  rw [piecesFrom_of_hit hread, List.flatMap_cons,
    render_piecesFrom_of_no_hit write (h.hits_eq_nil hrest _)]
  rfl

theorem monthNameCall_headedBy : HeadedBy "datename" monthNameCall := by
  intro before s a rest h
  obtain ⟨_, -, rfl, hstart, @⟨name, b₁, _, _, _, _, _, _, hname, hb₁, -, -, -, -, -, -⟩⟩ :=
    monthNameCall_reads _ _ _ _ h
  exact ⟨hstart, name, b₁, _, by simp; rfl, hname, hb₁⟩

theorem monthCall_headedBy : HeadedBy "month" monthCall := by
  intro before s a rest h
  obtain ⟨_, -, rfl, hstart, @⟨name, b, _, hname, hb, -⟩⟩ := monthCall_reads _ _ _ _ h
  exact ⟨hstart, name, b, _, by simp; rfl, hname, hb⟩

theorem dateTextCall_headedBy : HeadedBy "convert" dateTextCall := by
  intro before s a rest h
  obtain ⟨_, -, rfl, hstart, @⟨name, b₁, _, _, _, _, _, _, _, _, _, hname, hblanks, -, -⟩⟩ :=
    dateTextCall_reads _ _ _ _ h
  exact ⟨hstart, name, b₁, _, by simp; rfl, hname, hblanks b₁ (by simp)⟩

/-- The functions of the date calls. -/
def dateNames : List String := ["datename", "month", "convert"]

/-- None of them is called in the text. -/
def NoDateCalls (s : List Char) : Prop := ∀ name ∈ dateNames, ¬Calls name s

theorem isCallName_of_mem {name : String} (h : name ∈ dateNames) : IsCallName name := by
  revert name
  decide

theorem NoDateCalls.datePass_eq_self {s : List Char} (h : NoDateCalls s) : datePass s = s := by
  unfold datePass
  rw [monthNameCall_headedBy.replaceAll_eq_self _ (h "datename" (by decide)),
    monthCall_headedBy.replaceAll_eq_self _ (h "month" (by decide)),
    dateTextCall_headedBy.replaceAll_eq_self _ (h "convert" (by decide))]

/-! ## Arguments -/

theorem exists_trimEnd_append (s : List Char) : ∃ b, Blanks b ∧ s = trimEnd s ++ b := by
  obtain ⟨b, hb, hs⟩ := skipBlanks_eq (s := s.reverse) rfl
  refine ⟨b.reverse, fun c hc => hb c (List.mem_reverse.1 hc), ?_⟩
  have hrev := congrArg List.reverse hs
  rw [List.reverse_reverse, List.reverse_append] at hrev
  exact hrev

theorem trimEnd_eq_self {s : List Char} (h : s.getLast?.any isBlank = false) : trimEnd s = s := by
  unfold trimEnd
  cases hs : s.reverse with
  | nil => rw [List.reverse_eq_nil_iff.1 hs]; rfl
  | cons c t =>
    have hlast : s.getLast? = some c := by rw [List.getLast?_eq_head?_reverse, hs]; rfl
    have hc : ¬isBlank c = true := by
      rw [hlast, Option.any_some] at h
      simp [h]
    rw [List.dropWhile_cons_of_neg hc, ← hs, List.reverse_reverse]

theorem trimEnd_ne_nil {c : Char} (hc : isBlank c = false) (s : List Char) :
    trimEnd (c :: s) ≠ [] := by
  intro hnil
  obtain ⟨b, hb, hs⟩ := exists_trimEnd_append (c :: s)
  rw [hnil, List.nil_append] at hs
  have hblank := hb c (hs ▸ List.mem_cons_self)
  rw [hc] at hblank
  cases hblank

/-- An argument behind one space is read without the blanks at its end. -/
theorem bareArgument?_space_cons {c : Char} (hc : isBlank c = false) (s : List Char) :
    bareArgument? (' ' :: c :: s) = some (trimEnd (c :: s)) := by
  have htrim : trim (' ' :: c :: s) = trimEnd (c :: s) := by
    unfold trim skipBlanks
    rw [List.dropWhile_cons_of_pos (by decide), List.dropWhile_cons_of_neg (by simp [hc])]
  obtain ⟨d, t, hd⟩ := List.exists_cons_of_ne_nil (trimEnd_ne_nil hc s)
  unfold bareArgument?
  rw [htrim, hd]

/-- The text up to the first closing parenthesis of a call, behind the space before its argument. -/
structure ArgumentFront (s : List Char) : Prop where
  head_not_blank : ∃ c t, s = c :: t ∧ isBlank c = false
  no_stop : ∀ c ∈ s, c ∉ [',', ')']

theorem ArgumentFront.enclosed? {s : List Char} (h : ArgumentFront s) {stops : List Char}
    (hstops : ∀ c ∈ stops, c ∈ [',', ')']) (hclosing : ')' ∈ stops) (rest : List Char) :
    Scan.enclosed? stops ')' (' ' :: (s ++ ')' :: rest)) = some (' ' :: s, rest) := by
  refine (enclosed?_eq_some_iff hclosing).2 ⟨rfl, fun c hc hmem => ?_⟩
  rcases List.mem_cons.1 hc with rfl | hc
  · exact absurd (hstops ' ' hmem) (by decide)
  · exact h.no_stop c hc (hstops c hmem)

theorem ArgumentFront.bareArgument? {s : List Char} (h : ArgumentFront s) :
    Scan.bareArgument? (' ' :: s) = some (trimEnd s) := by
  obtain ⟨c, t, rfl, hc⟩ := h.head_not_blank
  exact bareArgument?_space_cons hc t

theorem symbol?_skipBlanks_cons {sign : Char} (h : isBlank sign = false) (s : List Char) :
    symbol? sign (skipBlanks (sign :: s)) = some s := by
  rw [skipBlanks, List.dropWhile_cons_of_neg (by simp [h]), symbol?, if_pos rfl]

theorem keyword?_skipBlanks_append {name : String} (hname : IsCallName name) {word : List Char}
    (hword : Spells name word) (s : List Char) :
    keyword? name.toList (skipBlanks (word ++ s)) = some s := by
  obtain ⟨c, word, rfl⟩ := List.exists_cons_of_ne_nil (hword.ne_nil hname.1)
  have hc : ¬isBlank c = true := by
    intro hc
    have hw := (hword.isWord hname.2 c List.mem_cons_self).1
    rw [isWord_of_isBlank hc] at hw
    cases hw
  rw [List.cons_append, skipBlanks, List.dropWhile_cons_of_neg hc]
  exact dropFolded?_append s hword

theorem keyword?_append {name : String} {word : List Char} (hword : Spells name word)
    (s : List Char) : keyword? name.toList (word ++ s) = some s :=
  dropFolded?_append s hword

/-- `CONVERT(VARCHAR(10), ` and what follows it. -/
def convertCall (s : List Char) : List Char :=
  "CONVERT".toList ++ '(' :: ("VARCHAR".toList ++ '(' :: '1' :: '0' :: ')' :: ',' :: ' ' :: s)

/-- `DATENAME(MONTH, ` and what follows it. -/
def datenameCall (s : List Char) : List Char :=
  "DATENAME".toList ++ '(' :: ("MONTH".toList ++ ',' :: ' ' :: s)

theorem dateTextCall_convertCall {s : List Char} (h : ArgumentFront s) (rest : List Char) :
    dateTextCall none (convertCall (s ++ ')' :: rest)) = some (trimEnd s, rest) := by
  simp only [dateTextCall, Option.bind_eq_bind, Option.bind_eq_some_iff, guard_eq_some]
  refine ⟨(), rfl, _, keyword?_append (by decide) _, _, symbol?_skipBlanks_cons (by decide) _, _,
    keyword?_skipBlanks_append (by decide) (by decide) _, _,
    symbol?_skipBlanks_cons (by decide) _, _, symbol?_skipBlanks_cons (by decide) _, _,
    symbol?_eq_some_iff.2 rfl, _, symbol?_skipBlanks_cons (by decide) _, _,
    symbol?_skipBlanks_cons (by decide) _, _, h.enclosed? (by simp) (by simp) rest, _, h.bareArgument?, rfl⟩

theorem monthNameCall_datenameCall {s : List Char} (h : ArgumentFront s) (rest : List Char) :
    monthNameCall none (datenameCall (s ++ ')' :: rest)) = some (trimEnd s, rest) := by
  simp only [monthNameCall, Option.bind_eq_bind, Option.bind_eq_some_iff, guard_eq_some]
  refine ⟨(), rfl, _, keyword?_append (by decide) _, _, symbol?_skipBlanks_cons (by decide) _, _,
    keyword?_skipBlanks_append (by decide) (by decide) _, _,
    symbol?_skipBlanks_cons (by decide) _, _, h.enclosed? (by simp) (by simp) rest, _, h.bareArgument?, rfl⟩

theorem convertCall_append (s t : List Char) : convertCall (s ++ t) = convertCall s ++ t := by
  unfold convertCall
  generalize "CONVERT".toList = name, "VARCHAR".toList = type
  simp

theorem datenameCall_append (s t : List Char) : datenameCall (s ++ t) = datenameCall s ++ t := by
  unfold datenameCall
  generalize "DATENAME".toList = name, "MONTH".toList = month
  simp

/-! ## One call -/

theorem not_calls_of_not_mem {name : String} {s : List Char} (h : '(' ∉ s) : ¬Calls name s := by
  rintro ⟨a, word, b, y, rfl, -⟩
  exact h (List.mem_append_right _ List.mem_cons_self)

/-- A date written in some format calls what its argument calls. -/
theorem noDateCalls_formatted {arg foot rest : List Char} (format : List Char)
    (hfoot : foot = ',' :: (format ++ [')'])) (harg : NoDateCalls arg) (hformat : '(' ∉ format)
    (hrest : NoDateCalls rest) : NoDateCalls ("TO_CHAR(".toList ++ arg ++ foot ++ rest) := by
  have htext : "TO_CHAR(".toList ++ arg ++ foot ++ rest =
      "TO_CHAR".toList ++ '(' :: (arg ++ ',' :: (format ++ ')' :: rest)) := by
    have hopen : "TO_CHAR(".toList = "TO_CHAR".toList ++ ['('] := by decide
    rw [hopen, hfoot]
    simp only [List.append_assoc, List.cons_append, List.nil_append]
  rw [htext]
  have hfunction : ∀ name ∈ dateNames, ¬Mentions name ("TO_CHAR".toList ++ ['(']) := by decide
  intro name hname hcalls
  have hname' := isCallName_of_mem hname
  rcases calls_append_open hname' hcalls with h | h
  · exact hfunction name hname h.mentions
  rcases calls_append_cons hname' (by decide) (by decide) h with h | h
  · exact harg name hname h
  rcases calls_append_cons hname' (by decide) (by decide) h with h | h
  · exact not_calls_of_not_mem hformat h
  · exact hrest name hname h

theorem noDateCalls_monthNameText {arg rest : List Char} (harg : NoDateCalls arg)
    (hrest : NoDateCalls rest) : NoDateCalls (monthNameText arg ++ rest) :=
  noDateCalls_formatted " 'Month'".toList (by decide) harg (by decide) hrest

theorem noDateCalls_dateText {arg rest : List Char} (harg : NoDateCalls arg)
    (hrest : NoDateCalls rest) : NoDateCalls (dateText arg ++ rest) :=
  noDateCalls_formatted " 'YYYY-MM-DD'".toList (by decide) harg (by decide) hrest

/-- If one turn leaves nothing to do, it is the only one. -/
theorem renameDateCalls_eq {s t : List Char} (happlies : Rule.dateCalls.Applies s)
    (hpass : datePass s = t) (ht : NoDateCalls t) : renameDateCalls s = t := by
  obtain ⟨n, hn⟩ := Nat.exists_eq_add_one_of_ne_zero (Nat.ne_of_gt (callHeads_pos happlies))
  rw [renameDateCalls, hn, settle_succ, hpass, settle_of_eq ht.datePass_eq_self]

theorem NoDateCalls.trimEnd {s : List Char} (h : NoDateCalls s) : NoDateCalls (trimEnd s) := by
  intro name hname hcalls
  obtain ⟨b, -, hs⟩ := exists_trimEnd_append s
  refine h name hname ?_
  rw [hs]
  exact hcalls.append b

/-- The other two functions are called neither before the argument of `CONVERT` nor in it. -/
theorem not_calls_convertCall {front rest : List Char} (hfront : NoDateCalls front)
    (hrest : NoDateCalls rest) {name : String} (hname : name ∈ ["datename", "month"]) :
    ¬Calls name (convertCall (front ++ ')' :: rest)) := by
  have hheads : ∀ name ∈ ["datename", "month"], name ∈ dateNames ∧
      ¬Mentions name ("CONVERT".toList ++ '(' :: ("VARCHAR".toList ++ ['(', '1', '0', ')'])) := by
    decide
  have hcut : convertCall (front ++ ')' :: rest) =
      ("CONVERT".toList ++ '(' :: ("VARCHAR".toList ++ ['(', '1', '0', ')'])) ++
        ',' :: ' ' :: (front ++ ')' :: rest) := by
    unfold convertCall
    simp only [List.append_assoc, List.cons_append, List.nil_append]
  obtain ⟨hmem, hhead⟩ := hheads name hname
  have hname' := isCallName_of_mem hmem
  intro hcalls
  rw [hcut] at hcalls
  rcases calls_append_cons hname' (by decide) (by decide) hcalls with h | h
  · exact hhead h.mentions
  rcases calls_append_cons hname' (by decide) (by decide)
    (calls_of_blank_cons hname' (by decide) h) with h | h
  · exact hfront name hmem h
  · exact hrest name hmem h

/-- The argument of `CONVERT` is what stands before the first closing parenthesis. -/
theorem renameDateCalls_dateText {front rest : List Char} (h : ArgumentFront front)
    (hfront : NoDateCalls front) (hrest : NoDateCalls rest) :
    renameDateCalls (convertCall (front ++ ')' :: rest)) = dateText (trimEnd front) ++ rest := by
  have hread := dateTextCall_convertCall h rest
  have happlies : Rule.dateCalls.Applies (convertCall (front ++ ')' :: rest)) :=
    .inr (readable_of_start hread)
  refine renameDateCalls_eq happlies ?_ (noDateCalls_dateText hfront.trimEnd hrest)
  have hdatename := not_calls_convertCall hfront hrest (List.mem_cons_self : "datename" ∈ _)
  have hmonth := not_calls_convertCall hfront hrest (by simp : "month" ∈ ["datename", "month"])
  have hcall : convertCall (front ++ ')' :: rest) = convertCall (front ++ [')']) ++ rest := by
    rw [← convertCall_append, List.append_assoc, List.singleton_append]
  have hne : convertCall (front ++ [')']) ≠ [] := by
    rw [convertCall_append]
    exact List.append_ne_nil_of_right_ne_nil _ (List.cons_ne_nil _ _)
  unfold datePass
  rw [monthNameCall_headedBy.replaceAll_eq_self _ hdatename,
    monthCall_headedBy.replaceAll_eq_self _ hmonth, hcall]
  rw [hcall] at hread
  exact dateTextCall_headedBy.replaceAll_append dateText hne hread (hrest "convert" (by decide))

/-- The argument of `DATENAME` is what stands before the first closing parenthesis. -/
theorem renameDateCalls_monthName {front rest : List Char} (h : ArgumentFront front)
    (hfront : NoDateCalls front) (hrest : NoDateCalls rest) :
    renameDateCalls (datenameCall (front ++ ')' :: rest)) =
      monthNameText (trimEnd front) ++ rest := by
  have hread := monthNameCall_datenameCall h rest
  have happlies : Rule.dateCalls.Applies (datenameCall (front ++ ')' :: rest)) :=
    .inl (.inl (readable_of_start hread))
  have hdone := noDateCalls_monthNameText hfront.trimEnd hrest
  refine renameDateCalls_eq happlies ?_ hdone
  have hcall : datenameCall (front ++ ')' :: rest) = datenameCall (front ++ [')']) ++ rest := by
    rw [← datenameCall_append, List.append_assoc, List.singleton_append]
  have hne : datenameCall (front ++ [')']) ≠ [] := by
    rw [datenameCall_append]
    exact List.append_ne_nil_of_right_ne_nil _ (List.cons_ne_nil _ _)
  rw [hcall] at hread
  unfold datePass
  rw [hcall, monthNameCall_headedBy.replaceAll_append monthNameText hne hread
      (hrest "datename" (by decide)),
    monthCall_headedBy.replaceAll_eq_self _ (hdone "month" (by decide)),
    dateTextCall_headedBy.replaceAll_eq_self _ (hdone "convert" (by decide))]

/-! ## Whole arguments -/

/-- The word stands in the text on its own, in some letter case. -/
def HasWord (word : String) (s : List Char) : Prop :=
  ∃ a w b, s = a ++ w ++ b ∧ Spells word w ∧ atWordStart a.getLast? = true ∧ atWordEnd b = true

theorem HasWord.mentions {word : String} {s : List Char} (h : HasWord word s) :
    Mentions word s := by
  obtain ⟨a, w, b, rfl, hw, -, -⟩ := h
  exact hw.mentions (List.infix_append a w b)

/-- The name of a call is a word. -/
theorem Calls.hasWord {name : String} {s : List Char} (h : Calls name s) : HasWord name s := by
  obtain ⟨a, word, b, y, rfl, hword, hb, hstart⟩ := h
  refine ⟨a, word, b ++ '(' :: y, by simp, hword, hstart, ?_⟩
  cases b with
  | nil => simp [atWordEnd, show isWord '(' = false by decide]
  | cons c b => simp [atWordEnd, isWord_of_isBlank (hb c List.mem_cons_self)]

/-- An argument as it is meant: some text in which all that opens is closed, without a comma,
without blanks at its ends, and without the names of the date functions. -/
structure DateArgument (x : List Char) : Prop where
  ne_nil : x ≠ []
  balanced : Balanced x
  no_comma : ',' ∉ x
  no_blank_start : x.head?.any isBlank = false
  no_blank_end : x.getLast?.any isBlank = false
  no_name : ∀ word ∈ dateNames, ¬HasWord word x

namespace DateArgument

variable {x : List Char}

theorem noDateCalls (h : DateArgument x) : NoDateCalls x := fun name hname hcalls =>
  h.no_name name hname hcalls.hasWord

/-- An argument and the parenthesis behind it, cut at the first parenthesis that closes: it is the
one behind the argument, or one within it. -/
theorem exists_front (h : DateArgument x) : ∃ front rest, x ++ [')'] = front ++ ')' :: rest ∧
    ArgumentFront front ∧ NoDateCalls front ∧ NoDateCalls rest ∧
      (')' ∉ x ∧ front = x ∧ rest = [] ∨ ∃ post, x = front ++ ')' :: post) := by
  have hnil : NoDateCalls [] := fun _ _ => not_calls_of_not_mem List.not_mem_nil
  by_cases hclose : ')' ∈ x
  · obtain ⟨front, post, hx, hfront⟩ := List.eq_append_cons_of_mem hclose
    have hcalls := h.noDateCalls
    obtain ⟨-, hbalanced, hcomma, hstart, -, -⟩ := h
    subst hx
    refine ⟨front, post ++ [')'], by simp, ⟨?_, ?_⟩, ?_, ?_, .inr ⟨post, rfl⟩⟩
    · cases front with
      | nil => cases hbalanced
      | cons c front => exact ⟨c, front, rfl, hstart⟩
    · intro c hc hstop
      rcases List.mem_cons.1 hstop with rfl | hstop
      · exact hcomma (List.mem_append_left _ hc)
      · exact hfront (List.mem_singleton.1 hstop ▸ hc)
    · exact fun name hname hfront => hcalls name hname (hfront.append _)
    · intro name hname hpost
      have hname' := isCallName_of_mem hname
      rcases calls_append_cons hname' (by decide) (by decide) hpost with hpost | hend
      · exact hcalls name hname (hpost.append_cons (by decide) front)
      · exact hnil name hname hend
  · refine ⟨x, [], rfl, ⟨?_, ?_⟩, h.noDateCalls, hnil, .inl ⟨hclose, rfl, rfl⟩⟩
    · obtain ⟨c, t, rfl⟩ := List.exists_cons_of_ne_nil h.ne_nil
      exact ⟨c, t, rfl, h.no_blank_start⟩
    · intro c hc hstop
      rcases List.mem_cons.1 hstop with rfl | hstop
      · exact h.no_comma hc
      · exact hclose (List.mem_singleton.1 hstop ▸ hc)

/-- A format behind the front of an argument is behind the argument only if they are the same. -/
theorem formatted_eq_iff (h : DateArgument x) {front rest : List Char}
    (hcut : ')' ∉ x ∧ front = x ∧ rest = [] ∨ ∃ post, x = front ++ ')' :: post)
    {foot : List Char} (hfoot : foot.head? = some ',') (head : List Char) :
    head ++ trimEnd front ++ foot ++ rest = head ++ x ++ foot ↔ ')' ∉ x := by
  rcases hcut with ⟨hclose, rfl, rfl⟩ | ⟨post, rfl⟩
  · rw [trimEnd_eq_self h.no_blank_end, List.append_nil]
    exact iff_of_true rfl hclose
  · refine iff_of_false (fun heq => ?_) fun hclose => hclose (by simp)
    obtain ⟨b, hb, hfront⟩ := exists_trimEnd_append front
    obtain ⟨foot, rfl⟩ := List.head?_eq_some_iff.1 hfoot
    have hsame : trimEnd front ++ ',' :: (foot ++ rest) =
        trimEnd front ++ (b ++ ')' :: (post ++ ',' :: foot)) := by
      rw [← List.append_assoc, ← hfront]
      simpa using heq
    -- the comma would be a blank of the argument or its parenthesis
    have hcomma := List.append_cancel_left hsame
    cases b with
    | nil => exact absurd (List.cons.inj hcomma).1 (by decide)
    | cons c b =>
      have hblank := hb c List.mem_cons_self
      rw [← (List.cons.inj hcomma).1] at hblank
      exact absurd hblank (by decide)

end DateArgument

end SqlDialect.Query

namespace SqlDialect

open Query Scan Text

/-- **Arguments are kept whole if nothing closes in them.** The two calls with a single argument are
written with a format, and the argument they had is the argument they get, exactly when it has no
closing parenthesis. -/
theorem Rule.dateCalls_argument_iff (whole : List Char) {x : List Char} (hx : DateArgument x) :
    (Rule.dateCalls.apply whole ("CONVERT(VARCHAR(10), ".toList ++ x ++ [')']) =
        "TO_CHAR(".toList ++ x ++ ", 'YYYY-MM-DD')".toList ↔ ')' ∉ x) ∧
      (Rule.dateCalls.apply whole ("DATENAME(MONTH, ".toList ++ x ++ [')']) =
        "TO_CHAR(".toList ++ x ++ ", 'Month')".toList ↔ ')' ∉ x) := by
  obtain ⟨front, rest, hcut, hargument, hfront, hrest, hcases⟩ := hx.exists_front
  have hconvert : "CONVERT(VARCHAR(10), ".toList ++ x ++ [')'] =
      convertCall (front ++ ')' :: rest) := by
    have hhead : "CONVERT(VARCHAR(10), ".toList = convertCall [] := by decide
    rw [hhead, List.append_assoc, ← convertCall_append, List.nil_append, hcut]
  have hdatename : "DATENAME(MONTH, ".toList ++ x ++ [')'] =
      datenameCall (front ++ ')' :: rest) := by
    have hhead : "DATENAME(MONTH, ".toList = datenameCall [] := by decide
    rw [hhead, List.append_assoc, ← datenameCall_append, List.nil_append, hcut]
  constructor
  · rw [hconvert]
    change renameDateCalls _ = _ ↔ _
    rw [renameDateCalls_dateText hargument hfront hrest]
    exact hx.formatted_eq_iff hcases (by decide) _
  · rw [hdatename]
    change renameDateCalls _ = _ ↔ _
    rw [renameDateCalls_monthName hargument hfront hrest]
    exact hx.formatted_eq_iff hcases (by decide) _

theorem Rule.dateCalls_column_argument :
    Rule.dateCalls.apply [] ("CONVERT(VARCHAR(10), ".toList ++ "o.created_at".toList ++ [')']) =
        "TO_CHAR(".toList ++ "o.created_at".toList ++ ", 'YYYY-MM-DD')".toList ∧
      Rule.dateCalls.apply [] ("DATENAME(MONTH, ".toList ++ "o.created_at".toList ++ [')']) =
        "TO_CHAR(".toList ++ "o.created_at".toList ++ ", 'Month')".toList := by
  have hnames : ∀ word ∈ dateNames, ¬Mentions word "o.created_at".toList := by decide
  have hx : DateArgument "o.created_at".toList :=
    ⟨by decide, by decide, by decide, by decide, by decide,
      fun word hword h => hnames word hword h.mentions⟩
  have hkept := Rule.dateCalls_argument_iff [] hx
  exact ⟨hkept.1.2 (by decide), hkept.2.2 (by decide)⟩

/-- The format of the outer call ends up in the inner one. -/
theorem Rule.dateCalls_nested_argument :
    DateArgument "max(d)".toList ∧
      Rule.dateCalls.apply [] ("CONVERT(VARCHAR(10), ".toList ++ "max(d)".toList ++ [')']) =
        "TO_CHAR(max(d, 'YYYY-MM-DD'))".toList ∧
      Rule.dateCalls.apply [] ("DATENAME(MONTH, ".toList ++ "max(d)".toList ++ [')']) =
        "TO_CHAR(max(d, 'Month'))".toList ∧
      "TO_CHAR(max(d, 'YYYY-MM-DD'))".toList ≠
        "TO_CHAR(".toList ++ "max(d)".toList ++ ", 'YYYY-MM-DD')".toList ∧
      "TO_CHAR(max(d, 'Month'))".toList ≠
        "TO_CHAR(".toList ++ "max(d)".toList ++ ", 'Month')".toList := by
  have hnames : ∀ word ∈ dateNames, ¬Mentions word "max(d)".toList := by decide
  refine ⟨⟨by decide, by decide, by decide, by decide, by decide, ?_⟩, by decide, by decide,
    by decide, by decide⟩
  exact fun word hword h => hnames word hword h.mentions

end SqlDialect
