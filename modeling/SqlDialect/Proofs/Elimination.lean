import SqlDialect.Proofs.Changes
import SqlDialect.Proofs.Seams

/-!
# Rules that leave nothing to do

Four rules sweep a text once for each of their constructs, and one sweep is enough: what they write
is a barrier to the construct they look for, so none can be read over a seam.

* `ReadsCall` — a scanner that looks for calls by their name.
* `ReadsCall.barrier` — a text with a letter that the name of a call does not have.
* `bracketedName_barrier`, `fetchClause_barrier` — a name in double quotes, and a page by offset and
  limit.
* `Rule.apply_eliminates` — so the constructs of these rules are gone after one application, and a
  second one changes nothing.
-/

namespace SqlDialect.Query

open Scan Text

/-! ## Signs that a construct does not have -/

theorem Spells.not_mem {word : String} {text : List Char} (h : Spells word text) {c : Char}
    (hc : fold c ∉ word.toList.map fold) : c ∉ text := by
  intro hmem
  unfold Spells at h
  rw [← h] at hc
  exact hc (List.mem_map_of_mem hmem)

theorem Digits.not_mem {n : List Char} (h : Digits n) {c : Char} (hc : isDigit c = false) :
    c ∉ n := by
  intro hmem
  rw [h.2 c hmem] at hc
  cases hc

/-- A keyword is not read where another letter stands. -/
theorem keyword?_cons_eq_none {word : String} {first c : Char}
    (hfirst : (word.toList.map fold).head? = some first) (hc : fold c ≠ first) (s : List Char) :
    keyword? word.toList (c :: s) = none := by
  cases hread : keyword? word.toList (c :: s) with
  | none => rfl
  | some rest =>
    obtain ⟨t, ht, heq⟩ := keyword?_eq_some hread
    unfold Spells at ht
    rw [← ht] at hfirst
    cases t with
    | nil => cases hfirst
    | cons d t =>
      obtain ⟨rfl, -⟩ := List.cons.inj heq
      exact absurd (Option.some.inj hfirst) hc

/-! ## Calls -/

/-- A call as it is looked for by its name: behind the name stand only blanks and parentheses, and
one of these is last. -/
def CallText (name : String) (text : List Char) : Prop :=
  ∃ word tail, text = word ++ tail ∧ Spells name word ∧
    (∀ c ∈ tail, isBlank c = true ∨ c ∈ ['(', ')']) ∧ ∃ sign ∈ ['(', ')'], text.getLast? = some sign

theorem isWord_of_mem_parens {sign : Char} (h : sign ∈ ['(', ')']) :
    isWord sign = false ∧ isBlank sign = false ∧ isDigit sign = false := by
  simp only [List.mem_cons, List.not_mem_nil, or_false] at h
  rcases h with rfl | rfl
  · decide
  · decide

theorem CallText.getLast? {name : String} {text : List Char} (h : CallText name text) :
    ∃ sign ∈ ['(', ')'], text.getLast? = some sign := by
  obtain ⟨word, tail, -, -, -, hlast⟩ := h
  exact hlast

theorem CallText.not_mem {name : String} {text : List Char} (h : CallText name text) {c : Char}
    (hname : fold c ∉ name.toList.map fold) (hblank : isBlank c = false) (hc : c ∉ ['(', ')']) :
    c ∉ text := by
  obtain ⟨word, tail, rfl, hword, htail, -⟩ := h
  intro hmem
  rcases List.mem_append.1 hmem with hmem | hmem
  · exact hword.not_mem hname hmem
  · rcases htail c hmem with h | h
    · rw [hblank] at h
      cases h
    · exact hc h

/-- The scanner reads calls of a name where a word can start. -/
structure ReadsCall (name : String) (scan : Scanner Unit) : Prop where
  reads : Reads scan fun before text _ _ => atWordStart before = true ∧ CallText name text
  ended : ∀ before, Ended (scan before)
  start : ∀ before behind, atWordStart before = atWordStart behind → scan before = scan behind

theorem openCall_readsCall {name : String} (hname : name.toList ≠ []) :
    ReadsCall name (openCall name.toList) where
  reads before s a rest h := by
    obtain ⟨text, hne, hs, hstart, @⟨word, b, hword, hb⟩⟩ := openCall_reads name before s a rest h
    refine ⟨_, hne, hs, hstart, word, b ++ ['('], by simp, hword, fun c hc => ?_, '(', by decide,
      List.getLast?_concat⟩
    rcases List.mem_append.1 hc with hc | hc
    · exact .inl (hb c hc)
    · exact .inr (by rw [List.mem_singleton.1 hc]; decide)
  ended := openCall_ended hname
  start before behind h := by
    unfold openCall
    rw [h]

theorem newidCall_readsCall : ReadsCall "newid" newidCall where
  reads before s a rest h := by
    obtain ⟨text, hne, hs, hstart, @⟨word, b₁, b₂, hword, hb₁, hb₂⟩⟩ :=
      newidCall_reads before s a rest h
    refine ⟨_, hne, hs, hstart, word, b₁ ++ '(' :: (b₂ ++ [')']), by simp, hword, fun c hc => ?_,
      ')', by decide, List.getLast?_concat⟩
    simp only [List.mem_append, List.mem_cons, List.not_mem_nil, or_false] at hc ⊢
    rcases hc with hc | rfl | hc | rfl
    · exact .inl (hb₁ c hc)
    · exact .inr (.inl rfl)
    · exact .inl (hb₂ c hc)
    · exact .inr (.inr rfl)
  ended := newidCall_ended
  start before behind h := by
    unfold newidCall
    rw [h]

namespace ReadsCall

variable {name other : String} {find scan : Scanner Unit} {first : Char}

/-- A call is not read where another letter stands. -/
theorem eq_none (h : ReadsCall name find) (hfirst : (name.toList.map fold).head? = some first)
    {c : Char} (hc : fold c ≠ first) (before : Option Char) (s : List Char) :
    find before (c :: s) = none := by
  cases hread : find before (c :: s) with
  | none => rfl
  | some r =>
    obtain ⟨text, -, hcut, -, word, tail, rfl, hword, -⟩ := h.reads _ _ _ _ hread
    unfold Spells at hword
    rw [← hword] at hfirst
    cases word with
    | nil => cases hfirst
    | cons d word =>
      obtain ⟨rfl, -⟩ := List.cons.inj hcut
      exact absurd (Option.some.inj hfirst) hc

/-- The call is not read behind the letter `c`, over it or before it. -/
theorem barrier (h : ReadsCall name find) (hfirst : (name.toList.map fold).head? = some first)
    {c : Char} {p q : List Char}
    (hc : fold c ∉ name.toList.map fold ∧ isBlank c = false ∧ c ∉ ['(', ')'])
    (hp : '(' ∉ p ∧ ')' ∉ p) (hq : first ∉ q.map fold) : Barrier find (p ++ c :: q) := by
  refine ⟨p, c, q, rfl, fun before text b rest hread => ?_, fun x d y hcut before back => ?_⟩
  · obtain ⟨-, -, htext⟩ := h.reads.shape hread
    obtain ⟨sign, hsign, hlast⟩ := htext.getLast?
    refine ⟨htext.not_mem hc.1 hc.2.1 hc.2.2, fun d hd hd' => ?_⟩
    rw [hlast] at hd'
    obtain rfl := Option.some.inj hd'
    simp only [List.mem_cons, List.not_mem_nil, or_false] at hsign
    rcases hsign with rfl | rfl
    · exact hp.1 hd
    · exact hp.2 hd
  · refine h.eq_none hfirst ?_ before _
    rintro rfl
    exact hq (List.mem_map_of_mem (by simp [hcut]))

/-- A call and what is written for it both end with a sign, so that a word can start behind it. -/
theorem endsAlike (h : ReadsCall name find) (other : String) {w : List Char}
    (hw : w.getLast?.any (!isWord ·) = true) : EndsAlike find (fun _ => w)
      fun before text (_ : Unit) _ => atWordStart before = true ∧ CallText other text := by
  intro before text _ rest htext behind t
  obtain ⟨sign, hsign, hlast⟩ := htext.2.getLast?
  obtain ⟨c, hc, hstart⟩ := (Option.any_eq_true _ _).1 hw
  rw [hc, hlast, Option.some_or]
  refine congrFun (h.start _ _ ?_) t
  rw [atWordStart, atWordStart, hstart, (isWord_of_mem_parens hsign).1]
  rfl

/-- No call is left by a sweep for other calls that comes upon none and writes a barrier. -/
theorem not_readable (hfind : ReadsCall name find) (hscan : ReadsCall other scan) {w : List Char}
    (hw : Barrier find w) (hlast : w.getLast?.any (!isWord ·) = true) {s : List Char}
    (hs : ¬Missed scan find none s) : ¬Readable find (replaceAll scan (fun _ => w) s) :=
  not_readable_replaceAll hscan.reads hfind.reads (lasting_of_ended hfind.ended _)
    (hfind.endsAlike other hlast) (fun _ _ _ _ _ => hw) hs

end ReadsCall

theorem lenCall_readsCall : ReadsCall "len" lenCall := openCall_readsCall (by decide)

theorem isnullCall_readsCall : ReadsCall "isnull" isnullCall := openCall_readsCall (by decide)

/-! ## Names -/

theorem bracketedName_barrier {name : List Char} (hname : ∀ c ∈ name, c ∉ ['[', ']', '"']) :
    Barrier bracketedName ('"' :: name ++ ['"']) := by
  refine ⟨[], '"', name ++ ['"'], rfl, fun before text b rest hread => ?_,
    fun x d y hcut before back => ?_⟩
  · obtain ⟨-, htext⟩ := bracketedName_reads.shape hread
    obtain ⟨hb⟩ := htext
    refine ⟨fun hmem => ?_, by simp⟩
    simp only [List.mem_append, List.mem_singleton] at hmem
    rcases hmem with (hmem | hmem) | hmem
    · exact absurd hmem (by decide)
    · exact hb _ hmem (by simp)
    · exact absurd hmem (by decide)
  · have hd : d ≠ '[' := by
      rintro rfl
      have hmem : '[' ∈ name ++ ['"'] := by simp [hcut]
      rcases List.mem_append.1 hmem with hmem | hmem
      · exact hname _ hmem (by simp)
      · exact absurd (List.mem_singleton.1 hmem) (by decide)
    unfold bracketedName
    rw [List.cons_append, symbol?, if_neg hd]
    rfl

/-! ## Pages -/

/-- A text of blanks and digits has no letters. -/
theorem count_fold_eq_zero {x : Char} (hx : x.isAlpha = true) {s : List Char}
    (hs : ∀ c ∈ s, isBlank c = true ∨ isDigit c = true) : (s.map fold).count x = 0 := by
  rw [List.count_eq_zero, List.mem_map]
  rintro ⟨c, hc, rfl⟩
  obtain ⟨hword, hdigit⟩ := isWord_of_fold_isAlpha hx
  rcases hs c hc with hb | hd
  · rw [isWord_of_isBlank hb] at hword
    cases hword
  · rw [hd] at hdigit
    cases hdigit

/-- The words of a page, `ROW` or `ROWS` and `NEXT` or `FIRST` among them. -/
def pageWords (row next row' : String) : List Char :=
  ["offset", row, "fetch", next, row', "only"].flatMap String.toList

theorem SpellsRows.exists_word {text : List Char} (h : SpellsRows text) :
    ∃ row ∈ ["row", "rows"], Spells row text := by
  rcases h with h | h
  · exact ⟨_, by decide, h⟩
  · exact ⟨_, by decide, h⟩

/-- The letters of a page are those of its words. -/
theorem FetchClauseText.count_fold {text : List Char} {f : FetchClause} (h : FetchClauseText text f)
    {x : Char} (hx : x.isAlpha = true) :
    ∃ row ∈ ["row", "rows"], ∃ next ∈ ["next", "first"], ∃ row' ∈ ["row", "rows"],
      (text.map fold).count x = ((pageWords row next row').map fold).count x := by
  obtain ⟨-, hblanks, hoffset, hm, hrows₁, hfetch, hnext, hn, hrows₂, honly⟩ := h
  obtain ⟨row, hrow, hrows₁⟩ := hrows₁.exists_word
  obtain ⟨row', hrow', hrows₂⟩ := hrows₂.exists_word
  obtain ⟨next, hnext, hspells⟩ : ∃ next ∈ ["next", "first"], Spells next _ := by
    rcases hnext with h | h
    · exact ⟨_, by decide, h⟩
    · exact ⟨_, by decide, h⟩
  refine ⟨row, hrow, next, hnext, row', hrow', ?_⟩
  have hb : ∀ b, Blanks b → (b.map fold).count x = 0 := fun b hb =>
    count_fold_eq_zero hx fun c hc => .inl (hb c hc)
  have hd : ∀ n, Digits n → (n.map fold).count x = 0 := fun n hn =>
    count_fold_eq_zero hx fun c hc => .inr (hn.2 c hc)
  simp only [List.forall_mem_cons] at hblanks
  obtain ⟨hb₁, hb₂, hb₃, hb₄, hb₅, hb₆, hb₇, hb₈, -⟩ := hblanks
  unfold Spells at hoffset hrows₁ hfetch hspells hrows₂ honly
  unfold pageWords
  generalize "offset" = offset, "fetch" = fetch, "only" = only at hoffset hfetch honly ⊢
  simp only [List.flatMap_cons, List.flatMap_nil, List.map_append, List.count_append,
    hoffset, hrows₁, hfetch, hspells, hrows₂, honly, hb _ hb₁, hb _ hb₂, hb _ hb₃, hb _ hb₄,
    hb _ hb₅, hb _ hb₆, hb _ hb₇, hb _ hb₈, hd _ hm, hd _ hn, List.map_nil, List.count_nil]
  omega

/-- A page ends with the last letter of `ONLY`. -/
theorem FetchClauseText.fold_getLast? {text : List Char} {f : FetchClause}
    (h : FetchClauseText text f) : text.getLast?.map fold = some 'y' := by
  obtain @⟨_, _, _, _, _, _, _, _, _, _, _, _, _, _, _, only, -, -, -, -, -, -, -, -, -, honly⟩ := h
  have hlast : only.getLast?.map fold = some 'y' := by
    rw [← List.getLast?_map, honly]
    decide
  rw [List.getLast?_append, Option.map_or, hlast, Option.some_or]

/-- A page has no letter that is in none of its words. -/
theorem FetchClauseText.not_mem {text : List Char} {f : FetchClause} (h : FetchClauseText text f)
    {c : Char} (hc : (fold c).isAlpha = true)
    (hwords : ∀ row ∈ ["row", "rows"], ∀ next ∈ ["next", "first"], ∀ row' ∈ ["row", "rows"],
      fold c ∉ (pageWords row next row').map fold) : c ∉ text := by
  intro hmem
  obtain ⟨row, hrow, next, hnext, row', hrow', hcount⟩ := h.count_fold hc
  rw [List.count_eq_zero.2 (hwords row hrow next hnext row' hrow'), List.count_eq_zero] at hcount
  exact hcount (List.mem_map_of_mem hmem)

theorem fetchClause_of_not_isBlank {d : Char} (hd : isBlank d = false) (before : Option Char)
    (s : List Char) : fetchClause before (d :: s) = none := by
  unfold fetchClause
  rw [skipBlanks1?, if_neg (by simp [hd])]
  rfl

/-- No page starts with a blank and a count. -/
theorem fetchClause_blank_digits {n : List Char} (hn : Digits n) (before : Option Char)
    (s : List Char) : fetchClause before (' ' :: (n ++ s)) = none := by
  obtain ⟨d, n, rfl⟩ := List.exists_cons_of_ne_nil hn.1
  have hd := hn.2 d List.mem_cons_self
  have hblanks : skipBlanks1? (' ' :: (d :: n ++ s)) = some (d :: n ++ s) :=
    skipBlanks1?_space (isBlank_head_digits hn s)
  have hletter : fold d ≠ 'o' := by
    intro ho
    have hdigit := (isWord_of_fold_isAlpha (c := d) (by rw [ho]; decide)).2
    rw [hd] at hdigit
    cases hdigit
  have hword : keyword? "offset".toList (d :: (n ++ s)) = none :=
    keyword?_cons_eq_none (by decide) hletter _
  unfold fetchClause
  rw [hblanks]
  simp only [Option.bind_eq_bind, Option.bind_some, List.cons_append, hword, Option.bind_none]

/-- A page is not read behind the letter `c`, over it or before it. -/
theorem fetchClause_barrier_letter {c : Char} {p q : List Char} (hc : (fold c).isAlpha = true)
    (hwords : ∀ row ∈ ["row", "rows"], ∀ next ∈ ["next", "first"], ∀ row' ∈ ["row", "rows"],
      fold c ∉ (pageWords row next row').map fold) (hp : 'y' ∉ p.map fold)
    (hq : ∀ x d y, q = x ++ d :: y → ∀ before back, fetchClause before (d :: y ++ back) = none) :
    Barrier fetchClause (p ++ c :: q) := by
  refine ⟨p, c, q, rfl, fun before text b rest hread => ?_, hq⟩
  obtain ⟨-, htext⟩ := fetchClause_reads.shape hread
  refine ⟨htext.not_mem hc hwords, fun d hd hlast => hp ?_⟩
  have hfold := htext.fold_getLast?
  rw [hlast, Option.map_some] at hfold
  rw [← Option.some.inj hfold]
  exact List.mem_map_of_mem hd

/-- The `M` of a `LIMIT` is such a letter. -/
theorem fetchClause_barrier_limit {p n : List Char} (hp : 'y' ∉ p.map fold) (hn : Digits n) :
    Barrier fetchClause (p ++ 'M' :: 'I' :: 'T' :: ' ' :: n) := by
  refine fetchClause_barrier_letter (by decide) (by decide) hp fun x d y hcut before back => ?_
  match x, hcut with
  | [], hcut =>
    obtain ⟨rfl, -⟩ := List.cons.inj hcut
    exact fetchClause_of_not_isBlank (by decide) before _
  | [_], hcut =>
    obtain ⟨rfl, -⟩ := List.cons.inj (List.cons.inj hcut).2
    exact fetchClause_of_not_isBlank (by decide) before _
  | [_, _], hcut =>
    obtain ⟨rfl, rfl⟩ := List.cons.inj (List.cons.inj (List.cons.inj hcut).2).2
    exact fetchClause_blank_digits hn before back
  | _ :: _ :: _ :: x, hcut =>
    obtain ⟨-, rfl⟩ := List.cons.inj (List.cons.inj (List.cons.inj hcut).2).2
    exact fetchClause_of_not_isBlank (isBlank_of_isDigit (hn.2 d (by simp))) before _

theorem fetchClause_barrier {f : FetchClause} (hoffset : Digits f.offset) (hrows : Digits f.rows) :
    Barrier fetchClause f.asLimit := by
  have hp : 'y' ∉ (" OFFSET ".toList ++ f.offset ++ " LI".toList).map fold := by
    have hcount : (f.offset.map fold).count 'y' = 0 :=
      count_fold_eq_zero (by decide) fun c hc => .inr (hoffset.2 c hc)
    have hwords : 'y' ∉ " OFFSET ".toList.map fold ∧ 'y' ∉ " LI".toList.map fold := by decide
    rw [List.count_eq_zero] at hcount
    rw [List.map_append, List.map_append]
    simp only [List.mem_append, not_or]
    exact ⟨⟨hwords.1, hcount⟩, hwords.2⟩
  have hlimit : " LIMIT ".toList = " LI".toList ++ "MIT ".toList := by decide
  have hbarrier : Barrier fetchClause
      (" OFFSET ".toList ++ f.offset ++ " LI".toList ++ ("MIT ".toList ++ f.rows)) :=
    fetchClause_barrier_limit hp hrows
  unfold FetchClause.asLimit
  generalize " OFFSET ".toList = offset, " LIMIT ".toList = limit, " LI".toList = front,
    "MIT ".toList = back at hlimit hbarrier ⊢
  rwa [hlimit, ← List.append_assoc, List.append_assoc]

/-! ## Sweeps -/

theorem not_readable_quoteBracketedNames (s : List Char) :
    ¬Readable bracketedName (quoteBracketedNames s) :=
  not_readable_replaceAll bracketedName_reads bracketedName_reads
    (lasting_of_ended bracketedName_ended _) (fun _ _ _ _ _ _ _ => rfl)
    (fun _ _ _ _ htext => by
      obtain ⟨hname⟩ := htext
      exact bracketedName_barrier hname)
    (not_missed_self _ none s)

theorem not_readable_renameRandomCalls (s : List Char) :
    ¬Readable newidCall (renameRandomCalls s) := by
  have hrandom : Barrier newidCall "RANDOM()".toList :=
    newidCall_readsCall.barrier (p := "RANDO".toList) (c := 'M') (q := "()".toList) rfl (by decide)
      (by decide) (by decide)
  exact newidCall_readsCall.not_readable newidCall_readsCall hrandom (by decide)
    (not_missed_self _ none s)

theorem not_readable_limitFetchClauses (s : List Char) :
    ¬Readable fetchClause (limitFetchClauses s) :=
  not_readable_replaceAll fetchClause_reads fetchClause_reads
    (lasting_of_ended fetchClause_ended _) (fun _ _ _ _ _ _ _ => rfl)
    (fun _ _ _ _ htext => fetchClause_barrier htext.digits.1 htext.digits.2)
    (not_missed_self _ none s)

theorem not_readable_renameScalarCalls (s : List Char) :
    ¬Readable lenCall (renameScalarCalls s) ∧ ¬Readable isnullCall (renameScalarCalls s) := by
  have hlength : Barrier lenCall "LENGTH(".toList :=
    lenCall_readsCall.barrier (p := "LEN".toList) (c := 'G') (q := "TH(".toList) rfl (by decide)
      (by decide) (by decide)
  have hcoalesce : Barrier lenCall "COALESCE(".toList :=
    lenCall_readsCall.barrier (p := "COALE".toList) (c := 'S') (q := "CE(".toList) rfl (by decide)
      (by decide) (by decide)
  have hown : Barrier isnullCall "COALESCE(".toList :=
    isnullCall_readsCall.barrier (p := []) (c := 'C') (q := "OALESCE(".toList) rfl (by decide)
      (by decide) (by decide)
  have hnone : ¬Readable lenCall (replaceAll lenCall (fun _ => "LENGTH(".toList) s) :=
    lenCall_readsCall.not_readable lenCall_readsCall hlength (by decide)
      (not_missed_self _ none s)
  exact ⟨lenCall_readsCall.not_readable isnullCall_readsCall hcoalesce (by decide)
      fun h => hnone h.readable,
    isnullCall_readsCall.not_readable isnullCall_readsCall hown (by decide)
      (not_missed_self _ none _)⟩

end SqlDialect.Query

namespace SqlDialect

open Query Scan

/-- **One sweep is enough for four rules.** After one application of the rules for names in
brackets, random order, pages and renamed functions none of their constructs can be read in the text,
so that a second application changes nothing. Neither depends on the query as it was before. -/
theorem Rule.apply_eliminates {rule : Rule}
    (hrule : rule ∈ [.bracketedNames, .randomCalls, .fetchClauses, .scalarCalls])
    (whole whole' s : List Char) :
    ¬rule.Applies (rule.apply whole s) ∧
      rule.apply whole' (rule.apply whole s) = rule.apply whole s := by
  have hnone : ¬rule.Applies (rule.apply whole s) := by
    simp only [List.mem_cons, List.not_mem_nil, or_false] at hrule
    rcases hrule with rfl | rfl | rfl | rfl
    · exact not_readable_quoteBracketedNames s
    · exact not_readable_renameRandomCalls s
    · exact not_readable_limitFetchClauses s
    · exact not_or.2 (not_readable_renameScalarCalls s)
  refine ⟨hnone, (apply_eq_self_iff ?_ whole' _).2 hnone⟩
  rintro rfl
  simp at hrule

/-- The calls inside a call are renamed in the same sweep. -/
theorem Rule.apply_eliminates_nested :
    Rule.scalarCalls ∈ [.bracketedNames, .randomCalls, .fetchClauses, .scalarCalls] ∧
      ¬Rule.scalarCalls.Applies
        (Rule.scalarCalls.apply [] "ISNULL(LEN (a), isnull (LEN(b), 0))".toList) ∧
      Rule.scalarCalls.apply []
          (Rule.scalarCalls.apply [] "ISNULL(LEN (a), isnull (LEN(b), 0))".toList) =
        "COALESCE(LENGTH(a), COALESCE(LENGTH(b), 0))".toList := by
  have hrule : Rule.scalarCalls ∈ [.bracketedNames, .randomCalls, .fetchClauses, .scalarCalls] := by
    simp
  obtain ⟨hnone, hagain⟩ :=
    Rule.apply_eliminates hrule [] [] "ISNULL(LEN (a), isnull (LEN(b), 0))".toList
  refine ⟨hrule, hnone, hagain.trans ?_⟩
  decide

end SqlDialect
