import SqlDialect.Proofs.Characters
import SqlDialect.Proofs.Constructs

/-!
# What a scanner does not look at

A scanner is made of steps, and each step takes as much as it can. So a step may look at the first
character behind what it takes, but at nothing more; and a construct whose last step is a word or a
sign is read without any look behind it.

* `Steady` — what a step takes depends on nothing behind it but its first character.
* `Firm` — what a step takes depends on nothing behind it at all.
* `Ended` — the same for what is read by several steps, with its value.
* `Ended.bind`, `Ended.digits` — steady steps can be put in front of what is read so.
* `…_ended` — the constructs that are read so: all but `SELECT TOP`, the sums of literals and the
  comparisons of columns.
-/

namespace SqlDialect.Scan

open Text Query

variable {α : Type}

/-- What the step takes from a text stays the same if another text with the same first character
stands behind it. -/
def Steady (f : List Char → Option (List Char)) : Prop :=
  ∀ s rest, f s = some rest → ∃ text, s = text ++ rest ∧
    ∀ rest', rest'.head? = rest.head? → f (text ++ rest') = some rest'

/-- What the step takes from a text is not empty and stays the same whatever stands behind it. -/
def Firm (f : List Char → Option (List Char)) : Prop :=
  ∀ s rest, f s = some rest → ∃ text, text ≠ [] ∧ s = text ++ rest ∧
    ∀ rest', f (text ++ rest') = some rest'

/-- What is read from a text is not empty and stays the same whatever stands behind it. -/
def Ended (f : List Char → Option (α × List Char)) : Prop :=
  ∀ s a rest, f s = some (a, rest) → ∃ text, text ≠ [] ∧ s = text ++ rest ∧
    ∀ rest', f (text ++ rest') = some (a, rest')

theorem Firm.steady {f : List Char → Option (List Char)} (hf : Firm f) : Steady f := by
  intro s rest h
  obtain ⟨text, -, hs, hread⟩ := hf s rest h
  exact ⟨text, hs, fun rest' _ => hread rest'⟩

/-! ## First characters -/

theorem isBlank_of_isDigit {c : Char} (h : isDigit c = true) : isBlank c = false := by
  rw [← Bool.not_eq_true]
  intro hb
  have hword := isWord_of_isDigit h
  rw [isWord_of_isBlank hb] at hword
  cases hword

theorem isDigit_of_isBlank {c : Char} (h : isBlank c = true) : isDigit c = false := by
  rw [← Bool.not_eq_true]
  intro hd
  rw [isBlank_of_isDigit hd] at h
  cases h

theorem isBlank_head_digits {n : List Char} (hn : Digits n) (s : List Char) :
    ∀ c, (n ++ s).head? = some c → isBlank c = false := by
  obtain ⟨d, n, rfl⟩ := List.exists_cons_of_ne_nil hn.1
  intro c hc
  rw [← Option.some.inj hc]
  exact isBlank_of_isDigit (hn.2 d List.mem_cons_self)

/-- A word starts with a letter. -/
theorem isBlank_head_word {name : String} {word : List Char} (hword : Spells name word)
    (hname : (name.toList.map fold).head?.any Char.isAlpha = true) (s : List Char) :
    ∀ c, (word ++ s).head? = some c → isBlank c = false := by
  unfold Spells at hword
  rw [← hword] at hname
  cases word with
  | nil => cases hname
  | cons d word =>
    intro c hc
    rw [← Option.some.inj hc, ← Bool.not_eq_true]
    intro hblank
    have hletter := (isWord_of_fold_isAlpha hname).1
    rw [isWord_of_isBlank hblank] at hletter
    cases hletter

/-! ## Steps -/

theorem skipBlanks_of_head {s : List Char} (h : ∀ c, s.head? = some c → isBlank c = false) :
    skipBlanks s = s := by
  cases s with
  | nil => rfl
  | cons c s => rw [skipBlanks, List.dropWhile_cons_of_neg (by simp [h c rfl])]

theorem skipBlanks1?_append {b s : List Char} (hne : b ≠ []) (hb : Blanks b)
    (hs : ∀ c, s.head? = some c → isBlank c = false) : skipBlanks1? (b ++ s) = some s := by
  obtain ⟨c, b, rfl⟩ := List.exists_cons_of_ne_nil hne
  have hskip : skipBlanks (b ++ s) = s := by
    rw [skipBlanks_append s fun d hd => hb d (List.mem_cons_of_mem c hd), skipBlanks_of_head hs]
  rw [List.cons_append, skipBlanks1?, if_pos (hb c List.mem_cons_self), hskip]

theorem skipBlanks1?_space {s : List Char} (hs : ∀ c, s.head? = some c → isBlank c = false) :
    skipBlanks1? (' ' :: s) = some s :=
  skipBlanks1?_append (b := [' ']) (by simp)
    (by simp [Blanks, show isBlank ' ' = true by decide]) hs

/-- A row of digits is read up to the first character that is none. -/
theorem digits?_append_of_head {n s : List Char} (hn : Digits n)
    (hs : ∀ c, s.head? = some c → isDigit c = false) : digits? (n ++ s) = some (n, s) := by
  have htake : s.takeWhile isDigit = [] := by
    cases s with
    | nil => rfl
    | cons c s => rw [List.takeWhile_cons_of_neg (by simp [hs c rfl])]
  have hdrop : s.dropWhile isDigit = s := by
    cases s with
    | nil => rfl
    | cons c s => rw [List.dropWhile_cons_of_neg (by simp [hs c rfl])]
  unfold digits?
  rw [List.takeWhile_append_of_pos hn.2, List.dropWhile_append_of_pos hn.2, htake, hdrop,
    List.append_nil]
  obtain ⟨d, n, rfl⟩ := List.exists_cons_of_ne_nil hn.1
  rfl

/-- Behind a row of digits stands none. -/
theorem isDigit_head_of_digits? {s n rest : List Char} (h : digits? s = some (n, rest)) :
    ∀ c, rest.head? = some c → isDigit c = false := by
  unfold digits? at h
  split at h
  · cases h
  · obtain ⟨-, rfl⟩ := Prod.mk.inj (Option.some.inj h)
    intro c hc
    have hhead := List.head?_dropWhile_not isDigit s
    rw [hc] at hhead
    simpa using hhead

theorem keyword_firm {word : List Char} (hw : word ≠ []) : Firm (keyword? word) := by
  intro s rest h
  obtain ⟨t, rfl, ht⟩ := dropFolded?_eq_some_iff.1 h
  refine ⟨t, ?_, rfl, fun rest' => dropFolded?_append rest' ht⟩
  rintro rfl
  exact hw (List.map_eq_nil_iff.1 ht.symm)

theorem symbol_firm (sign : Char) : Firm (symbol? sign) := by
  intro s rest h
  obtain rfl := symbol?_eq_some_iff.1 h
  exact ⟨[sign], List.cons_ne_nil _ _, rfl, fun rest' => symbol?_eq_some_iff.2 rfl⟩

theorem symbol_skipBlanks_firm {sign : Char} (hsign : isBlank sign = false) :
    Firm fun s => symbol? sign (skipBlanks s) := by
  intro s rest h
  obtain ⟨b, hb, rfl⟩ := symbol?_skipBlanks_eq_some h
  refine ⟨b ++ [sign], by simp, rfl, fun rest' => ?_⟩
  have hhead : skipBlanks (sign :: rest') = sign :: rest' :=
    skipBlanks_of_head fun c hc => by rwa [← Option.some.inj hc]
  simp only [List.append_assoc, skipBlanks_append _ hb, List.singleton_append, hhead,
    symbol?_eq_some_iff]

theorem skipBlanks1_steady : Steady skipBlanks1? := by
  intro s rest h
  obtain ⟨b, hne, hb, hs⟩ := skipBlanks1?_eq_some h
  have hhead : ∀ c, rest.head? = some c → isBlank c = false := by
    cases s with
    | nil => cases h
    | cons d s =>
      rw [skipBlanks1?] at h
      split at h
      · intro c hc
        obtain ⟨t, rfl⟩ := List.head?_eq_some_iff.1 hc
        exact isBlank_head_skipBlanks (Option.some.inj h)
      · cases h
  exact ⟨b, hs, fun rest' hrest => skipBlanks1?_append hne hb fun c hc => hhead c (hrest ▸ hc)⟩

/-- Of two keywords with different first letters one can be read where the other cannot. -/
theorem oneOf_keyword_firm {one other : String} (hne : one.toList ≠ [] ∧ other.toList ≠ [] ∧
    (one.toList.map fold).head? ≠ (other.toList.map fold).head?) :
    Firm (oneOf? (keyword? one.toList) (keyword? other.toList)) := by
  intro s rest h
  rcases Option.or_eq_some_iff.1 h with h | ⟨-, h⟩
  · obtain ⟨text, htext, hs, hread⟩ := keyword_firm hne.1 s rest h
    refine ⟨text, htext, hs, fun rest' => ?_⟩
    rw [oneOf?, hread, Option.some_or]
  · obtain ⟨text, htext, hs, hread⟩ := keyword_firm hne.2.1 s rest h
    refine ⟨text, htext, hs, fun rest' => ?_⟩
    have hother := keyword?_eq_none one ⟨hne.2.1, hne.1, hne.2.2.symm⟩ (hread rest')
    rw [oneOf?, hother, Option.none_or, hread]

/-- `ROW` is taken for itself where no `S` follows. -/
theorem rowsWord_steady : Steady rowsWord? := by
  have hrow : Firm (keyword? "row".toList) := keyword_firm (by decide)
  have hs : Firm (keyword? "s".toList) := keyword_firm (by decide)
  intro s rest h
  obtain ⟨s₁, h₁, h₂⟩ := Option.map_eq_some_iff.1 h
  obtain ⟨text, -, rfl, hread⟩ := hrow s s₁ h₁
  cases h₃ : keyword? "s".toList s₁ with
  | some s₂ =>
    rw [opt?, h₃, Option.getD_some] at h₂
    subst h₂
    obtain ⟨text₂, -, rfl, hread₂⟩ := hs s₁ s₂ h₃
    refine ⟨text ++ text₂, (List.append_assoc ..).symm, fun rest' _ => ?_⟩
    rw [rowsWord?, List.append_assoc, hread, Option.map_some, opt?, hread₂, Option.getD_some]
  | none =>
    rw [opt?, h₃, Option.getD_none] at h₂
    subst h₂
    refine ⟨text, rfl, fun rest' hrest => ?_⟩
    -- one letter is all that is looked at, so the first character decides
    have hnone : keyword? "s".toList rest' = none := by
      cases hr : keyword? "s".toList rest' with
      | none => rfl
      | some r =>
        obtain ⟨t, ht, rfl⟩ := keyword?_eq_some hr
        obtain ⟨c, t, rfl⟩ := List.exists_cons_of_ne_nil (ht.ne_nil (by decide))
        have hlen : t = [] := by
          have hlength := congrArg List.length ht
          rw [List.length_map, List.length_map, List.length_cons] at hlength
          exact List.eq_nil_of_length_eq_zero (Nat.succ.inj hlength)
        subst hlen
        obtain ⟨u, rfl⟩ := List.head?_eq_some_iff.1 hrest.symm
        have hsome : keyword? "s".toList ([c] ++ u) = some u := dropFolded?_append u ht
        rw [← List.singleton_append, hsome] at h₃
        cases h₃
    rw [rowsWord?, hread, Option.map_some, opt?, hnone, Option.getD_none]

/-! ## Several steps -/

/-- A firm step at the end, and a value from before. -/
theorem Firm.ended {f : List Char → Option (List Char)} (hf : Firm f) (a : α) :
    Ended fun s => (f s).bind fun s => some (a, s) := by
  intro s b rest h
  obtain ⟨s₁, h₁, h₂⟩ := Option.bind_eq_some_iff.1 h
  obtain ⟨rfl, rfl⟩ := Prod.mk.inj (Option.some.inj h₂)
  obtain ⟨text, hne, hs, hread⟩ := hf s _ h₁
  exact ⟨text, hne, hs, fun rest' => by simp only [hread, Option.bind_some]⟩

/-- A steady step in front: it sees the first character of what is read behind it. -/
theorem Ended.bind {f : List Char → Option (List Char)} {g : List Char → Option (α × List Char)}
    (hf : Steady f) (hg : Ended g) : Ended fun s => (f s).bind g := by
  intro s a rest h
  obtain ⟨s₁, h₁, h₂⟩ := Option.bind_eq_some_iff.1 h
  obtain ⟨text₁, rfl, hread₁⟩ := hf s s₁ h₁
  obtain ⟨text₂, hne, rfl, hread₂⟩ := hg s₁ a rest h₂
  refine ⟨text₁ ++ text₂, by simp [hne], (List.append_assoc ..).symm, fun rest' => ?_⟩
  obtain ⟨c, text₂, rfl⟩ := List.exists_cons_of_ne_nil hne
  have hstep := hread₁ (c :: text₂ ++ rest') rfl
  simp only [List.append_assoc, hstep, Option.bind_some, hread₂]

/-- Digits in front, of which the rest of the reading may make use. -/
theorem Ended.digits {g : List Char → List Char → Option (α × List Char)} (hg : ∀ n, Ended (g n)) :
    Ended fun s => (digits? s).bind fun r => g r.1 r.2 := by
  intro s a rest h
  obtain ⟨⟨n, s₁⟩, h₁, h₂⟩ := Option.bind_eq_some_iff.1 h
  obtain ⟨hn, rfl⟩ := digits?_eq_some h₁
  obtain ⟨text, hne, rfl, hread⟩ := hg n s₁ a rest h₂
  refine ⟨n ++ text, by simp [hne], (List.append_assoc ..).symm, fun rest' => ?_⟩
  obtain ⟨c, text, rfl⟩ := List.exists_cons_of_ne_nil hne
  have hdigits : digits? (n ++ (c :: text ++ rest')) = some (n, c :: text ++ rest') :=
    digits?_append_of_head hn fun d hd => isDigit_head_of_digits? h₁ d hd
  simp only [List.append_assoc, hdigits, Option.bind_some, hread]

/-- A condition in front. -/
theorem Ended.guard {p : Prop} [Decidable p] {g : List Char → Option (α × List Char)}
    (hg : Ended g) : Ended fun s => (guard p : Option Unit).bind fun _ => g s := by
  intro s a rest h
  obtain ⟨u, hp, h⟩ := Option.bind_eq_some_iff.1 h
  obtain ⟨text, hne, hs, hread⟩ := hg s a rest h
  exact ⟨text, hne, hs, fun rest' => by simp only [hp, Option.bind_some, hread]⟩

theorem enclosed1_ended {stops : List Char} {closing : Char} (hc : closing ∈ stops) :
    Ended (enclosed1? stops closing) := by
  intro s body rest h
  obtain ⟨hne, hbody, rfl⟩ := enclosed1?_eq_some hc h
  refine ⟨body ++ [closing], by simp, rfl, fun rest' => ?_⟩
  have hread : enclosed? stops closing (body ++ [closing] ++ rest') = some (body, rest') :=
    (enclosed?_eq_some_iff hc).2 ⟨by simp, hbody⟩
  simp only [enclosed1?, hread, Option.bind_eq_bind, Option.bind_some, List.isEmpty_iff, if_neg hne]

/-- Another value for what is read. -/
theorem Ended.map {β : Type} {g : List Char → Option (α × List Char)} (hg : Ended g) (f : α → β) :
    Ended fun s => (g s).bind fun r => some (f r.1, r.2) := by
  intro s b rest h
  obtain ⟨⟨a, s₁⟩, h₁, h₂⟩ := Option.bind_eq_some_iff.1 h
  obtain ⟨rfl, rfl⟩ := Prod.mk.inj (Option.some.inj h₂)
  obtain ⟨text, hne, hs, hread⟩ := hg s a s₁ h₁
  exact ⟨text, hne, hs, fun rest' => by simp only [hread, Option.bind_some]⟩

end SqlDialect.Scan

namespace SqlDialect.Query

open Scan Text

/-! ## Constructs -/

theorem tableHint_ended (before : Option Char) : Ended (tableHint before) :=
  .bind skipBlanks1_steady <| .bind (keyword_firm (by decide)).steady <|
  .bind (symbol_skipBlanks_firm (by decide)).steady <|
  (enclosed1_ended (by decide)).map fun _ => ()

theorem bracketedName_ended (before : Option Char) : Ended (bracketedName before) :=
  .bind (symbol_firm '[').steady (enclosed1_ended (by decide))

theorem newidCall_ended (before : Option Char) : Ended (newidCall before) :=
  .guard <| .bind (keyword_firm (by decide)).steady <|
  .bind (symbol_skipBlanks_firm (by decide)).steady <|
  (symbol_skipBlanks_firm (by decide)).ended ()

theorem openCall_ended {name : List Char} (hname : name ≠ []) (before : Option Char) :
    Ended (openCall name before) :=
  .guard <| .bind (keyword_firm hname).steady <| (symbol_skipBlanks_firm (by decide)).ended ()

theorem fetchClause_ended (before : Option Char) : Ended (fetchClause before) :=
  .bind skipBlanks1_steady <| .bind (keyword_firm (by decide)).steady <|
  .bind skipBlanks1_steady <| .digits fun _ => .bind skipBlanks1_steady <|
  .bind rowsWord_steady <| .bind skipBlanks1_steady <|
  .bind (keyword_firm (by decide)).steady <| .bind skipBlanks1_steady <|
  .bind (oneOf_keyword_firm (by decide)).steady <| .bind skipBlanks1_steady <|
  .digits fun _ => .bind skipBlanks1_steady <| .bind rowsWord_steady <|
  .bind skipBlanks1_steady <| (keyword_firm (by decide)).ended _

end SqlDialect.Query
