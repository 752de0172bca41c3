import SqlDialect.Proofs.Constructs

/-!
# Brackets, place by place

Names in brackets are found by a sweep from left to right, but what becomes of a bracket can be told
from the text on both sides of it: an opening one is written as a quote if the next sign is a
closing one, and the other way round, with something in between.

* `nameSigns`, `FreeBetween` — the signs around names, and two places with none of them between.
* `facing` — on one side of a place stands something without such a sign, and then a given one.
* `quoteFrom` — the text with its quotes, from what stands on either side of each place.
* `quoteBracketedNames_cons`, `quoteBracketedNames_name`, `quoteBracketedNames_append` — the steps
  of the sweep: over a character, a name, and a text without an opening bracket.
* `quoteBracketedNames_eq_quoteFrom` — the sweep writes this text. Where the sweep goes on, no
  bracket behind it still waits for its counterpart (`Settled`).
* `facing_drop_iff`, `facing_reverse_take_iff` — what stands on one side of a place, by the numbers
  of places.
* `Rule.bracketedNames_places` — so names are put between quotes by changing single characters.
-/

namespace SqlDialect.Query

open Scan

/-- The signs around names in one dialect or the other. None stands in a name between brackets. -/
def nameSigns : List Char := ['[', ']', '"']

/-- The text has no sign of names. -/
def SignFree (s : List Char) : Prop := ∀ c ∈ s, c ∉ nameSigns

instance (s : List Char) : Decidable (SignFree s) := List.decidableBAll _ s

theorem signFree_cons {c : Char} {s : List Char} :
    SignFree (c :: s) ↔ c ∉ nameSigns ∧ SignFree s := List.forall_mem_cons

/-! ## One side of a place -/

/-- The first sign in the text is the given one, and something stands before it. -/
def facing (sign : Char) (s : List Char) : Bool := (enclosed1? nameSigns sign s).isSome

theorem facing_iff {sign : Char} (hsign : sign ∈ nameSigns) {s : List Char} :
    facing sign s = true ↔ ∃ name rest, name ≠ [] ∧ s = name ++ sign :: rest ∧ SignFree name := by
  unfold facing
  rw [Option.isSome_iff_exists]
  constructor
  · rintro ⟨⟨name, rest⟩, h⟩
    exact ⟨name, rest, (enclosed1?_eq_some_iff hsign).1 h⟩
  · rintro ⟨name, rest, h⟩
    exact ⟨(name, rest), (enclosed1?_eq_some_iff hsign).2 h⟩

/-- A name in brackets is read where a bracket faces its counterpart. -/
theorem bracketedName_eq_some_iff {before : Option Char} {s name rest : List Char} :
    bracketedName before s = some (name, rest) ↔
      name ≠ [] ∧ s = '[' :: (name ++ ']' :: rest) ∧ SignFree name := by
  have hclosing : ']' ∈ nameSigns := by decide
  simp only [bracketedName, Option.bind_eq_bind, Option.bind_eq_some_iff, symbol?_eq_some_iff]
  constructor
  · rintro ⟨s, rfl, h⟩
    obtain ⟨hne, rfl, hfree⟩ := (enclosed1?_eq_some_iff hclosing).1 h
    exact ⟨hne, rfl, hfree⟩
  · rintro ⟨hne, rfl, hfree⟩
    exact ⟨_, rfl, (enclosed1?_eq_some_iff hclosing).2 ⟨hne, rfl, hfree⟩⟩

theorem facing_of_bracketedName {before : Option Char} {s : List Char}
    (h : bracketedName before ('[' :: s) = none) : facing ']' s = false := by
  have hread : bracketedName before ('[' :: s) = enclosed1? nameSigns ']' s := rfl
  unfold facing
  rw [← hread, h]
  rfl

/-! ## Steps of the sweep -/

theorem blind_bracketedName : Blind bracketedName := fun _ _ => rfl

/-- A character is kept, unless it is an opening bracket that faces a closing one. -/
theorem quoteBracketedNames_cons {c : Char} {s : List Char}
    (h : ¬(c = '[' ∧ facing ']' s = true)) :
    quoteBracketedNames (c :: s) = c :: quoteBracketedNames s := by
  refine blind_bracketedName.replaceAll_cons_of_miss (Option.eq_none_iff_forall_ne_some.2 ?_)
  rintro ⟨name, rest⟩ hread
  obtain ⟨hne, hs, hfree⟩ := bracketedName_eq_some_iff.1 hread
  obtain ⟨rfl, rfl⟩ := List.cons.inj hs
  exact h ⟨rfl, (facing_iff (by decide)).2 ⟨name, rest, hne, rfl, hfree⟩⟩

theorem quoteBracketedNames_name {name : List Char} (hne : name ≠ []) (h : SignFree name)
    (rest : List Char) : quoteBracketedNames ('[' :: (name ++ ']' :: rest)) =
      '"' :: (name ++ '"' :: quoteBracketedNames rest) := by
  have hread : bracketedName none ('[' :: (name ++ ']' :: rest)) = some (name, rest) :=
    bracketedName_eq_some_iff.2 ⟨hne, rfl, h⟩
  unfold quoteBracketedNames
  rw [blind_bracketedName.replaceAll_of_hit bracketedName_reads hread]
  simp

/-- A text without an opening bracket is kept. -/
theorem quoteBracketedNames_append {s : List Char} (h : '[' ∉ s) (t : List Char) :
    quoteBracketedNames (s ++ t) = s ++ quoteBracketedNames t := by
  induction s with
  | nil => rfl
  | cons c s ih =>
    rw [List.mem_cons, not_or] at h
    have hc : ¬(c = '[' ∧ facing ']' (s ++ t) = true) := fun hopen => h.1 hopen.1.symm
    rw [List.cons_append, quoteBracketedNames_cons hc, ih h.2, List.cons_append]

theorem quoteBracketedNames_of_not_mem {s : List Char} (h : '[' ∉ s) :
    quoteBracketedNames s = s := by
  have happend := quoteBracketedNames_append h []
  rwa [List.append_nil, show quoteBracketedNames [] = [] from rfl, List.append_nil] at happend

/-! ## The text with its quotes -/

/-- A character with `behind` before it, the nearest first, and `s` after it, as it is written. -/
def quoteAt (behind : List Char) (c : Char) (s : List Char) : Char :=
  if c = '[' ∧ facing ']' s = true ∨ c = ']' ∧ facing '[' behind = true then '"' else c

/-- The text from a place on, with `behind` before it, the nearest first. -/
def quoteFrom (behind : List Char) : List Char → List Char
  | [] => []
  | c :: s => quoteAt behind c s :: quoteFrom (c :: behind) s

/-- All that changes are brackets that face their counterparts. -/
theorem quoteAt_ne_iff {behind s : List Char} {c : Char} : quoteAt behind c s ≠ c ↔
    c = '[' ∧ facing ']' s = true ∨ c = ']' ∧ facing '[' behind = true := by
  unfold quoteAt
  split
  · rename_i h
    refine iff_of_true ?_ h
    rcases h with ⟨rfl, -⟩ | ⟨rfl, -⟩ <;> decide
  · rename_i h
    exact iff_of_false (fun hne => hne rfl) h

theorem quoteAt_of_not_mem {c : Char} (h : c ∉ nameSigns) (behind s : List Char) :
    quoteAt behind c s = c := by
  refine Classical.byContradiction fun hne => h ?_
  rcases quoteAt_ne_iff.1 hne with ⟨rfl, -⟩ | ⟨rfl, -⟩ <;> decide

theorem quoteFrom_append {name : List Char} (h : SignFree name) (behind s : List Char) :
    quoteFrom behind (name ++ s) = name ++ quoteFrom (name.reverse ++ behind) s := by
  induction name generalizing behind with
  | nil => rfl
  | cons c name ih =>
    obtain ⟨hc, hname⟩ := signFree_cons.1 h
    rw [List.cons_append, quoteFrom, quoteAt_of_not_mem hc, ih hname]
    simp

/-- A name between brackets. -/
theorem quoteFrom_name {name : List Char} (hne : name ≠ []) (h : SignFree name)
    (behind rest : List Char) :
    quoteFrom behind ('[' :: (name ++ ']' :: rest)) =
      '"' :: (name ++ '"' :: quoteFrom (']' :: (name.reverse ++ '[' :: behind)) rest) := by
  have hahead : facing ']' (name ++ ']' :: rest) = true :=
    (facing_iff (by decide)).2 ⟨name, rest, hne, rfl, h⟩
  have hbehind : facing '[' (name.reverse ++ '[' :: behind) = true :=
    (facing_iff (by decide)).2 ⟨name.reverse, behind, by simpa using hne, rfl, fun c hc =>
      h c (List.mem_reverse.1 hc)⟩
  rw [quoteFrom, quoteFrom_append h, quoteFrom]
  simp [quoteAt, hahead, hbehind]

/-- No opening bracket behind a place waits for a closing one from there on. -/
def Settled (behind s : List Char) : Prop :=
  ∀ n r w t, behind = n ++ '[' :: r → s = w ++ ']' :: t → SignFree n → SignFree w →
    n = [] ∧ w = []

/-- A character that is kept leaves no bracket waiting, if none waited before. -/
theorem Settled.cons {before : Option Char} {behind s : List Char} {c : Char}
    (h : Settled behind (c :: s)) (hmiss : bracketedName before (c :: s) = none) :
    Settled (c :: behind) s := by
  intro n r w t hn hw hnfree hwfree
  cases n with
  | nil =>
    obtain ⟨rfl, rfl⟩ := List.cons.inj hn
    refine ⟨rfl, Classical.byContradiction fun hne => ?_⟩
    rw [bracketedName_eq_some_iff.2 ⟨hne, by rw [hw], hwfree⟩] at hmiss
    cases hmiss
  | cons d n =>
    obtain ⟨rfl, rfl⟩ := List.cons.inj hn
    obtain ⟨hc, hnfree⟩ := signFree_cons.1 hnfree
    have hboth := h n r (c :: w) t rfl (by rw [hw]; rfl) hnfree (signFree_cons.2 ⟨hc, hwfree⟩)
    exact absurd hboth.2 (List.cons_ne_nil c w)

theorem Settled.closed (behind s : List Char) : Settled (']' :: behind) s := by
  intro n r w t hn _ hnfree _
  cases n with
  | nil => exact absurd (List.cons.inj hn).1 (by decide)
  | cons d n =>
    obtain ⟨rfl, -⟩ := List.cons.inj hn
    exact absurd (signFree_cons.1 hnfree).1 (by decide)

/-- A character that is kept is one that is written as it is. -/
theorem Settled.quoteAt_eq {before : Option Char} {behind s : List Char} {c : Char}
    (h : Settled behind (c :: s)) (hmiss : bracketedName before (c :: s) = none) :
    quoteAt behind c s = c := by
  refine Classical.byContradiction fun hchange => ?_
  rcases quoteAt_ne_iff.1 hchange with ⟨rfl, hahead⟩ | ⟨rfl, hbehind⟩
  · rw [facing_of_bracketedName hmiss] at hahead
    cases hahead
  · obtain ⟨name, rest, hne, rfl, hfree⟩ := (facing_iff (by decide)).1 hbehind
    exact hne (h name rest [] s rfl rfl hfree (fun _ hc => absurd hc List.not_mem_nil)).1

/-- The sweep writes the text with its quotes. -/
theorem quoteBracketedNames_eq_quoteFrom (s : List Char) :
    quoteBracketedNames s = quoteFrom [] s := by
  have hstart : Settled [] s := by
    intro n r w t hn
    exact absurd hn (by simp)
  unfold quoteBracketedNames replaceAll pieces
  refine piecesFrom_induction bracketedName_reads.scanned (motive := fun _ s ps => ∀ behind,
    Settled behind s → ps.flatMap (Piece.render fun name => '"' :: name ++ ['"']) =
      quoteFrom behind s) ?_ ?_ ?_ none s [] hstart
  · intro _ behind _
    rfl
  · intro before c s ps hmiss ih behind hsettled
    rw [List.flatMap_cons, ih _ (hsettled.cons hmiss), quoteFrom, hsettled.quoteAt_eq hmiss]
    rfl
  · intro before text name rest ps _ hread ih behind _
    obtain ⟨hne, htext, hfree⟩ := bracketedName_eq_some_iff.1 hread
    have hrest := ih (']' :: (name.reverse ++ '[' :: behind)) (.closed _ _)
    rw [htext, quoteFrom_name hne hfree, List.flatMap_cons, hrest]
    simp [Piece.render]

/-! ## Places -/

theorem length_quoteFrom (behind s : List Char) : (quoteFrom behind s).length = s.length := by
  induction s generalizing behind with
  | nil => rfl
  | cons c s ih => rw [quoteFrom, List.length_cons, ih, List.length_cons]

theorem getElem?_quoteFrom (behind s : List Char) (i : Nat) :
    (quoteFrom behind s)[i]? =
      s[i]?.map fun c => quoteAt ((s.take i).reverse ++ behind) c (s.drop (i + 1)) := by
  induction s generalizing behind i with
  | nil => rfl
  | cons c s ih =>
    cases i with
    | zero => simp [quoteFrom]
    | succ i => simp [quoteFrom, ih]

/-- No sign stands between the two places. -/
def FreeBetween (s : List Char) (i j : Nat) : Prop :=
  ∀ k c, i < k → k < j → s[k]? = some c → c ∉ nameSigns

/-- What a text starts with, by the numbers of its places. -/
theorem facing_iff_getElem? {sign : Char} (hsign : sign ∈ nameSigns) {s : List Char} :
    facing sign s = true ↔ ∃ j, 0 < j ∧ s[j]? = some sign ∧
      ∀ k c, k < j → s[k]? = some c → c ∉ nameSigns := by
  rw [facing_iff hsign]
  constructor
  · rintro ⟨name, rest, hne, rfl, hfree⟩
    refine ⟨name.length, List.length_pos_iff.2 hne, by simp, fun k c hk hc => hfree c ?_⟩
    rw [List.getElem?_append_left hk] at hc
    exact List.mem_of_getElem? hc
  · rintro ⟨j, hpos, hj, hfree⟩
    obtain ⟨hlt, hget⟩ := List.getElem?_eq_some_iff.1 hj
    refine ⟨s.take j, s.drop (j + 1), ?_, ?_, fun c hc => ?_⟩
    · exact List.length_pos_iff.1 (by rw [List.length_take]; omega)
    · rw [← hget, List.getElem_cons_drop, List.take_append_drop]
    · obtain ⟨k, hk, hkc⟩ := List.mem_iff_getElem.1 hc
      rw [List.length_take] at hk
      rw [List.getElem_take] at hkc
      exact hfree k c (by omega) (by rw [← hkc]; exact List.getElem?_eq_getElem _)

/-- What stands behind a place. -/
theorem facing_drop_iff {sign : Char} (hsign : sign ∈ nameSigns) (s : List Char) (i : Nat) :
    facing sign (s.drop (i + 1)) = true ↔
      ∃ j, i + 1 < j ∧ s[j]? = some sign ∧ FreeBetween s i j := by
  rw [facing_iff_getElem? hsign]
  simp only [List.getElem?_drop]
  constructor
  · rintro ⟨j, hpos, hj, hfree⟩
    refine ⟨i + 1 + j, by omega, hj, fun k c hik hkj hc => hfree (k - (i + 1)) c (by omega) ?_⟩
    rwa [show i + 1 + (k - (i + 1)) = k by omega]
  · rintro ⟨j, hij, hj, hfree⟩
    refine ⟨j - (i + 1), by omega, ?_, fun k c hk hc =>
      hfree (i + 1 + k) c (by omega) (by omega) hc⟩
    rwa [show i + 1 + (j - (i + 1)) = j by omega]

/-- What stands before a place, seen from there. -/
theorem facing_reverse_take_iff {sign : Char} (hsign : sign ∈ nameSigns) {s : List Char} {j : Nat}
    (hlt : j < s.length) : facing sign (s.take j).reverse = true ↔
      ∃ i, i + 1 < j ∧ s[i]? = some sign ∧ FreeBetween s i j := by
  have hplace : ∀ k, k < j → (s.take j).reverse[k]? = s[j - 1 - k]? := by
    intro k hk
    rw [List.getElem?_reverse (by rw [List.length_take]; omega), List.length_take,
      Nat.min_eq_left (by omega), List.getElem?_take_of_lt (by omega)]
  have hend : ∀ k c, (s.take j).reverse[k]? = some c → k < j := by
    intro k c hc
    have hk := (List.getElem?_eq_some_iff.1 hc).1
    rw [List.length_reverse, List.length_take] at hk
    omega
  rw [facing_iff_getElem? hsign]
  constructor
  · rintro ⟨i, hpos, hi, hfree⟩
    have hij := hend i sign hi
    rw [hplace i hij] at hi
    refine ⟨j - 1 - i, by omega, hi, fun k c hik hkj hc => hfree (j - 1 - k) c (by omega) ?_⟩
    rwa [hplace _ (by omega), show j - 1 - (j - 1 - k) = k by omega]
  · rintro ⟨i, hij, hi, hfree⟩
    refine ⟨j - 1 - i, by omega, ?_, fun k c hk hc => ?_⟩
    · rwa [hplace _ (by omega), show j - 1 - (j - 1 - i) = i by omega]
    · rw [hplace k (by omega)] at hc
      exact hfree (j - 1 - k) c (by omega) (by omega) hc

end SqlDialect.Query

namespace SqlDialect

open Query

/-- **Names are put between quotes place by place.** The text keeps its length, and all that changes
are brackets, which become double quotes. An opening bracket is changed exactly when the next sign
behind it, of brackets and double quotes, is a closing one with something in between; a closing
bracket exactly when the last sign before it is an opening one with something in between. -/
theorem Rule.bracketedNames_places (whole s : List Char) :
    (Rule.bracketedNames.apply whole s).length = s.length ∧
      (∀ i : Nat, (Rule.bracketedNames.apply whole s)[i]? ≠ s[i]? →
        (s[i]? = some '[' ∨ s[i]? = some ']') ∧
          (Rule.bracketedNames.apply whole s)[i]? = some '"') ∧
      (∀ i : Nat, s[i]? = some '[' → ((Rule.bracketedNames.apply whole s)[i]? ≠ s[i]? ↔
        ∃ j, i + 1 < j ∧ s[j]? = some ']' ∧ FreeBetween s i j)) ∧
      (∀ j : Nat, s[j]? = some ']' → ((Rule.bracketedNames.apply whole s)[j]? ≠ s[j]? ↔
        ∃ i, i + 1 < j ∧ s[i]? = some '[' ∧ FreeBetween s i j)) := by
  have hquote : Rule.bracketedNames.apply whole s = quoteFrom [] s :=
    quoteBracketedNames_eq_quoteFrom s
  have hat : ∀ (i : Nat) c, s[i]? = some c → (Rule.bracketedNames.apply whole s)[i]? =
      some (quoteAt (s.take i).reverse c (s.drop (i + 1))) := by
    intro i c hc
    rw [hquote, getElem?_quoteFrom, hc, List.append_nil]
    rfl
  refine ⟨by rw [hquote, length_quoteFrom], fun i hchange => ?_, fun i hi => ?_, fun j hj => ?_⟩
  · cases hc : s[i]? with
    | none =>
      rw [hquote, getElem?_quoteFrom, hc] at hchange
      exact absurd rfl hchange
    | some c =>
      rw [hat i c hc, hc, ne_eq, Option.some.injEq] at hchange
      have hfacing := quoteAt_ne_iff.1 hchange
      refine ⟨hfacing.imp (fun h => by rw [h.1]) fun h => by rw [h.1], ?_⟩
      rw [hat i c hc, quoteAt, if_pos hfacing]
  · rw [hat i '[' hi, hi, ne_eq, Option.some.injEq, ← facing_drop_iff (by decide), ← ne_eq,
      quoteAt_ne_iff]
    simp
  · have hlt := (List.getElem?_eq_some_iff.1 hj).1
    rw [hat j ']' hj, hj, ne_eq, Option.some.injEq, ← facing_reverse_take_iff (by decide) hlt,
      ← ne_eq, quoteAt_ne_iff]
    simp

/-- Of two brackets in a row the inner one is changed. -/
theorem Rule.bracketedNames_places_nested :
    "[[x]]".toList[1]? = some '[' ∧ FreeBetween "[[x]]".toList 1 3 ∧
      (Rule.bracketedNames.apply [] "[[x]]".toList)[1]? ≠ "[[x]]".toList[1]? := by
  have hfree : FreeBetween "[[x]]".toList 1 3 := by
    intro k c hlow hhigh hc
    obtain rfl : k = 2 := by omega
    obtain rfl : 'x' = c := Option.some.inj hc
    decide
  obtain ⟨-, -, hopening, -⟩ := Rule.bracketedNames_places [] "[[x]]".toList
  exact ⟨rfl, hfree, (hopening 1 rfl).2 ⟨3, by omega, rfl, hfree⟩⟩

end SqlDialect
