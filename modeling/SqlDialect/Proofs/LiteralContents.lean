import SqlDialect.Proofs.LiteralGaps

/-!
# What literals hold

Read from left to right, a text has literals, and between them gaps that are in no literal. A sum of
literals is looked for at every quote, so the rule for sums can take a literal for the gap between
two others.

* `literalContents` — what the literals of a text hold, with each doubled quote read as one.
* `readGaps`, `contentsFrom_eq_readGaps` — the same, read off the gaps between the quotes.
* `insides` — every second gap. Cut at their quotes, the contents are these gaps
  (`flatMap_gaps_of_readGaps`), and with the same ones the contents are the same
  (`SameReading.readGaps_eq`).
* `Rule.literalSums_contents_iff` — the rule for sums keeps what the literals hold exactly when no
  piece of them but the first and the last is a `+` among blanks; `Rule.literalSums_plus_literal` is
  a text where one is.
-/

namespace SqlDialect.Query

open Scan Text

/-! ## Reading literals -/

/-- What the literals hold from here on, or nothing if the last one is not closed. The first
argument is what was read of the literal that the place is in. -/
def contentsFrom : Option (List Char) → List Char → Option (List (List Char))
  | none, [] => some []
  | none, c :: s => if c = '\'' then contentsFrom (some []) s else contentsFrom none s
  | some _, [] => none
  | some body, '\'' :: '\'' :: s => contentsFrom (some (body ++ ['\''])) s
  | some body, c :: s =>
    if c = '\'' then (contentsFrom none s).map (body :: ·) else contentsFrom (some (body ++ [c])) s

/-- What the literals of a text hold, if all of them are closed. -/
def literalContents (s : List Char) : Option (List (List Char)) := contentsFrom none s

/-- The same, read off the gaps between the quotes. A gap with nothing in it and a quote on each
side is a doubled quote, if it stands in a literal. -/
def readGaps : Option (List Char) → List (List Char) → Option (List (List Char))
  | _, [] => none
  | none, [_] => some []
  | some _, [_] => none
  | none, _ :: x :: gs => readGaps (some []) (x :: gs)
  | some body, g :: [] :: x :: gs => readGaps (some (body ++ g ++ ['\''])) (x :: gs)
  | some body, g :: x :: gs => (readGaps none (x :: gs)).map ((body ++ g) :: ·)

section

variable {g : List Char} (hg : '\'' ∉ g)

include hg

theorem contentsFrom_none_append (s : List Char) :
    contentsFrom none (g ++ s) = contentsFrom none s := by
  induction g with
  | nil => rfl
  | cons c g ih =>
    rw [List.mem_cons, not_or] at hg
    rw [List.cons_append, contentsFrom, if_neg (Ne.symm hg.1), ih hg.2]

theorem contentsFrom_some_append (body s : List Char) :
    contentsFrom (some body) (g ++ s) = contentsFrom (some (body ++ g)) s := by
  induction g generalizing body with
  | nil => rw [List.append_nil, List.nil_append]
  | cons c g ih =>
    rw [List.mem_cons, not_or] at hg
    rw [List.cons_append, contentsFrom, if_neg (Ne.symm hg.1), ih hg.2, List.append_assoc]
    · rfl
    · rintro _ rfl
      exact absurd rfl hg.1

end

/-- A quote that no other one follows ends a literal. -/
theorem contentsFrom_some_quote {s : List Char} (hs : s.head? ≠ some '\'') (body : List Char) :
    contentsFrom (some body) ('\'' :: s) = (contentsFrom none s).map (body :: ·) := by
  rw [contentsFrom, if_pos rfl]
  rintro t - rfl
  exact hs rfl

/-- Reading the text is reading its gaps. -/
theorem contentsFrom_eq_readGaps (body : Option (List Char)) (s : List Char) :
    contentsFrom body s = readGaps body (gaps s) := by
  generalize hgs : gaps s = gs
  fun_induction readGaps body gs generalizing s with
  | case1 => exact absurd hgs (gaps_ne_nil s)
  | case2 g =>
    obtain ⟨rfl, hg⟩ := eq_of_gaps_eq_singleton hgs
    have hend := contentsFrom_none_append hg []
    rw [List.append_nil] at hend
    exact hend
  | case3 body g =>
    obtain ⟨rfl, hg⟩ := eq_of_gaps_eq_singleton hgs
    have hend := contentsFrom_some_append hg body []
    rw [List.append_nil] at hend
    exact hend
  | case4 g x gs ih =>
    obtain ⟨t, rfl, hg, ht⟩ := exists_of_gaps_eq_cons hgs (by simp)
    rw [contentsFrom_none_append hg, contentsFrom, if_pos rfl, ih t ht]
  | case5 body g x gs ih =>
    -- an empty gap with a quote behind it: the quote is doubled
    obtain ⟨t, rfl, hg, ht⟩ := exists_of_gaps_eq_cons hgs (by simp)
    obtain ⟨u, rfl, -, hu⟩ := exists_of_gaps_eq_cons ht (by simp)
    rw [contentsFrom_some_append hg, List.nil_append, contentsFrom, ih u hu]
  | case6 body g x gs hne ih =>
    obtain ⟨t, rfl, hg, ht⟩ := exists_of_gaps_eq_cons hgs (by simp)
    have hhead : t.head? ≠ some '\'' := by
      intro hquote
      obtain ⟨u, rfl⟩ := List.head?_eq_some_iff.1 hquote
      have hcut : gaps ('\'' :: u) = [] :: gaps u := gaps_append_quote [] u
      rw [hcut] at ht
      obtain ⟨rfl, hu⟩ := List.cons.inj ht
      obtain ⟨y, ys, hcons⟩ := List.exists_cons_of_ne_nil (gaps_ne_nil u)
      rw [hcons] at hu
      exact hne y ys rfl hu.symm
    rw [contentsFrom_some_append hg, contentsFrom_some_quote hhead, ih t ht]

/-! ## Gaps within literals -/

/-- Every second gap; the flag says whether the first one is taken. -/
def insides : Bool → List (List Char) → List (List Char)
  | _, [] => []
  | true, g :: gs => g :: insides false gs
  | false, _ :: gs => insides true gs

/-- There is a gap behind the last literal; the flag says whether the first gap is in one. -/
inductive Closed : Bool → List (List Char) → Prop where
  | last (g : List Char) : Closed false [g]
  | outside (g : List Char) {gs : List (List Char)} (h : Closed true gs) : Closed false (g :: gs)
  | inside (g : List Char) {gs : List (List Char)} (h : Closed false gs) : Closed true (g :: gs)

/-- Outside of literals there is the end, or a literal and then the same again. -/
theorem Closed.outside_cases {gs : List (List Char)} (h : Closed false gs) :
    (∃ g, gs = [g]) ∨ ∃ g x rest, gs = g :: x :: rest ∧ Closed false rest := by
  cases h with
  | last g => exact .inl ⟨g, rfl⟩
  | outside g h =>
    cases h with
    | inside x h => exact .inr ⟨g, x, _, rfl, h⟩

theorem Closed.two_le_length {gs : List (List Char)} (h : Closed true gs) : 2 ≤ gs.length := by
  cases h with
  | inside g h =>
    cases h with
    | last => simp
    | outside => simp

/-- Literals can be read to the end only if the last one is closed. -/
theorem closed_of_readGaps {body : Option (List Char)} {gs contents : List (List Char)}
    (h : readGaps body gs = some contents) : Closed body.isSome gs := by
  fun_induction readGaps body gs generalizing contents with
  | case1 => cases h
  | case2 g => exact .last g
  | case3 => cases h
  | case4 g x gs ih => exact .outside g (ih h)
  | case5 body g x gs ih => exact .inside g (.outside [] (ih h))
  | case6 body g x gs hne ih =>
    obtain ⟨rest, hrest, -⟩ := Option.map_eq_some_iff.1 h
    exact .inside g (ih hrest)

/-- A gap behind a quote at the end of a text is its last gap. -/
theorem gaps_append_of_not_mem {body g : List Char} {done : List (List Char)}
    (hbody : gaps body = done ++ [[]]) (hg : '\'' ∉ g) : gaps (body ++ g) = done ++ [g] := by
  by_cases hne : done = []
  · subst hne
    obtain ⟨rfl, -⟩ := eq_of_gaps_eq_singleton hbody
    exact gaps_of_not_mem hg
  · obtain ⟨u, v, rfl, rfl, hv⟩ := exists_of_gaps_eq_append hbody hne (by simp)
    obtain ⟨rfl, -⟩ := eq_of_gaps_eq_singleton hv
    rw [List.append_assoc]
    exact (gaps_append_quote u g).trans (by rw [gaps_of_not_mem hg])

/-- Cut at their quotes, the contents are the gaps in literals. Those of the literal that the place
is in are `done`. -/
theorem flatMap_gaps_of_readGaps {body : Option (List Char)} {gs contents done : List (List Char)}
    (hgs : ∀ g ∈ gs, '\'' ∉ g) (hnone : body = none → done = [])
    (hsome : ∀ text, body = some text → gaps text = done ++ [[]])
    (h : readGaps body gs = some contents) :
    contents.flatMap gaps = done ++ insides body.isSome gs := by
  fun_induction readGaps body gs generalizing contents done with
  | case1 => cases h
  | case2 g =>
    cases h
    rw [hnone rfl]
    rfl
  | case3 => cases h
  | case4 g x gs ih =>
    have hdone := hnone rfl
    refine ih (fun k hk => hgs k (List.mem_cons_of_mem g hk)) (fun hbody => by cases hbody) ?_ h
    rintro _ ⟨⟩
    rw [hdone]
    exact gaps_of_not_mem List.not_mem_nil
  | case5 body g x gs ih =>
    have hquote : gaps (body ++ g ++ ['\'']) = done ++ [g] ++ [[]] := by
      rw [gaps_append_quote, gaps_append_of_not_mem (hsome body rfl) (hgs g (by simp)),
        gaps_of_not_mem List.not_mem_nil]
    have hrest := ih (fun k hk => hgs k (by simp [hk])) (fun hbody => by cases hbody)
      (by rintro _ ⟨⟩; exact hquote) h
    rw [hrest, List.append_assoc]
    rfl
  | case6 body g x gs hne ih =>
    obtain ⟨rest, hrest, rfl⟩ := Option.map_eq_some_iff.1 h
    have hflat := ih (fun k hk => hgs k (List.mem_cons_of_mem g hk)) (fun _ => rfl)
      (fun _ hbody => by cases hbody) hrest
    rw [List.flatMap_cons, gaps_append_of_not_mem (hsome body rfl) (hgs g (by simp)), hflat,
      List.append_assoc]
    rfl

/-- The same gaps in literals, and outside of them gaps that are empty together. -/
inductive SameReading : Bool → List (List Char) → List (List Char) → Prop where
  | nil (inside : Bool) : SameReading inside [] []
  | outside {g g' : List Char} {gs gs' : List (List Char)} (hempty : g = [] ↔ g' = [])
      (h : SameReading true gs gs') : SameReading false (g :: gs) (g' :: gs')
  | inside (g : List Char) {gs gs' : List (List Char)} (h : SameReading false gs gs') :
      SameReading true (g :: gs) (g :: gs')

/-- What the literals hold depends on nothing else. -/
theorem SameReading.readGaps_eq {body : Option (List Char)} {gs gs' : List (List Char)}
    (h : SameReading body.isSome gs gs') : readGaps body gs = readGaps body gs' := by
  fun_induction readGaps body gs generalizing gs' with
  | case1 body =>
    generalize body.isSome = inside at h
    cases h
    rfl
  | case2 g =>
    cases h with
    | outside _ h =>
      cases h
      rfl
  | case3 body g =>
    cases h with
    | inside _ h =>
      cases h
      rfl
  | case4 g x gs ih =>
    cases h with
    | outside _ h =>
      rw [ih h]
      cases h
      rfl
  | case5 body g x gs ih =>
    cases h with
    | inside _ h =>
      cases h with
      | outside hempty h =>
        obtain rfl := hempty.1 rfl
        rw [ih h]
        cases h
        rfl
  | case6 body g x gs hne ih =>
    cases h with
    | inside _ h =>
      rw [ih h]
      cases h with
      | @outside _ x' _ gs' hempty h =>
        rw [readGaps]
        -- no doubled quote here either
        rintro y ys hx rfl
        cases h
        exact hne _ _ (hempty.2 hx) rfl

/-! ## Joined gaps -/

theorem joinGap_eq_nil_iff {g : List Char} : joinGap g = [] ↔ g = [] := by
  unfold joinGap
  split
  · rename_i hg
    have hne : g ≠ [] := by
      rintro rfl
      cases hg
    exact ⟨fun h => absurd h (by decide), fun h => absurd h hne⟩
  · exact Iff.rfl

/-- The joined gaps read the same if those in literals stay. -/
theorem Closed.sameReading_joinFront {inside : Bool} {gs : List (List Char)} (h : Closed inside gs)
    (hinsides : insides inside (joinFront gs) = insides inside gs) :
    SameReading inside (joinFront gs) gs := by
  induction h with
  | last g => exact .outside Iff.rfl (.nil true)
  | outside g h ih =>
    rw [joinFront_cons h.two_le_length] at hinsides ⊢
    exact .outside joinGap_eq_nil_iff (ih hinsides)
  | inside g h ih =>
    obtain ⟨x, rfl⟩ | ⟨x, y, rest, rfl, -⟩ := h.outside_cases
    · exact .inside g (.outside Iff.rfl (.nil true))
    · rw [joinFront_cons (by simp)] at hinsides ⊢
      obtain ⟨hg, hrest⟩ := List.cons.inj hinsides
      rw [hg]
      exact .inside g (ih hrest)

/-- The gaps in literals stay if all but the last one are something else than a `+`. -/
theorem Closed.insides_joinFront_eq_iff {inside : Bool} {gs : List (List Char)}
    (h : Closed inside gs) :
    insides inside (joinFront gs) = insides inside gs ↔
      ∀ g ∈ (insides inside gs).dropLast, isPlus g = false := by
  induction h with
  | last g => exact ⟨fun _ _ hmem => absurd hmem List.not_mem_nil, fun _ => rfl⟩
  | outside g h ih =>
    rw [joinFront_cons h.two_le_length]
    exact ih
  | inside g h ih =>
    obtain ⟨x, rfl⟩ | ⟨x, y, rest, rfl, -⟩ := h.outside_cases
    · exact ⟨fun _ _ hmem => absurd hmem List.not_mem_nil, fun _ => rfl⟩
    · have hlast : (insides true (g :: x :: y :: rest)).dropLast =
          g :: (insides false (x :: y :: rest)).dropLast := rfl
      rw [joinFront_cons (by simp), hlast, List.forall_mem_cons, ← ih, ← joinGap_eq_self_iff]
      exact List.cons_eq_cons

/-- The same for the gaps of a whole text, of which the first literal starts one more. -/
theorem Closed.sameReading_joinGaps {gs : List (List Char)} (h : Closed false gs)
    (hinsides : insides false (joinGaps gs) = insides false gs) :
    SameReading false (joinGaps gs) gs := by
  obtain ⟨g, rfl⟩ | ⟨g, x, rest, rfl, hrest⟩ := h.outside_cases
  · exact .outside Iff.rfl (.nil true)
  · have hjoin := (List.cons.inj hinsides).2
    exact .outside Iff.rfl (.inside x (hrest.sameReading_joinFront hjoin))

theorem Closed.insides_joinGaps_eq_iff {gs : List (List Char)} (h : Closed false gs) :
    insides false (joinGaps gs) = insides false gs ↔
      ∀ g ∈ ((insides false gs).drop 1).dropLast, isPlus g = false := by
  obtain ⟨g, rfl⟩ | ⟨g, x, rest, rfl, hrest⟩ := h.outside_cases
  · exact ⟨fun _ _ hmem => absurd hmem List.not_mem_nil, fun _ => rfl⟩
  · have hpieces : ((insides false (g :: x :: rest)).drop 1).dropLast =
        (insides false rest).dropLast := rfl
    rw [hpieces, ← hrest.insides_joinFront_eq_iff]
    exact List.cons_inj_right x

/-- The gaps of a text have no quotes. -/
theorem not_mem_of_mem_gaps {s g : List Char} (h : g ∈ gaps s) : '\'' ∉ g := by
  induction s using quotes_induction with
  | last u hu =>
    rw [gaps_of_not_mem hu, List.mem_singleton] at h
    exact h ▸ hu
  | quote u v hu ih =>
    rw [gaps_append_quote, gaps_of_not_mem hu] at h
    rcases List.mem_cons.1 h with rfl | h
    · exact hu
    · exact ih h

theorem literalContents_eq_readGaps (s : List Char) : literalContents s = readGaps none (gaps s) :=
  contentsFrom_eq_readGaps none s

theorem closed_of_literalContents {s : List Char} {contents : List (List Char)}
    (h : literalContents s = some contents) : Closed false (gaps s) := by
  rw [literalContents_eq_readGaps] at h
  exact closed_of_readGaps h

/-- Cut at their quotes, the contents are every second gap of the text. -/
theorem flatMap_gaps_of_literalContents {s : List Char} {contents : List (List Char)}
    (h : literalContents s = some contents) :
    contents.flatMap gaps = insides false (gaps s) := by
  rw [literalContents_eq_readGaps] at h
  exact flatMap_gaps_of_readGaps (fun _ => not_mem_of_mem_gaps) (fun _ => rfl)
    (fun _ hbody => by cases hbody) h

/-- The contents stay if the gaps in literals do, and only then. -/
theorem literalContents_concatLiterals_iff {s : List Char} {contents : List (List Char)}
    (h : literalContents s = some contents) :
    literalContents (concatLiterals s) = some contents ↔
      insides false (joinGaps (gaps s)) = insides false (gaps s) := by
  constructor
  · intro hkept
    rw [← gaps_concatLiterals, ← flatMap_gaps_of_literalContents hkept,
      ← flatMap_gaps_of_literalContents h]
  · intro hinsides
    have hsame : SameReading (none : Option (List Char)).isSome (joinGaps (gaps s)) (gaps s) :=
      (closed_of_literalContents h).sameReading_joinGaps hinsides
    rw [← h, literalContents_eq_readGaps, literalContents_eq_readGaps, gaps_concatLiterals]
    exact hsame.readGaps_eq

end SqlDialect.Query

namespace SqlDialect

open Query Scan Text

/-- **What the rule for sums does to literals.** Take a text whose literals are closed, and cut what
they hold at its quotes. The rule keeps the contents of all literals exactly when none of these
pieces, apart from the first and the last one of the text, is a `+` among blanks. -/
theorem Rule.literalSums_contents_iff (whole s : List Char) {contents : List (List Char)}
    (h : literalContents s = some contents) :
    literalContents (Rule.literalSums.apply whole s) = some contents ↔
      ∀ piece ∈ ((contents.flatMap gaps).drop 1).dropLast, isPlus piece = false := by
  have hclosed : Closed false (gaps s) := closed_of_literalContents h
  change literalContents (concatLiterals s) = some contents ↔ _
  rw [literalContents_concatLiterals_iff h, hclosed.insides_joinGaps_eq_iff,
    flatMap_gaps_of_literalContents h]

theorem Rule.literalSums_contents_kept :
    literalContents (Rule.literalSums.apply [] "'+' + 'a''+b' + '+'".toList) =
      some ["+".toList, "a'+b".toList, "+".toList] := by
  have hcontents : literalContents "'+' + 'a''+b' + '+'".toList =
      some ["+".toList, "a'+b".toList, "+".toList] := by decide
  exact (Rule.literalSums_contents_iff [] _ hcontents).2 (by decide)

/-- A literal that holds a `+` and stands between two others is taken for the sign of a sum. -/
theorem Rule.literalSums_plus_literal :
    literalContents "SELECT 'a', '+', 'b'".toList =
        some ["a".toList, "+".toList, "b".toList] ∧
      literalContents (Rule.literalSums.apply [] "SELECT 'a', '+', 'b'".toList) =
        some ["a".toList, " || ".toList, "b".toList] := by
  decide

end SqlDialect
