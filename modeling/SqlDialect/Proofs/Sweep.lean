import Mathlib.Logic.Function.Iterate
import SqlDialect.Scan.Sweep

/-!
# Induction over a sweep

* `Reads` — what a scanner reads: some characters of a given shape, at least one, and then the rest.
* `piecesFrom_induction` — the induction principle of a sweep: a fact holds of a swept text if it
  holds of the empty one, carries over a kept character and carries over a construct.
* `exists_shape_of_mem_hits` — whatever a sweep finds is of the shape that the scanner reads.
* `occurs_iff_readable` — the sweep finds a construct exactly when one can be read at some place.
* `piecesFrom_cut` — a sweep is two sweeps where no construct reaches across.
* `replaceAll_invariant`, `replaceAll_keeps`, `count_replaceAll`, `replaceAll_add_count` — what a
  sweep keeps, and what it counts up and down, from what one construct does.
* `settle_induction`, `settle_settled`, `settle_eq_iterate` — what one turn keeps, the turns of
  `settle` keep, with enough turns the text comes to rest, and no turn is taken in vain.
-/

namespace SqlDialect.Scan

variable {α : Type} {scan : Scanner α}

/-- Whatever the scanner reads stands at the start of the text, is not empty and is of the given
shape. The shape may speak of the character before it and of the rest behind it. -/
def Reads (scan : Scanner α) (Shape : Option Char → List Char → α → List Char → Prop) : Prop :=
  ∀ before s a rest, scan before s = some (a, rest) →
    ∃ text, text ≠ [] ∧ s = text ++ rest ∧ Shape before text a rest

/-- Induction along a sweep, from its end. -/
theorem piecesFrom_induction {Shape : Option Char → List Char → α → List Char → Prop}
    (hscan : Reads scan Shape) {motive : Option Char → List Char → List (Piece α) → Prop}
    (nil : ∀ before, motive before [] [])
    (keep : ∀ before c s ps, scan before (c :: s) = none → motive (some c) s ps →
      motive before (c :: s) (.keep c :: ps))
    (hit : ∀ before text a rest ps, text ≠ [] → Shape before text a rest →
      motive text.getLast? rest ps → motive before (text ++ rest) (.hit a :: ps)) :
    ∀ (before : Option Char) (s : List Char), motive before s (piecesFrom scan 0 before s)
  | before, [] => by rw [piecesFrom]; exact nil before
  | before, c :: s => by
    cases hs : scan before (c :: s) with
    | none =>
      rw [piecesFrom_of_miss hs]
      exact keep before c s _ hs (piecesFrom_induction hscan nil keep hit (some c) s)
    | some r =>
      obtain ⟨a, rest⟩ := r
      obtain ⟨text, hne, heq, hshape⟩ := hscan _ _ _ _ hs
      obtain ⟨d, text, rfl⟩ := List.exists_cons_of_ne_nil hne
      have hlen : rest.length < (c :: s).length := by
        rw [heq, List.length_append, List.length_cons]
        omega
      rw [heq] at hs ⊢
      rw [piecesFrom_of_hit hs]
      exact hit _ _ _ _ _ hne hshape
        (piecesFrom_induction hscan nil keep hit (d :: text).getLast? rest)
termination_by _ s => s.length
decreasing_by
  · exact Nat.lt_succ_self s.length
  · exact hlen

/-- Each construct that a sweep finds is of the shape that the scanner reads. -/
theorem exists_shape_of_mem_hits {Shape : Option Char → List Char → α → List Char → Prop}
    (hscan : Reads scan Shape) {s : List Char} {a : α} (h : a ∈ hits scan s) :
    ∃ before text rest, Shape before text a rest := by
  have hall : ∀ a ∈ hits scan s, ∃ before text rest, Shape before text a rest := by
    unfold hits pieces
    refine piecesFrom_induction hscan (motive := fun _ _ ps => ∀ a ∈ ps.filterMap Piece.value?,
      ∃ before text rest, Shape before text a rest) ?_ ?_ ?_ none s
    · intro _ a ha
      cases ha
    · intro _ c s ps _ ih
      exact ih
    · intro before text b rest ps _ hshape ih a ha
      rcases List.mem_cons.1 ha with rfl | ha
      · exact ⟨before, text, rest, hshape⟩
      · exact ih a ha
  exact hall a h

/-! ## Places -/

/-- The construct can be read at some place of the text. -/
def Readable (scan : Scanner α) (s : List Char) : Prop :=
  ∃ a b, s = a ++ b ∧ (scan a.getLast? b).isSome = true

theorem getLast?_cons_or (c : Char) (s : List Char) (before : Option Char) :
    (c :: s).getLast?.or before = s.getLast?.or (some c) := by
  rw [List.getLast?_cons]
  cases s.getLast? <;> rfl

/-- A sweep that starts behind `before` finds something exactly when something can be read. -/
theorem hits_piecesFrom_ne_nil_iff (scan : Scanner α) (before : Option Char) (s : List Char) :
    (piecesFrom scan 0 before s).filterMap Piece.value? ≠ [] ↔
      ∃ a c b, s = a ++ c :: b ∧ (scan (a.getLast?.or before) (c :: b)).isSome = true := by
  induction s generalizing before with
  | nil => simp [piecesFrom]
  | cons c s ih =>
    cases hs : scan before (c :: s) with
    | some r =>
      have hl : (piecesFrom scan 0 before (c :: s)).filterMap Piece.value? ≠ [] := by
        simp [piecesFrom, hs, Piece.value?]
      exact ⟨fun _ => ⟨[], c, s, rfl, by simp [hs]⟩, fun _ => hl⟩
    | none =>
      rw [piecesFrom_of_miss hs, List.filterMap_cons]
      simp only [Piece.value?]
      rw [ih (some c)]
      constructor
      · rintro ⟨a, d, b, rfl, h⟩
        exact ⟨c :: a, d, b, rfl, by rw [getLast?_cons_or]; exact h⟩
      · rintro ⟨a, d, b, heq, h⟩
        cases a with
        | nil =>
          obtain ⟨rfl, rfl⟩ := List.cons.inj heq
          simp [hs] at h
        | cons e a =>
          obtain ⟨rfl, rfl⟩ := List.cons.inj heq
          rw [getLast?_cons_or] at h
          exact ⟨a, d, b, rfl, h⟩

/-- A sweep finds a construct exactly when one can be read at some place. -/
theorem occurs_iff_readable {Shape : Option Char → List Char → α → List Char → Prop}
    (hscan : Reads scan Shape) (s : List Char) : occurs scan s = true ↔ Readable scan s := by
  rw [← Bool.not_eq_false, not_occurs_iff]
  unfold hits pieces
  rw [← ne_eq, hits_piecesFrom_ne_nil_iff]
  constructor
  · rintro ⟨a, c, b, rfl, h⟩
    exact ⟨a, c :: b, rfl, by simpa using h⟩
  · rintro ⟨a, b, rfl, h⟩
    obtain ⟨⟨v, rest⟩, hr⟩ := Option.isSome_iff_exists.1 h
    obtain ⟨text, ht, rfl, -⟩ := hscan _ _ _ _ hr
    obtain ⟨c, text, rfl⟩ := List.exists_cons_of_ne_nil ht
    exact ⟨a, c, text ++ rest, rfl, by simpa using h⟩

/-! ## Cuts -/

/-- A scanner reads what it reads. -/
theorem Reads.scanned {Shape : Option Char → List Char → α → List Char → Prop}
    (hscan : Reads scan Shape) :
    Reads scan fun before text a rest => scan before (text ++ rest) = some (a, rest) := by
  intro before s a rest h
  obtain ⟨text, hne, rfl, -⟩ := hscan _ _ _ _ h
  exact ⟨text, hne, rfl, h⟩

/-- A sweep can be cut in two where no construct reaches across: what is read before the cut is read
without a look behind it. -/
theorem piecesFrom_cut {Shape : Option Char → List Char → α → List Char → Prop}
    (hscan : Reads scan Shape) {before : Option Char} {x y : List Char}
    (h : ∀ front back, x = front ++ back → back ≠ [] →
      scan (front.getLast?.or before) (back ++ y) =
        (scan (front.getLast?.or before) back).map fun r => (r.1, r.2 ++ y)) :
    piecesFrom scan 0 before (x ++ y) =
      piecesFrom scan 0 before x ++ piecesFrom scan 0 (x.getLast?.or before) y := by
  revert h
  refine piecesFrom_induction hscan.scanned (motive := fun before x ps =>
    (∀ front back, x = front ++ back → back ≠ [] →
      scan (front.getLast?.or before) (back ++ y) =
        (scan (front.getLast?.or before) back).map fun r => (r.1, r.2 ++ y)) →
    piecesFrom scan 0 before (x ++ y) = ps ++ piecesFrom scan 0 (x.getLast?.or before) y)
    ?_ ?_ ?_ before x
  · intro before _
    rfl
  · intro before c s ps hmiss ih h
    have hread := h [] (c :: s) rfl (List.cons_ne_nil c s)
    rw [List.getLast?_nil, Option.none_or, hmiss, List.cons_append] at hread
    rw [List.cons_append, piecesFrom_of_miss hread, getLast?_cons_or, ih]
    · rfl
    · intro front back hs hne
      have hback := h (c :: front) back (by rw [hs, List.cons_append]) hne
      rwa [getLast?_cons_or] at hback
  · intro before text a rest ps hne hread ih h
    obtain ⟨c, text, rfl⟩ := List.exists_cons_of_ne_nil hne
    have hlonger := h [] (c :: text ++ rest) rfl (by simp)
    rw [List.getLast?_nil, Option.none_or, hread, List.append_assoc] at hlonger
    have hbehind : ∀ front : List Char, ((c :: text ++ front).getLast?).or before =
        front.getLast?.or (c :: text).getLast? := by
      intro front
      rw [List.getLast?_append, Option.or_assoc, List.getLast?_cons, Option.some_or]
    rw [List.append_assoc, piecesFrom_of_hit hlonger, hbehind, ih]
    · rfl
    · intro front back hs hback
      have hcut := h (c :: text ++ front) back (by rw [hs, List.append_assoc]) hback
      rwa [hbehind] at hcut

/-! ## Writing anew -/

/-- A scanner that tells more about the same constructs writes them as well. -/
theorem replaceAll_of_map {β : Type} {fine : Scanner β} {f : β → α}
    (h : ∀ before s, scan before s = (fine before s).map fun r => (f r.1, r.2))
    (write : α → List Char) (s : List Char) :
    replaceAll scan write s = replaceAll fine (fun b => write (f b)) s := by
  have hpieces : ∀ pending before, (piecesFrom scan pending before s).flatMap (Piece.render write) =
      (piecesFrom fine pending before s).flatMap (Piece.render fun b => write (f b)) := by
    induction s with
    | nil => exact fun _ _ => by simp [piecesFrom]
    | cons c s ih =>
      intro pending before
      cases pending with
      | succ pending => exact ih pending (some c)
      | zero =>
        rw [piecesFrom, piecesFrom, h]
        cases fine before (c :: s) with
        | none => exact congrArg ([c] ++ ·) (ih 0 (some c))
        | some r => exact congrArg (write (f r.1) ++ ·) (ih _ (some c))
  exact hpieces 0 none

section

variable {Shape : Option Char → List Char → α → List Char → Prop} {write : α → List Char}

/-- A scanner that does not look at the character before it. -/
def Blind (scan : Scanner α) : Prop := ∀ before s, scan before s = scan none s

theorem Blind.piecesFrom_eq (h : Blind scan) (before : Option Char) (s : List Char) :
    piecesFrom scan 0 before s = piecesFrom scan 0 none s := by
  cases s with
  | nil => rfl
  | cons c s => rw [piecesFrom, piecesFrom, h before]

theorem Blind.replaceAll_cons_of_miss (h : Blind scan) {c : Char} {s : List Char}
    (hmiss : scan none (c :: s) = none) :
    replaceAll scan write (c :: s) = c :: replaceAll scan write s := by
  unfold replaceAll pieces
  rw [piecesFrom_of_miss hmiss, h.piecesFrom_eq (some c)]
  rfl

theorem Blind.replaceAll_of_hit (h : Blind scan) (hscan : Reads scan Shape) {s rest : List Char}
    {a : α} (hread : scan none s = some (a, rest)) :
    replaceAll scan write s = write a ++ replaceAll scan write rest := by
  obtain ⟨text, hne, rfl, -⟩ := hscan _ _ _ _ hread
  obtain ⟨c, text, rfl⟩ := List.exists_cons_of_ne_nil hne
  unfold replaceAll pieces
  rw [piecesFrom_of_hit hread, h.piecesFrom_eq (c :: text).getLast?]
  rfl

/-- What does not change when one construct is written anew does not change in a sweep. -/
theorem replaceAll_invariant {β : Type} (hscan : Reads scan Shape) (f : List Char → β)
    (h : ∀ before text a rest, Shape before text a rest → ∀ front back,
      f (front ++ (write a ++ back)) = f (front ++ (text ++ back))) (s : List Char) :
    f (replaceAll scan write s) = f s := by
  -- the text before the place is already written anew, so it is arbitrary
  refine piecesFrom_induction hscan (motive := fun _ s ps => ∀ front,
    f (front ++ ps.flatMap (Piece.render write)) = f (front ++ s)) ?_ ?_ ?_ none s []
  · intro _ front
    rfl
  · intro _ c s ps _ ih front
    have hc := ih (front ++ [c])
    rw [List.append_assoc, List.append_assoc] at hc
    exact hc
  · intro before text a rest ps _ hshape ih front
    have hwrite := ih (front ++ write a)
    rw [List.append_assoc, List.append_assoc] at hwrite
    exact hwrite.trans (h before text a rest hshape front rest)

/-- What holds on when one construct is written anew holds on in a sweep, if what is written ends like
the construct. -/
theorem replaceAll_keeps (hscan : Reads scan Shape) {P : List Char → Prop}
    (hlast : ∀ before text a rest, Shape before text a rest →
      (write a).getLast? = text.getLast?)
    (h : ∀ before text a rest, Shape before text a rest → ∀ front back, front.getLast? = before →
      P (front ++ (text ++ back)) → P (front ++ (write a ++ back))) {s : List Char} (hs : P s) :
    P (replaceAll scan write s) := by
  refine piecesFrom_induction hscan (motive := fun before s ps => ∀ front,
    front.getLast? = before → P (front ++ s) → P (front ++ ps.flatMap (Piece.render write)))
    ?_ ?_ ?_ none s [] rfl hs
  · intro _ front _ hnil
    exact hnil
  · intro _ c s ps _ ih front _ hs
    have hc := ih (front ++ [c]) List.getLast?_concat
    rw [List.append_assoc, List.append_assoc] at hc
    exact hc hs
  · intro before text a rest ps hne hshape ih front hfront hs
    have hend : (front ++ write a).getLast? = text.getLast? := by
      rw [List.getLast?_append, hlast before text a rest hshape, List.getLast?_eq_some_getLast hne,
        Option.some_or]
    have hrest := ih (front ++ write a) hend
    rw [List.append_assoc, List.append_assoc] at hrest
    exact hrest (h before text a rest hshape front rest hfront hs)

/-- A sweep takes `m` of a character away and puts `k` of it in for each construct that it finds. -/
theorem count_replaceAll (hscan : Reads scan Shape) {c : Char} {m k : Nat}
    (h : ∀ before text a rest, Shape before text a rest →
      (write a).count c + m = text.count c + k) (s : List Char) :
    (replaceAll scan write s).count c + m * count scan s = s.count c + k * count scan s := by
  unfold replaceAll count hits pieces
  refine piecesFrom_induction hscan (motive := fun _ s ps =>
    (ps.flatMap (Piece.render write)).count c + m * (ps.filterMap Piece.value?).length =
      s.count c + k * (ps.filterMap Piece.value?).length) ?_ ?_ ?_ none s
  · intro _
    rfl
  · intro _ d s ps _ ih
    rw [List.flatMap_cons, List.count_append, List.count_cons, List.filterMap_cons]
    simp only [Piece.render, Piece.value?, List.count_singleton]
    omega
  · intro before text a rest ps _ hshape ih
    have hone := h before text a rest hshape
    rw [List.flatMap_cons, List.count_append, List.count_append, List.filterMap_cons]
    simp only [Piece.render, Piece.value?, List.length_cons, Nat.mul_succ]
    omega

/-- A sweep counts something down by one for each construct, if it does so wherever the construct
stands, and what it writes ends like the construct. -/
theorem replaceAll_add_count (hscan : Reads scan Shape) (f : List Char → Nat)
    (hlast : ∀ before text a rest, Shape before text a rest →
      (write a).getLast? = text.getLast?)
    (h : ∀ before text a rest, Shape before text a rest → ∀ front back, front.getLast? = before →
      f (front ++ (write a ++ back)) + 1 = f (front ++ (text ++ back))) (s : List Char) :
    f (replaceAll scan write s) + count scan s = f s := by
  unfold replaceAll count hits pieces
  refine piecesFrom_induction hscan (motive := fun before s ps => ∀ front,
    front.getLast? = before → f (front ++ ps.flatMap (Piece.render write)) +
      (ps.filterMap Piece.value?).length = f (front ++ s)) ?_ ?_ ?_ none s [] rfl
  · intro _ front _
    rfl
  · intro _ c s ps _ ih front _
    have hc := ih (front ++ [c]) List.getLast?_concat
    rw [List.append_assoc, List.append_assoc] at hc
    exact hc
  · intro before text a rest ps hne hshape ih front hfront
    have hend : (front ++ write a).getLast? = text.getLast? := by
      rw [List.getLast?_append, hlast before text a rest hshape, List.getLast?_eq_some_getLast hne,
        Option.some_or]
    have hrest := ih (front ++ write a) hend
    have hone := h before text a rest hshape front rest hfront
    rw [List.append_assoc, List.append_assoc] at hrest
    have hlen : ((Piece.hit a :: ps).filterMap Piece.value?).length =
        (ps.filterMap Piece.value?).length + 1 := rfl
    rw [List.flatMap_cons, hlen, ← hone, ← hrest]
    exact Nat.add_assoc _ _ 1

end

/-! ## Turns -/

/-- What one turn keeps, all turns keep. -/
theorem settle_induction {f : List Char → List Char} {P : List Char → Prop}
    (step : ∀ s, P s → P (f s)) (n : Nat) {s : List Char} (h : P s) : P (settle f n s) := by
  induction n generalizing s with
  | zero => exact h
  | succ n ih =>
    unfold settle
    split
    · exact h
    · exact ih (step s h)

/-- A text that a turn leaves alone is settled. -/
theorem settle_of_eq {f : List Char → List Char} {s : List Char} (h : f s = s) (n : Nat) :
    settle f n s = s := by
  cases n with
  | zero => rfl
  | succ n => rw [settle, if_pos h]

/-- Turns that count something down come to rest, if there are as many as there is to count. -/
theorem settle_settled {f : List Char → List Char} {measure : List Char → Nat}
    (h : ∀ s, f s ≠ s → measure (f s) < measure s) {n : Nat} {s : List Char}
    (hn : measure s ≤ n) : f (settle f n s) = settle f n s := by
  induction n generalizing s with
  | zero =>
    refine Classical.byContradiction fun hne => ?_
    have hlt := h s hne
    omega
  | succ n ih =>
    unfold settle
    split
    · assumption
    · rename_i hne
      have hlt := h s hne
      exact ih (by omega)

/-- One more turn can be taken first, whether or not it changes the text. -/
theorem settle_succ (f : List Char → List Char) (n : Nat) (s : List Char) :
    settle f (n + 1) s = settle f n (f s) := by
  rw [settle]
  split
  · rename_i h
    rw [h, settle_of_eq h]
  · rfl

/-- The turns taken are the first ones, up to the first that changes nothing or to the last. -/
theorem settle_eq_iterate (f : List Char → List Char) (n : Nat) (s : List Char) :
    ∃ m ≤ n, settle f n s = f^[m] s ∧ ∀ k < m, f^[k + 1] s ≠ f^[k] s := by
  induction n generalizing s with
  | zero => exact ⟨0, Nat.le_refl 0, rfl, fun k hk => absurd hk (Nat.not_lt_zero k)⟩
  | succ n ih =>
    rw [settle]
    split
    · exact ⟨0, Nat.zero_le _, rfl, fun k hk => absurd hk (Nat.not_lt_zero k)⟩
    · rename_i hne
      obtain ⟨m, hm, hsettle, hchange⟩ := ih (f s)
      refine ⟨m + 1, Nat.succ_le_succ hm, hsettle, fun k hk => ?_⟩
      cases k with
      | zero => exact hne
      | succ k => exact hchange k (by omega)

end SqlDialect.Scan
