import SqlDialect.Proofs.Absence
import SqlDialect.Proofs.Seams

/-!
# Two sweeps, one after the other

Each of two sweeps works on what the other one leaves. If neither reads anything over what the other
one writes, and no construct of the one starts within a construct of the other, it does not matter
which one comes first.

* `replaceFrom` — a sweep from a place on, with its steps: over a kept character, over a construct,
  over a text in which nothing is read.
* `replaceFrom_append_cons` — a sign that is in no construct cuts a text in two.
* `sweeps_induction` — induction along two sweeps at once.
* `Untouched` — a sweep finds the same in what another one leaves: the steps are `Untouched.keep`,
  `Untouched.hit` and `Untouched.written`.
* `eq_none_within` — constructs of which neither ends with a character of the other lie apart.
* `replaceAll_comm` — so two sweeps of which neither touches the other can change places.
-/

namespace SqlDialect.Scan

variable {α β : Type} {scan : Scanner α} {find : Scanner β}
  {write : α → List Char} {spell : β → List Char}
  {Shape : Option Char → List Char → α → List Char → Prop}
  {FindShape : Option Char → List Char → β → List Char → Prop}

/-! ## A sweep from a place on -/

/-- Writes every construct of a text behind `before` anew. -/
def replaceFrom (scan : Scanner α) (write : α → List Char) (before : Option Char) (s : List Char) :
    List Char :=
  (piecesFrom scan 0 before s).flatMap (Piece.render write)

theorem replaceFrom_of_miss {before : Option Char} {c : Char} {s : List Char}
    (h : scan before (c :: s) = none) :
    replaceFrom scan write before (c :: s) = c :: replaceFrom scan write (some c) s := by
  unfold replaceFrom
  rw [piecesFrom_of_miss h]
  rfl

theorem replaceFrom_of_hit {before : Option Char} {text rest : List Char} {a : α}
    (hne : text ≠ []) (h : scan before (text ++ rest) = some (a, rest)) :
    replaceFrom scan write before (text ++ rest) =
      write a ++ replaceFrom scan write text.getLast? rest := by
  obtain ⟨c, text, rfl⟩ := List.exists_cons_of_ne_nil hne
  unfold replaceFrom
  rw [piecesFrom_of_hit h]
  rfl

/-- A text is kept if nothing can be read at its places. -/
theorem replaceFrom_append {before : Option Char} {a b : List Char}
    (h : ∀ x c y, a = x ++ c :: y → scan (x.getLast?.or before) (c :: y ++ b) = none) :
    replaceFrom scan write before (a ++ b) =
      a ++ replaceFrom scan write (a.getLast?.or before) b := by
  unfold replaceFrom
  rw [piecesFrom_append h, List.flatMap_append, render_map_keep]

theorem replaceFrom_congr {before behind : Option Char}
    (h : ∀ t, scan before t = scan behind t) (s : List Char) :
    replaceFrom scan write before s = replaceFrom scan write behind s := by
  unfold replaceFrom
  cases s with
  | nil => rfl
  | cons c s => rw [piecesFrom, piecesFrom, h]

/-- A text without the first characters of what is written comes through a sweep only as it is. -/
theorem exists_of_replaceFrom_eq_append (hscan : Reads scan Shape) {first : Char}
    (hfirst : ∀ before text a rest, Shape before text a rest → (write a).head? = some first)
    {t : List Char} (ht : first ∉ t) {before : Option Char} {s out : List Char}
    (h : replaceFrom scan write before s = t ++ out) :
    ∃ rest, s = t ++ rest ∧ out = replaceFrom scan write (t.getLast?.or before) rest := by
  induction t generalizing before s with
  | nil => exact ⟨s, rfl, h.symm⟩
  | cons d t ih =>
    rw [List.mem_cons, not_or] at ht
    cases s with
    | nil => cases h
    | cons c s =>
      cases hread : scan before (c :: s) with
      | none =>
        rw [replaceFrom_of_miss hread] at h
        obtain ⟨rfl, hs⟩ := List.cons.inj h
        obtain ⟨rest, rfl, hout⟩ := ih ht.2 hs
        exact ⟨rest, rfl, by rw [hout, getLast?_cons_or]⟩
      | some r =>
        obtain ⟨text, hne, heq, hshape⟩ := hscan _ _ _ _ hread
        have hhead := hfirst _ _ _ _ hshape
        rw [heq] at hread h
        rw [replaceFrom_of_hit hne hread] at h
        cases hw : write r.1 with
        | nil =>
          rw [hw] at hhead
          cases hhead
        | cons e w =>
          rw [hw] at hhead h
          obtain ⟨rfl, -⟩ := List.cons.inj h
          exact absurd (Option.some.inj hhead).symm ht.1

/-- A sign that each construct has before and after is in the text before and after. -/
theorem mem_replaceFrom_iff (hscan : Reads scan Shape) {sign : Char}
    (h : ∀ before text a rest, Shape before text a rest → (sign ∈ write a ↔ sign ∈ text))
    (before : Option Char) (s : List Char) :
    sign ∈ replaceFrom scan write before s ↔ sign ∈ s := by
  unfold replaceFrom
  refine piecesFrom_induction hscan (motive := fun _ s ps =>
    (sign ∈ ps.flatMap (Piece.render write) ↔ sign ∈ s)) ?_ ?_ ?_ before s
  · intro _
    exact Iff.rfl
  · intro _ c s ps _ ih
    rw [List.flatMap_cons, List.mem_append, ih, Piece.render, List.mem_singleton, List.mem_cons]
  · intro before text a rest ps _ hshape ih
    rw [List.flatMap_cons, List.mem_append, ih, Piece.render, h before text a rest hshape,
      List.mem_append]

/-- What is read before a sign that is in no construct is read without a look at it. -/
theorem Ended.append_cons {f : List Char → Option (α × List Char)} (hf : Ended f) {sign : Char}
    (hsign : ∀ text a rest, f (text ++ rest) = some (a, rest) → sign ∉ text) (x y : List Char) :
    f (x ++ sign :: y) = (f x).map fun r => (r.1, r.2 ++ sign :: y) := by
  cases hx : f x with
  | some r =>
    obtain ⟨text, -, rfl, hread⟩ := hf x r.1 r.2 hx
    rw [List.append_assoc, hread]
    rfl
  | none =>
    cases hy : f (x ++ sign :: y) with
    | none => rfl
    | some r =>
      obtain ⟨text, hne, hcut, hread⟩ := hf _ r.1 r.2 hy
      have hnot := hsign text r.1 r.2 (hread r.2)
      rcases List.append_eq_append_iff.1 hcut with ⟨z, rfl, hz⟩ | ⟨z, rfl, -⟩
      · cases z with
        | nil =>
          rw [List.append_nil] at hread
          rw [← List.append_nil x, hread] at hx
          cases hx
        | cons c z =>
          obtain ⟨rfl, -⟩ := List.cons.inj hz
          exact absurd (List.mem_append_right x List.mem_cons_self) hnot
      · rw [hread] at hx
        cases hx

/-- A sign that is in no construct cuts a text in two. -/
theorem replaceFrom_append_cons (hscan : Reads scan Shape) (hended : ∀ before, Ended (scan before))
    {sign : Char}
    (hsign : ∀ before text a rest, scan before (text ++ rest) = some (a, rest) → sign ∉ text)
    (before : Option Char) (x y : List Char) :
    replaceFrom scan write before (x ++ sign :: y) =
      replaceFrom scan write before x ++ sign :: replaceFrom scan write (some sign) y := by
  have hmiss : ∀ behind, scan behind (sign :: y) = none := by
    intro behind
    cases hread : scan behind (sign :: y) with
    | none => rfl
    | some r =>
      obtain ⟨text, hne, hcut, -⟩ := hended behind _ r.1 r.2 hread
      obtain ⟨c, text, rfl⟩ := List.exists_cons_of_ne_nil hne
      obtain ⟨rfl, -⟩ := List.cons.inj hcut
      rw [hcut] at hread
      exact absurd List.mem_cons_self (hsign behind _ r.1 r.2 hread)
  have hcut : piecesFrom scan 0 before (x ++ sign :: y) =
      piecesFrom scan 0 before x ++ piecesFrom scan 0 (x.getLast?.or before) (sign :: y) :=
    piecesFrom_cut hscan fun _ back _ _ => (hended _).append_cons (hsign _) back y
  unfold replaceFrom
  rw [hcut, List.flatMap_append, piecesFrom_of_miss (hmiss _)]
  rfl

/-! ## Along two sweeps -/

/-- Induction along two sweeps at once, from their end. -/
theorem sweeps_induction (hscan : Reads scan Shape) (hfind : Reads find FindShape)
    {motive : Option Char → List Char → Prop} (nil : ∀ before, motive before [])
    (keep : ∀ before c s, scan before (c :: s) = none → find before (c :: s) = none →
      motive (some c) s → motive before (c :: s))
    (hit : ∀ before text a rest, text ≠ [] → scan before (text ++ rest) = some (a, rest) →
      motive text.getLast? rest → motive before (text ++ rest))
    (found : ∀ before text b rest, text ≠ [] → find before (text ++ rest) = some (b, rest) →
      motive text.getLast? rest → motive before (text ++ rest)) :
    ∀ (before : Option Char) (s : List Char), motive before s
  | before, [] => nil before
  | before, c :: s => by
    cases hs : scan before (c :: s) with
    | some r =>
      obtain ⟨text, hne, heq, -⟩ := hscan _ _ _ _ hs
      have hlen : r.2.length < (c :: s).length := by
        have hpos := List.length_pos_iff.2 hne
        rw [heq, List.length_append]
        omega
      rw [heq] at hs ⊢
      exact hit before text r.1 r.2 hne hs
        (sweeps_induction hscan hfind nil keep hit found text.getLast? r.2)
    | none =>
      cases hf : find before (c :: s) with
      | none =>
        exact keep before c s hs hf
          (sweeps_induction hscan hfind nil keep hit found (some c) s)
      | some r =>
        obtain ⟨text, hne, heq, -⟩ := hfind _ _ _ _ hf
        have hlen : r.2.length < (c :: s).length := by
          have hpos := List.length_pos_iff.2 hne
          rw [heq, List.length_append]
          omega
        rw [heq] at hf ⊢
        exact found before text r.1 r.2 hne hf
          (sweeps_induction hscan hfind nil keep hit found text.getLast? r.2)
termination_by _ s => s.length
decreasing_by
  · exact Nat.lt_succ_self s.length
  · exact hlen
  · exact hlen

/-- The text of a sweep starts with kept characters, up to its end or to a construct. -/
theorem startsKept_piecesFrom (hscan : Reads scan Shape) (before : Option Char) (s : List Char) :
    StartsKept s (piecesFrom scan 0 before s) := by
  refine piecesFrom_induction hscan (motive := fun _ s ps => StartsKept s ps) ?_ ?_ ?_ before s
  · intro _
    exact ⟨[], [], [], rfl, rfl, .inl ⟨rfl, rfl⟩⟩
  · intro _ c s ps _ ih
    exact ih.cons c
  · intro _ text a rest ps hne _ _
    exact ⟨[], text ++ rest, .hit a :: ps, rfl, rfl, .inr ⟨a, ps, by simp [hne], rfl⟩⟩

/-- Each construct of a sweep from a place on is of the shape that the scanner reads. -/
theorem exists_shape_of_mem_piecesFrom (hscan : Reads scan Shape) {before : Option Char}
    {s : List Char} {a : α} (h : .hit a ∈ piecesFrom scan 0 before s) :
    ∃ before text rest, Shape before text a rest := by
  revert h
  refine piecesFrom_induction hscan (motive := fun _ _ ps => .hit a ∈ ps →
    ∃ before text rest, Shape before text a rest) ?_ ?_ ?_ before s
  · intro _ h
    cases h
  · intro _ c s ps _ ih h
    exact ih ((List.mem_cons.1 h).resolve_left (by simp))
  · intro before text b rest ps _ hshape ih h
    rcases List.mem_cons.1 h with heq | h
    · obtain rfl := Piece.hit.inj heq
      exact ⟨before, text, rest, hshape⟩
    · exact ih h

/-! ## Sweeps that do not touch each other -/

/-- A sweep with `find` finds in a text and in what a sweep with `scan` leaves of it the same: it
reads nothing over what is written there, cannot tell it by its end from what stood there before,
and nothing of the other sweep starts within what it reads. -/
structure Untouched (find : Scanner β) (scan : Scanner α) (write : α → List Char)
    (Shape : Option Char → List Char → α → List Char → Prop) : Prop where
  ended : ∀ before, Ended (find before)
  alike : EndsAlike find write Shape
  barrier : ∀ before text a rest, Shape before text a rest → Barrier find (write a)
  apart : ∀ before text b rest, find before (text ++ rest) = some (b, rest) →
    ∀ x c y, text = x ++ c :: y → scan (x.getLast?.or before) (c :: y ++ rest) = none

/-- Two constructs lie apart if neither ends with a character of the other: what starts within the
one has its end there, or goes on over the end of it. -/
theorem eq_none_within (hscan : Reads scan Shape) {text : List Char}
    (h : ∀ before t a rest, Shape before t a rest →
      (∀ d ∈ text, t.getLast? ≠ some d) ∧ ∀ d ∈ t, text.getLast? ≠ some d)
    (before : Option Char) (rest : List Char) {x y : List Char} {c : Char}
    (hcut : text = x ++ c :: y) : scan before (c :: y ++ rest) = none := by
  cases hread : scan before (c :: y ++ rest) with
  | none => rfl
  | some r =>
    obtain ⟨t, hne, heq, hshape⟩ := hscan _ _ _ _ hread
    obtain ⟨hends, hover⟩ := h _ _ _ _ hshape
    rcases List.append_eq_append_iff.1 heq with ⟨z, rfl, -⟩ | ⟨z, hy, -⟩
    · refine absurd ?_ (hover ((c :: y).getLast (by simp))
        (List.mem_append_left z (List.getLast_mem _)))
      rw [hcut, List.getLast?_append_of_ne_nil _ (by simp), List.getLast?_eq_some_getLast]
    · refine absurd (List.getLast?_eq_some_getLast hne) (hends _ ?_)
      rw [hcut, hy]
      exact List.mem_append_right x (List.mem_append_left z (List.getLast_mem hne))

/-- Nothing is read from a place before the end of a barrier over its start. -/
theorem Barrier.not_read (hfind : Reads find FindShape) {w : List Char} (hw : Barrier find w)
    (before : Option Char) (u front back : List Char) {v rest : List Char} {b : β}
    (hcut : front ++ w ++ back = u ++ v) (hstart : u.length < (front ++ w).length)
    (hend : rest.length < (w ++ back).length) :
    find (u.getLast?.or before) v ≠ some (b, rest) := by
  intro hread
  -- the character before the text is put in front of it
  refine hw.not_reaches hfind (before.toList ++ front) back
    ⟨before.toList ++ u, v, b, rest, by simp [← hcut], ?_, ?_, hend⟩
  · rw [List.getLast?_append]
    cases before <;> exact hread
  · simp only [List.length_append] at hstart ⊢
    omega

namespace Untouched

variable {before behind : Option Char} {s text rest : List Char}

/-- At a place where neither sweep reads anything, the one reads nothing behind the other either. -/
theorem find_eq_none (h : Untouched find scan write Shape) (hscan : Reads scan Shape)
    (hfind : Reads find FindShape) {c : Char} (hmiss : scan before (c :: s) = none)
    (hnone : find before (c :: s) = none) :
    find before (c :: replaceFrom scan write (some c) s) = none := by
  cases hread : find before (c :: replaceFrom scan write (some c) s) with
  | none => rfl
  | some r =>
    obtain ⟨text, -, hcut, -⟩ := hfind _ _ _ _ hread
    have hread' := hread
    rw [hcut] at hread'
    rcases overlaps_or_spared_of_read_kept (lasting_of_ended h.ended write)
      (startsKept_piecesFrom hscan (some c) s) hcut hread' with hover | ⟨-, hsome⟩
    · obtain ⟨front, a, back, hpieces, hstart, hend⟩ := hover
      have hmem : .hit a ∈ piecesFrom scan 0 before (c :: s) := by
        rw [piecesFrom_of_miss hmiss, hpieces]
        simp
      obtain ⟨_, _, _, hshape⟩ := exists_shape_of_mem_piecesFrom hscan hmem
      have htext : c :: replaceFrom scan write (some c) s = front.flatMap (Piece.render write) ++
          write a ++ back.flatMap (Piece.render write) := by
        have hrender := congrArg (List.flatMap (Piece.render write)) hpieces
        rw [List.flatMap_append] at hrender
        rw [List.append_assoc]
        exact hrender
      exact absurd hread ((h.barrier _ _ _ _ hshape).not_read hfind before [] _ _ htext.symm hstart
        hend)
    · rw [hnone] at hsome
      cases hsome

/-- Both sweeps go over a character that neither reads. -/
theorem keep (h : Untouched find scan write Shape) (hscan : Reads scan Shape)
    (hfind : Reads find FindShape) (hbehind : ∀ t, find behind t = find before t) {c : Char}
    (hmiss : scan before (c :: s) = none) (hnone : find before (c :: s) = none) :
    replaceFrom find spell behind (replaceFrom scan write before (c :: s)) =
      c :: replaceFrom find spell (some c) (replaceFrom scan write (some c) s) := by
  rw [replaceFrom_of_miss hmiss, replaceFrom_congr hbehind,
    replaceFrom_of_miss (h.find_eq_none hscan hfind hmiss hnone)]

/-- A construct of the first kind goes through the other sweep. -/
theorem hit (h : Untouched find scan write Shape) (hbehind : ∀ t, find behind t = find before t)
    {b : β} (hne : text ≠ []) (hread : find before (text ++ rest) = some (b, rest)) :
    replaceFrom find spell behind (replaceFrom scan write before (text ++ rest)) =
      spell b ++
        replaceFrom find spell text.getLast? (replaceFrom scan write text.getLast? rest) := by
  have hlast : text.getLast?.or before = text.getLast? := by
    rw [List.getLast?_eq_some_getLast hne, Option.some_or]
  obtain ⟨text', -, heq, hread'⟩ := h.ended before _ _ _ hread
  obtain rfl := List.append_cancel_right heq
  rw [replaceFrom_append (h.apart before text b rest hread), hlast, replaceFrom_congr hbehind,
    replaceFrom_of_hit hne (hread' _)]

/-- What is written for a construct of the other kind stays. -/
theorem written (h : Untouched find scan write Shape) (hscan : Reads scan Shape)
    (hfind : Reads find FindShape) {a : α} (hne : text ≠ [])
    (hread : scan before (text ++ rest) = some (a, rest)) :
    replaceFrom find spell behind (replaceFrom scan write before (text ++ rest)) =
      write a ++ replaceFrom find spell ((write a).getLast?.or behind)
        (replaceFrom scan write text.getLast? rest) := by
  have hshape := (hscan.shape hread).2
  rw [replaceFrom_of_hit hne hread]
  refine replaceFrom_append fun x c y hcut => ?_
  cases hfound : find (x.getLast?.or behind)
      (c :: y ++ replaceFrom scan write text.getLast? rest) with
  | none => rfl
  | some r =>
    obtain ⟨text', hne', heq, -⟩ := hfind _ _ _ _ hfound
    have hlength := congrArg List.length heq
    have hpos := List.length_pos_iff.2 hne'
    refine absurd hfound ((h.barrier _ _ _ _ hshape).not_read hfind behind x []
      (replaceFrom scan write text.getLast? rest) ?_ ?_ ?_)
    · rw [hcut, List.nil_append, List.append_assoc]
    · simp [hcut]
    · simp only [hcut, List.length_append, List.length_cons] at hlength ⊢
      omega

end Untouched

/-- **Two sweeps that do not touch each other can change places.** -/
theorem replaceAll_comm (hscan : Reads scan Shape) (hfind : Reads find FindShape)
    (hone : Untouched find scan write Shape) (hother : Untouched scan find spell FindShape)
    (s : List Char) :
    replaceAll find spell (replaceAll scan write s) =
      replaceAll scan write (replaceAll find spell s) := by
  -- the characters before the two places may differ, as long as neither scanner cares
  refine sweeps_induction hscan hfind (motive := fun before s => ∀ behind behind',
    (∀ t, find behind t = find before t) → (∀ t, scan behind' t = scan before t) →
    replaceFrom find spell behind (replaceFrom scan write before s) =
      replaceFrom scan write behind' (replaceFrom find spell before s)) ?_ ?_ ?_ ?_
    none s none none (fun _ => rfl) (fun _ => rfl)
  · intro before behind behind' _ _
    rfl
  · intro before c s hmiss hnone ih behind behind' hbehind hbehind'
    rw [hone.keep hscan hfind hbehind hmiss hnone, hother.keep hfind hscan hbehind' hnone hmiss,
      ih (some c) (some c) (fun _ => rfl) (fun _ => rfl)]
  · intro before text a rest hne hread ih behind behind' hbehind hbehind'
    have hshape := (hscan.shape hread).2
    rw [hone.written hscan hfind hne hread, hother.hit hbehind' hne hread,
      ih _ text.getLast? (hone.alike before text a rest hshape behind) (fun _ => rfl)]
  · intro before text b rest hne hread ih behind behind' hbehind hbehind'
    have hshape := (hfind.shape hread).2
    rw [hone.hit hbehind hne hread, hother.written hfind hscan hne hread,
      ih text.getLast? _ (fun _ => rfl) (hother.alike before text b rest hshape behind')]

end SqlDialect.Scan
