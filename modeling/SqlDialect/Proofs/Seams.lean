import Mathlib.Data.List.Basic
import SqlDialect.Proofs.Steps

/-!
# What can be read in a swept text

A sweep writes every construct anew, and goes on behind it. It never looks back, so it may leave a
text in which there is a construct again. Such a construct is always read over a seam: it has a part
in something that the sweep has written.

* `Reaches` — a construct can be read over the middle of three texts.
* `Joined` — a construct can be read over something that a sweep has written.
* `Kept` — a construct can be read in characters that a sweep has kept.
* `Missed` — a construct can be read where a sweep finds none.
* `Lasting`, `EndsAlike` — the text behind a construct and what is written for one before it may
  change without harm to it.
* `joined_or_kept_of_readable` — so a construct that can be read in a swept text is a joined one, or
  a kept one that the sweep has missed.
* `readable_replaceAll_iff` — a sweep leaves a construct that it looks for exactly when it joins
  one.
* `Barrier`, `Barrier.not_reaches` — a text that no construct reaches over.
* `not_readable_replaceAll` — a sweep that writes nothing but barriers leaves no construct.
-/

namespace SqlDialect.Scan

variable {α β : Type} {scan : Scanner α} {find : Scanner β} {write : α → List Char}
  {Shape : Option Char → List Char → α → List Char → Prop}
  {FindShape : Option Char → List Char → β → List Char → Prop}

/-- What is read from a text is of the shape that the scanner reads. -/
theorem Reads.shape (hscan : Reads scan Shape) {before : Option Char} {text rest : List Char}
    {a : α} (h : scan before (text ++ rest) = some (a, rest)) :
    text ≠ [] ∧ Shape before text a rest := by
  obtain ⟨text', hne, heq, hshape⟩ := hscan _ _ _ _ h
  obtain rfl := List.append_cancel_right heq
  exact ⟨hne, hshape⟩

/-! ## Constructs over a seam -/

/-- A construct can be read that starts before the end of `middle` and ends behind its start. -/
def Reaches (find : Scanner β) (front middle back : List Char) : Prop :=
  ∃ u v b rest, front ++ middle ++ back = u ++ v ∧ find u.getLast? v = some (b, rest) ∧
    u.length < (front ++ middle).length ∧ rest.length < (middle ++ back).length

theorem Reaches.readable {front middle back : List Char} (h : Reaches find front middle back) :
    Readable find (front ++ middle ++ back) := by
  obtain ⟨u, v, b, rest, hcut, hread, -, -⟩ := h
  exact ⟨u, v, hcut, by rw [hread]; rfl⟩

/-- A construct can be read over something that the sweep has written for another one. -/
def Joined (scan : Scanner α) (write : α → List Char) (find : Scanner β) (s : List Char) : Prop :=
  ∃ ps a qs, pieces scan s = ps ++ .hit a :: qs ∧
    Reaches find (ps.flatMap (Piece.render write)) (write a) (qs.flatMap (Piece.render write))

theorem Joined.readable {s : List Char} (h : Joined scan write find s) :
    Readable find (replaceAll scan write s) := by
  obtain ⟨ps, a, qs, hpieces, hreaches⟩ := h
  have hout : replaceAll scan write s = ps.flatMap (Piece.render write) ++ write a ++
      qs.flatMap (Piece.render write) := by
    rw [replaceAll, hpieces, List.flatMap_append, List.flatMap_cons, List.append_assoc]
    rfl
  rw [hout]
  exact hreaches.readable

theorem render_map_keep (write : α → List Char) (kept : List Char) :
    (kept.map Piece.keep).flatMap (Piece.render write) = kept := by
  induction kept with
  | nil => rfl
  | cons c kept ih => exact congrArg (c :: ·) ih

/-- A construct can be read in characters that the sweep has kept. -/
def Kept (scan : Scanner α) (write : α → List Char) (find : Scanner β) (s : List Char) : Prop :=
  ∃ ps text qs b, pieces scan s = ps ++ text.map .keep ++ qs ∧
    find (ps.flatMap (Piece.render write)).getLast? (text ++ qs.flatMap (Piece.render write)) =
      some (b, qs.flatMap (Piece.render write))

theorem Kept.readable {s : List Char} (h : Kept scan write find s) :
    Readable find (replaceAll scan write s) := by
  obtain ⟨ps, text, qs, b, hpieces, hread⟩ := h
  refine ⟨_, _, ?_, by rw [hread]; rfl⟩
  rw [replaceAll, hpieces, List.flatMap_append, List.flatMap_append, render_map_keep,
    List.append_assoc]

/-- A construct stays readable when the text behind it changes. It may matter whether there is any
text behind it, unless the sweep leaves constructs out. -/
def Lasting (find : Scanner β) (write : α → List Char) : Prop :=
  ∀ before text b rest rest', find before (text ++ rest) = some (b, rest) →
    (rest ≠ [] ∨ rest' = [] ∨ ∃ a, write a = []) → (find before (text ++ rest')).isSome = true

theorem lasting_of_ended (h : ∀ before, Ended (find before)) (write : α → List Char) :
    Lasting find write := by
  intro before text b rest rest' hread _
  obtain ⟨text', -, heq, hread'⟩ := h before _ _ _ hread
  obtain rfl := List.append_cancel_right heq
  rw [hread']
  rfl

/-- What is written for a construct ends like the construct itself, for all that can be told from
the character before a place. -/
def EndsAlike (find : Scanner β) (write : α → List Char)
    (Shape : Option Char → List Char → α → List Char → Prop) : Prop :=
  ∀ before text a rest, Shape before text a rest →
    ∀ behind t, find ((write a).getLast?.or behind) t = find text.getLast? t

/-- A text and its pieces start with the same kept characters, up to the end or to a construct. -/
def StartsKept (s : List Char) (ps : List (Piece α)) : Prop :=
  ∃ kept s' ps', s = kept ++ s' ∧ ps = kept.map Piece.keep ++ ps' ∧
    ((s' = [] ∧ ps' = []) ∨ ∃ a qs, s' ≠ [] ∧ ps' = .hit a :: qs)

theorem StartsKept.cons {s : List Char} {ps : List (Piece α)} (h : StartsKept s ps) (c : Char) :
    StartsKept (c :: s) (.keep c :: ps) := by
  obtain ⟨kept, s', ps', rfl, rfl, hend⟩ := h
  exact ⟨c :: kept, s', ps', rfl, rfl, hend⟩

/-- The place `u` of a written text lies before the end of a construct's text, and what is left
behind it, `rest`, does not reach back to its start. -/
def Overlaps (write : α → List Char) (ps : List (Piece α)) (u rest : List Char) : Prop :=
  ∃ front a back, ps = front ++ .hit a :: back ∧
    u.length < (front.flatMap (Piece.render write) ++ write a).length ∧
    rest.length < (write a ++ back.flatMap (Piece.render write)).length

/-- A piece in front moves the places on by what is written for it. -/
theorem Overlaps.cons {ps : List (Piece α)} {u rest : List Char} (h : Overlaps write ps u rest)
    (p : Piece α) : Overlaps write (p :: ps) (p.render write ++ u) rest := by
  obtain ⟨front, a, back, rfl, hstart, hend⟩ := h
  refine ⟨p :: front, a, back, rfl, ?_, hend⟩
  rw [List.flatMap_cons]
  simp only [List.length_append] at hstart ⊢
  omega

/-- Two cuts of one text: the later one falls into the second part. -/
theorem exists_append_of_length_le {x y front back : List Char} (h : x ++ y = front ++ back)
    (hlen : y.length ≤ back.length) : ∃ z, x = front ++ z ∧ back = z ++ y := by
  rcases List.append_eq_append_iff.1 h with ⟨z, hfront, hy⟩ | ⟨z, hx, hback⟩
  · have hlength := congrArg List.length hy
    rw [List.length_append] at hlength
    obtain rfl := List.eq_nil_of_length_eq_zero (show z.length = 0 by omega)
    exact ⟨[], by simpa using hfront.symm, by simpa using hy.symm⟩
  · exact ⟨z, hx, hback⟩

/-- The text from the place `u` to what is left behind it, `rest`, is made of kept characters. -/
def Spared (write : α → List Char) (ps : List (Piece α)) (u v rest : List Char) : Prop :=
  ∃ front text back, ps = front ++ text.map Piece.keep ++ back ∧ v = text ++ rest ∧
    front.flatMap (Piece.render write) = u ∧ back.flatMap (Piece.render write) = rest

theorem Spared.cons {ps : List (Piece α)} {u v rest : List Char} (h : Spared write ps u v rest)
    (p : Piece α) : Spared write (p :: ps) (p.render write ++ u) v rest := by
  obtain ⟨front, text, back, rfl, hv, rfl, hrest⟩ := h
  exact ⟨p :: front, text, back, rfl, hv, List.flatMap_cons, hrest⟩

/-- At a kept character a construct is read over a seam, or it is spared and was there before. -/
theorem overlaps_or_spared_of_read_kept (hlasting : Lasting find write) {before : Option Char}
    {c : Char} {s : List Char} {ps : List (Piece α)} (hkept : StartsKept s ps)
    {text rest : List Char} {b : β} (hcut : c :: ps.flatMap (Piece.render write) = text ++ rest)
    (hread : find before (text ++ rest) = some (b, rest)) :
    Overlaps write (.keep c :: ps) [] rest ∨
      (Spared write (.keep c :: ps) [] (text ++ rest) rest ∧
        (find before (c :: s)).isSome = true) := by
  obtain ⟨kept, s', ps', rfl, rfl, hend⟩ := hkept
  rw [List.flatMap_append, render_map_keep, ← List.cons_append] at hcut
  by_cases hlen : rest.length < (ps'.flatMap (Piece.render write)).length
  · -- the construct ends behind the kept characters, so it reaches over what is written there
    rcases hend with ⟨-, rfl⟩ | ⟨a, qs, -, rfl⟩
    · cases hlen
    · refine .inl ⟨.keep c :: kept.map Piece.keep, a, qs, rfl, ?_, hlen⟩
      rw [List.flatMap_cons]
      exact Nat.succ_pos _
  · obtain ⟨z, hz, rfl⟩ := exists_append_of_length_le hcut (Nat.le_of_not_lt hlen)
    refine .inr ⟨⟨[], text, z.map Piece.keep ++ ps', ?_, rfl, rfl, ?_⟩, ?_⟩
    · rw [List.nil_append, ← List.append_assoc, ← List.map_append, ← hz]
      rfl
    · rw [List.flatMap_append, render_map_keep]
    · rw [← List.cons_append, hz, List.append_assoc]
      refine hlasting before text b _ (z ++ s') hread ?_
      rcases hend with ⟨rfl, rfl⟩ | ⟨a, qs, -, rfl⟩
      · by_cases hnil : z = []
        · exact .inr (.inl (by rw [hnil]; rfl))
        · exact .inl fun h => hnil (List.append_eq_nil_iff.1 h).1
      · by_cases hnil : write a = []
        · exact .inr (.inr ⟨a, hnil⟩)
        · refine .inl fun h => hnil ?_
          exact (List.append_eq_nil_iff.1 (List.append_eq_nil_iff.1 h).2).1

/-- A construct could be read where the sweep finds none. -/
def Missed (scan : Scanner α) (find : Scanner β) (before : Option Char) (s : List Char) : Prop :=
  ∃ x y, s = x ++ y ∧ scan (x.getLast?.or before) y = none ∧
    (find (x.getLast?.or before) y).isSome = true

theorem Missed.append {before : Option Char} {s : List Char} (w : List Char)
    (h : Missed scan find (w.getLast?.or before) s) : Missed scan find before (w ++ s) := by
  obtain ⟨x, y, rfl, hmiss, hread⟩ := h
  refine ⟨w ++ x, y, (List.append_assoc w x y).symm, ?_⟩
  rw [List.getLast?_append, Option.or_assoc]
  exact ⟨hmiss, hread⟩

/-- Along a sweep: what is read in the written text is read over a seam, or it is spared and the
sweep has missed it. -/
theorem overlaps_or_spared_of_read (hscan : Reads scan Shape) (hfind : Reads find FindShape)
    (hlasting : Lasting find write) (hlast : EndsAlike find write Shape)
    {s u v rest : List Char} {b : β} (hcut : replaceAll scan write s = u ++ v)
    (hread : find u.getLast? v = some (b, rest)) :
    Overlaps write (pieces scan s) u rest ∨
      (Spared write (pieces scan s) u v rest ∧ Missed scan find none s) := by
  -- the character before the place may differ in the two texts, as long as `find` does not care
  refine (piecesFrom_induction hscan (motive := fun before s ps => StartsKept s ps ∧
    ∀ behind, (∀ t, find behind t = find before t) →
    ∀ u v b rest, ps.flatMap (Piece.render write) = u ++ v →
      find (u.getLast?.or behind) v = some (b, rest) →
      Overlaps write ps u rest ∨ (Spared write ps u v rest ∧ Missed scan find before s))
    ?_ ?_ ?_ none s).2 none (fun _ => rfl) u v b rest hcut (by rwa [Option.or_none])
  · intro before
    refine ⟨⟨[], [], [], rfl, rfl, .inl ⟨rfl, rfl⟩⟩, fun behind _ u v b rest hcut hread => ?_⟩
    obtain ⟨text, hne, rfl, -⟩ := hfind _ _ _ _ hread
    exact absurd (List.append_eq_nil_iff.1 (List.append_eq_nil_iff.1 hcut.symm).2).1 hne
  · intro before c s ps hmiss ⟨hkept, ih⟩
    refine ⟨hkept.cons c, fun behind hbehind u v b rest hcut hread => ?_⟩
    rw [List.flatMap_cons] at hcut
    cases u with
    | nil =>
      rw [List.getLast?_nil, Option.none_or, hbehind] at hread
      rw [List.nil_append] at hcut
      obtain ⟨text, -, rfl, -⟩ := hfind _ _ _ _ hread
      exact (overlaps_or_spared_of_read_kept hlasting hkept hcut hread).imp_right fun h =>
        ⟨h.1, [], c :: s, rfl, hmiss, h.2⟩
    | cons d u =>
      obtain ⟨rfl, hout⟩ := List.cons.inj hcut
      rw [getLast?_cons_or] at hread
      exact (ih (some c) (fun _ => rfl) u v b rest hout hread).imp (fun h => h.cons (.keep c))
        fun h => ⟨h.1.cons (.keep c), h.2.append [c]⟩
  · rintro before text a rest₀ ps hne hshape ⟨-, ih⟩
    refine ⟨⟨[], text ++ rest₀, .hit a :: ps, rfl, rfl, .inr ⟨a, ps, by simp [hne], rfl⟩⟩, ?_⟩
    intro behind _ u v b rest hcut hread
    have hcut : write a ++ ps.flatMap (Piece.render write) = u ++ v := by
      rw [← hcut, List.flatMap_cons]
      rfl
    have hlength := congrArg List.length hcut
    simp only [List.length_append] at hlength
    by_cases hlen : u.length < (write a).length
    · obtain ⟨text', hne', rfl, -⟩ := hfind _ _ _ _ hread
      have hpos := List.length_pos_iff.2 hne'
      refine .inl ⟨[], a, ps, rfl, hlen, ?_⟩
      simp only [List.length_append] at hlength ⊢
      omega
    · obtain ⟨z, rfl, hout⟩ := exists_append_of_length_le hcut.symm (by omega)
      rw [List.getLast?_append, Option.or_assoc] at hread
      have hbefore : text.getLast?.or before = text.getLast? := by
        rw [List.getLast?_eq_some_getLast hne, Option.some_or]
      refine (ih _ (fun t => hlast before text a rest₀ hshape behind t) z v b rest hout hread).imp
        (fun h => h.cons (.hit a)) fun h => ⟨h.1.cons (.hit a), Missed.append text ?_⟩
      rw [hbefore]
      exact h.2

/-- A construct that can be read in a swept text is read over a seam, or in characters that the
sweep has kept, because it does not look for it. -/
theorem joined_or_kept_of_readable (hscan : Reads scan Shape) (hfind : Reads find FindShape)
    (hlasting : Lasting find write) (hlast : EndsAlike find write Shape)
    {s : List Char} (h : Readable find (replaceAll scan write s)) :
    Joined scan write find s ∨ (Kept scan write find s ∧ Missed scan find none s) := by
  obtain ⟨u, v, hcut, h⟩ := h
  obtain ⟨⟨b, rest⟩, hread⟩ := Option.isSome_iff_exists.1 h
  rcases overlaps_or_spared_of_read hscan hfind hlasting hlast hcut hread with
    ⟨front, a, back, hpieces, hstart, hend⟩ | ⟨⟨front, text, back, hpieces, rfl, rfl, rfl⟩, hmissed⟩
  · refine .inl ⟨front, a, back, hpieces, u, v, b, rest, ?_, hread, hstart, hend⟩
    rw [← hcut, replaceAll, hpieces, List.flatMap_append, List.flatMap_cons, List.append_assoc]
    rfl
  · exact .inr ⟨⟨front, text, back, b, hpieces, hread⟩, hmissed⟩

theorem Missed.readable {s : List Char} (h : Missed scan find none s) : Readable find s := by
  obtain ⟨x, y, hs, -, hread⟩ := h
  rw [Option.or_none] at hread
  exact ⟨x, y, hs, hread⟩

/-- A sweep misses none of the constructs that it looks for. -/
theorem not_missed_self (scan : Scanner α) (before : Option Char) (s : List Char) :
    ¬Missed scan scan before s := by
  rintro ⟨x, y, -, hmiss, hread⟩
  rw [hmiss] at hread
  cases hread

/-- A sweep that misses nothing leaves the constructs that it joins. -/
theorem readable_replaceAll_iff (hscan : Reads scan Shape) (hlasting : Lasting scan write)
    (hlast : EndsAlike scan write Shape) (s : List Char) :
    Readable scan (replaceAll scan write s) ↔ Joined scan write scan s := by
  refine ⟨fun h => ?_, Joined.readable⟩
  exact (joined_or_kept_of_readable hscan hscan hlasting hlast h).resolve_right fun h =>
    not_missed_self scan none s h.2

/-! ## Barriers -/

/-- No construct reaches over the text. It has a sign that is in no construct; before the sign there
is nothing that a construct ends with, and behind it none can start. -/
def Barrier (find : Scanner β) (w : List Char) : Prop :=
  ∃ p c q, w = p ++ c :: q ∧
    (∀ before text b rest, find before (text ++ rest) = some (b, rest) →
      c ∉ text ∧ ∀ d ∈ p, text.getLast? ≠ some d) ∧
    ∀ x d y, q = x ++ d :: y → ∀ before back, find before (d :: y ++ back) = none

theorem Barrier.not_reaches (hfind : Reads find FindShape) {w : List Char} (hw : Barrier find w)
    (front back : List Char) : ¬Reaches find front w back := by
  obtain ⟨p, c, q, rfl, hsigns, hstarts⟩ := hw
  rintro ⟨u, v, b, rest, hcut, hread, hstart, hend⟩
  obtain ⟨text, hne, rfl, -⟩ := hfind _ _ _ _ hread
  obtain ⟨hc, hlast⟩ := hsigns _ _ _ _ hread
  have hsplit : front ++ p ++ (c :: q ++ back) = u ++ (text ++ rest) := by simp [← hcut]
  simp only [List.length_append, List.length_cons] at hstart hend
  rcases List.append_eq_append_iff.1 hsplit with ⟨z, rfl, hz⟩ | ⟨z, hp, hz⟩
  · cases z with
    | nil =>
      -- the construct starts with the sign
      obtain ⟨d, text, rfl⟩ := List.exists_cons_of_ne_nil hne
      obtain ⟨rfl, -⟩ := List.cons.inj hz
      exact hc List.mem_cons_self
    | cons e x =>
      -- the construct starts behind the sign
      obtain ⟨rfl, hq⟩ := List.cons.inj hz
      simp only [List.length_append, List.length_cons] at hstart
      have hlength := congrArg List.length hq
      simp only [List.append_eq, List.length_append] at hlength
      obtain ⟨y, rfl, hy⟩ := exists_append_of_length_le hq (by rw [List.length_append]; omega)
      cases y with
      | nil =>
        rw [List.append_nil] at hstart
        omega
      | cons d y =>
        rw [hy, hstarts x d y rfl] at hread
        cases hread
  · -- the construct starts before the sign: it does not end there, and it does not go over it
    have hends : ∀ x, z = text ++ x → rest ≠ x ++ (c :: q ++ back) := by
      rintro x rfl rfl
      simp only [List.length_append, List.length_cons] at hend
      rw [← List.append_assoc] at hp
      obtain ⟨y, hy, rfl⟩ := exists_append_of_length_le hp.symm (by omega)
      have hy' : y ≠ [] := by
        rintro rfl
        rw [List.nil_append] at hend
        omega
      have hlasty : text.getLast? = some (y.getLast hy') := by
        have h := congrArg List.getLast? hy
        rwa [List.getLast?_append_of_ne_nil _ hne, List.getLast?_append_of_ne_nil _ hy',
          List.getLast?_eq_some_getLast hy'] at h
      exact hlast _ (List.mem_append_left x (List.getLast_mem hy')) hlasty
    rcases List.append_eq_append_iff.1 hz with ⟨x, hx, hrest⟩ | ⟨x, rfl, hx⟩
    · exact hends x hx hrest
    · cases x with
      | nil => exact hends [] (by simp) hx.symm
      | cons e x =>
        obtain ⟨rfl, -⟩ := List.cons.inj hx
        exact hc (by simp)

/-- A sweep that writes nothing but barriers leaves no construct, if it misses none. -/
theorem not_readable_replaceAll (hscan : Reads scan Shape) (hfind : Reads find FindShape)
    (hlasting : Lasting find write) (hlast : EndsAlike find write Shape)
    (hbarrier : ∀ before text a rest, Shape before text a rest → Barrier find (write a))
    {s : List Char} (hs : ¬Missed scan find none s) : ¬Readable find (replaceAll scan write s) := by
  intro h
  obtain ⟨ps, a, qs, hpieces, hreaches⟩ :=
    (joined_or_kept_of_readable hscan hfind hlasting hlast h).resolve_right fun h => hs h.2
  have hmem : a ∈ hits scan s := by simp [hits, hpieces, Piece.value?]
  obtain ⟨before, text, rest, hshape⟩ := exists_shape_of_mem_hits hscan hmem
  exact (hbarrier before text a rest hshape).not_reaches hfind _ _ hreaches

end SqlDialect.Scan
