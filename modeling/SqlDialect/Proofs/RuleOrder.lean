import Mathlib.Data.List.Pairwise
import Mathlib.Logic.Function.Conjugate
import SqlDialect.Proofs.Brackets
import SqlDialect.Proofs.DateArguments
import SqlDialect.Proofs.Elimination
import SqlDialect.Proofs.TwoSweeps

/-!
# Rules that can change places

The rules for names in brackets, random order, pages and renamed functions each sweep a text for
constructs of their own. A call and a page never overlap, and neither is read over what is written
for the other. A name in brackets may have any of them in it, but its brackets and quotes are signs
that none of them has.

* `Segmented` — a function that works on the stretches between brackets and quotes one by one. It
  can change places with the rule for names (`Segmented.commute`).
* `CallText.eq_none_within`, `CallText.ends_apart` — no call starts within another one or within a
  page, and no page within a call.
* `ReadsCall.commute`, `ReadsCall.commute_page` — so the sweeps for them can change places.
* `Rule.commute_apply`, `Pipeline.translate_perm` — hence the order of the four rules does not
  matter.
-/

namespace SqlDialect.Query

open Scan Text

/-! ## Stretches between brackets and quotes -/

theorem isWord_of_mem_nameSigns {c : Char} (h : c ∈ nameSigns) :
    isWord c = false ∧ isBlank c = false ∧ c ∉ ['(', ')'] := by
  simp only [nameSigns, List.mem_cons, List.not_mem_nil, or_false] at h
  rcases h with rfl | rfl | rfl
  · decide
  · decide
  · decide

theorem signFree_or_exists_sign (s : List Char) :
    SignFree s ∨ ∃ u sign v, SignFree u ∧ sign ∈ nameSigns ∧ s = u ++ sign :: v := by
  induction s with
  | nil => exact .inl fun _ hc => absurd hc List.not_mem_nil
  | cons c s ih =>
    by_cases hc : c ∈ nameSigns
    · exact .inr ⟨[], c, s, fun _ hd => absurd hd List.not_mem_nil, hc, rfl⟩
    · rcases ih with hfree | ⟨u, sign, v, hfree, hsign, rfl⟩
      · exact .inl (signFree_cons.2 ⟨hc, hfree⟩)
      · exact .inr ⟨c :: u, sign, v, signFree_cons.2 ⟨hc, hfree⟩, hsign, rfl⟩

/-- Which sign is faced is told by the first one. -/
theorem facing_append_cons {sign first : Char} (hsign : sign ∈ nameSigns)
    (hfirst : first ∈ nameSigns) {u : List Char} (hu : SignFree u) (v : List Char) :
    facing sign (u ++ first :: v) = true ↔ u ≠ [] ∧ first = sign := by
  rw [facing_iff hsign]
  constructor
  · rintro ⟨name, rest, hne, hcut, hname⟩
    rcases List.append_eq_append_iff.1 hcut with ⟨z, rfl, hz⟩ | ⟨z, rfl, hz⟩
    · cases z with
      | nil => exact ⟨by simpa using hne, (List.cons.inj hz).1⟩
      | cons c z =>
        obtain ⟨rfl, -⟩ := List.cons.inj hz
        exact absurd hfirst (hname first (by simp))
    · cases z with
      | nil => exact ⟨by simpa using hne, (List.cons.inj hz).1.symm⟩
      | cons c z =>
        obtain ⟨rfl, -⟩ := List.cons.inj hz
        exact absurd hsign (hu sign (by simp))
  · rintro ⟨hne, rfl⟩
    exact ⟨u, v, hne, rfl, hu⟩

theorem facing_of_signFree {sign : Char} (hsign : sign ∈ nameSigns) {s : List Char}
    (h : SignFree s) : ¬facing sign s = true := by
  rw [facing_iff hsign]
  rintro ⟨name, rest, -, rfl, -⟩
  exact h sign (by simp) hsign

/-- The function works on the stretches between brackets and quotes one by one: it keeps these
signs, puts none in, and leaves nothing of a stretch only if there is nothing. -/
structure Segmented (f : List Char → List Char) : Prop where
  cut : ∀ sign ∈ nameSigns, ∀ x y, f (x ++ sign :: y) = f x ++ sign :: f y
  free : ∀ s, SignFree s → SignFree (f s)
  nil_iff : ∀ s, f s = [] ↔ s = []

namespace Segmented

variable {f g : List Char → List Char}

theorem comp (hf : Segmented f) (hg : Segmented g) : Segmented (f ∘ g) where
  cut sign hsign x y := by simp only [Function.comp_apply, hg.cut sign hsign, hf.cut sign hsign]
  free s hs := hf.free _ (hg.free s hs)
  nil_iff s := (hf.nil_iff _).trans (hg.nil_iff s)

/-- A bracket faces the same sign before and after. -/
theorem facing_iff (hf : Segmented f) {sign : Char} (hsign : sign ∈ nameSigns) (s : List Char) :
    facing sign (f s) = true ↔ facing sign s = true := by
  rcases signFree_or_exists_sign s with hfree | ⟨u, first, v, hu, hfirst, rfl⟩
  · exact iff_of_false (facing_of_signFree hsign (hf.free s hfree)) (facing_of_signFree hsign hfree)
  · rw [hf.cut first hfirst, facing_append_cons hsign hfirst (hf.free u hu),
      facing_append_cons hsign hfirst hu, ne_eq, hf.nil_iff]

/-- Names can be put between quotes before or after. -/
theorem apply_quoteBracketedNames (hf : Segmented f) (s : List Char) :
    f (quoteBracketedNames s) = quoteBracketedNames (f s) := by
  induction hn : s.length using Nat.strongRecOn generalizing s with
  | _ n ih =>
    subst hn
    have hopen : ∀ {t : List Char}, SignFree t → '[' ∉ t := fun ht hmem => ht '[' hmem (by decide)
    rcases signFree_or_exists_sign s with hfree | ⟨u, sign, v, hu, hsign, rfl⟩
    · rw [quoteBracketedNames_of_not_mem (hopen hfree),
        quoteBracketedNames_of_not_mem (hopen (hf.free s hfree))]
    · rw [quoteBracketedNames_append (hopen hu), hf.cut sign hsign,
        quoteBracketedNames_append (hopen (hf.free u hu))]
      by_cases hread : sign = '[' ∧ facing ']' v = true
      · -- a name: both of its signs become quotes, and quotes cut a text as brackets do
        obtain ⟨rfl, hfacing⟩ := hread
        obtain ⟨name, rest, hne, rfl, hname⟩ := (Query.facing_iff (by decide)).1 hfacing
        have hne' : f name ≠ [] := fun hnil => hne ((hf.nil_iff name).1 hnil)
        rw [hf.cut ']' (by decide), quoteBracketedNames_name hne hname,
          quoteBracketedNames_name hne' (hf.free name hname), hf.cut '"' (by decide),
          hf.cut '"' (by decide), ih _ (by simp; omega) rest rfl]
      · have hread' : ¬(sign = '[' ∧ facing ']' (f v) = true) := by
          rwa [hf.facing_iff (by decide)]
        rw [quoteBracketedNames_cons hread, quoteBracketedNames_cons hread', hf.cut sign hsign,
          ih _ (by simp; omega) v rfl]

theorem commute (hf : Segmented f) : Function.Commute f quoteBracketedNames :=
  hf.apply_quoteBracketedNames

end Segmented

/-- A sweep is segmented if brackets and quotes are signs to it that are in none of its constructs
and in nothing that it writes. -/
theorem segmented_replaceAll {α : Type} {scan : Scanner α} {write : α → List Char}
    {Shape : Option Char → List Char → α → List Char → Prop} (hscan : Reads scan Shape)
    (hended : ∀ before, Ended (scan before))
    (hstart : ∀ sign ∈ nameSigns, ∀ t, scan (some sign) t = scan none t)
    (hshape : ∀ before text a rest, Shape before text a rest →
      SignFree text ∧ write a ≠ [] ∧ SignFree (write a)) :
    Segmented (replaceAll scan write) where
  cut sign hsign x y := by
    have hcut : replaceFrom scan write none (x ++ sign :: y) =
        replaceFrom scan write none x ++ sign :: replaceFrom scan write (some sign) y :=
      replaceFrom_append_cons hscan hended (fun before text a rest hread hmem =>
        (hshape _ _ _ _ (hscan.shape hread).2).1 sign hmem hsign) none x y
    rwa [replaceFrom_congr (hstart sign hsign)] at hcut
  free s := by
    unfold replaceAll pieces
    refine piecesFrom_induction hscan (motive := fun _ s ps =>
      SignFree s → SignFree (ps.flatMap (Piece.render write))) ?_ ?_ ?_ none s
    · exact fun _ h => h
    · intro _ c s ps _ ih h
      obtain ⟨hc, hs⟩ := signFree_cons.1 h
      exact signFree_cons.2 ⟨hc, ih hs⟩
    · intro before text a rest ps _ htext ih h
      have hrest : SignFree rest := fun c hc => h c (List.mem_append_right text hc)
      exact List.forall_mem_append.2 ⟨(hshape before text a rest htext).2.2, ih hrest⟩
  nil_iff s := by
    cases s with
    | nil => exact iff_of_true rfl rfl
    | cons c s =>
      refine iff_of_false ?_ (by simp)
      unfold replaceAll pieces
      cases hread : scan none (c :: s) with
      | none =>
        rw [piecesFrom_of_miss hread]
        simp [Piece.render]
      | some r =>
        obtain ⟨text, hne, heq, htext⟩ := hscan _ _ _ _ hread
        obtain ⟨d, text, rfl⟩ := List.exists_cons_of_ne_nil hne
        rw [heq] at hread ⊢
        rw [piecesFrom_of_hit hread]
        simp [Piece.render, (hshape none _ _ _ htext).2.1]

/-! ## Pages -/

theorem signFree_of_words {s : List Char} (h : ∀ c ∈ s, isWord c = true ∨ isBlank c = true) :
    SignFree s := by
  intro c hc hsign
  obtain ⟨hword, hblank, -⟩ := isWord_of_mem_nameSigns hsign
  simpa [hword, hblank] using h c hc

/-- A word is a barrier to pages if it has a letter that they do not have. -/
theorem fetchClause_barrier_word {c : Char} {p q : List Char} (hc : (fold c).isAlpha = true)
    (hwords : ∀ row ∈ ["row", "rows"], ∀ next ∈ ["next", "first"], ∀ row' ∈ ["row", "rows"],
      fold c ∉ (pageWords row next row').map fold)
    (hp : 'y' ∉ p.map fold) (hq : q.all (!isBlank ·) = true) :
    Barrier fetchClause (p ++ c :: q) := by
  refine fetchClause_barrier_letter hc hwords hp fun x d y hcut before back => ?_
  have hd := List.all_eq_true.1 hq d (by simp [hcut])
  exact fetchClause_of_not_isBlank (by simpa using hd) before _

/-- A page by offset and limit, cut before the last letter of `LIMIT`. -/
theorem FetchClause.asLimit_eq (f : FetchClause) :
    f.asLimit = " OFFSET ".toList ++ f.offset ++ " LIMI".toList ++ 'T' :: ' ' :: f.rows := by
  have hlimit : " LIMIT ".toList = " LIMI".toList ++ ['T', ' '] := by decide
  unfold FetchClause.asLimit
  generalize " OFFSET ".toList = offset, " LIMIT ".toList = limit, " LIMI".toList = front
    at hlimit ⊢
  simp [hlimit]

/-- Pages end with a letter, and what is written for them with a digit. No word starts there. -/
theorem FetchClauseText.atWordStart_getLast? {text : List Char} {f : FetchClause}
    (h : FetchClauseText text f) (behind : Option Char) :
    atWordStart text.getLast? = false ∧ atWordStart (f.asLimit.getLast?.or behind) = false := by
  have hrows := h.digits.2
  have hdigit := isWord_of_isDigit (hrows.2 _ (List.getLast_mem hrows.1))
  obtain ⟨d, hlast, hd⟩ := Option.map_eq_some_iff.1 h.fold_getLast?
  have hletter := (isWord_of_fold_isAlpha (c := d) (by rw [hd]; decide)).1
  have hlimit : f.asLimit.getLast? = some (f.rows.getLast hrows.1) := by
    unfold FetchClause.asLimit
    rw [List.getLast?_append_of_ne_nil _ hrows.1, List.getLast?_eq_some_getLast]
  rw [hlimit, hlast, Option.some_or, atWordStart, atWordStart, hdigit, hletter]
  exact ⟨rfl, rfl⟩

/-! ## Calls and pages lie apart -/

theorem CallText.signFree {name : String} (hname : IsCallName name) {text : List Char}
    (h : CallText name text) : SignFree text := by
  intro c hc hsign
  obtain ⟨hword, hblank, hparen⟩ := isWord_of_mem_nameSigns hsign
  exact h.not_mem (hname.fold_not_mem hword) hblank hparen hc

/-- A call and a page: neither ends with a character of the other. -/
theorem CallText.ends_apart {name : String} (hy : 'y' ∉ name.toList.map fold)
    {text page : List Char} {f : FetchClause} (htext : CallText name text)
    (hpage : FetchClauseText page f) :
    (∀ d ∈ text, page.getLast? ≠ some d) ∧ ∀ d ∈ page, text.getLast? ≠ some d := by
  constructor
  · intro d hd hlast
    have hfold := hpage.fold_getLast?
    rw [hlast, Option.map_some] at hfold
    have hdy : fold d = 'y' := Option.some.inj hfold
    have hword := (isWord_of_fold_isAlpha (c := d) (by rw [hdy]; decide)).1
    have hblank : isBlank d = false := by
      by_contra hb
      rw [isWord_of_isBlank (by simpa using hb)] at hword
      cases hword
    refine htext.not_mem (by rwa [hdy]) hblank (fun hparen => ?_) hd
    rw [(isWord_of_mem_parens hparen).1] at hword
    cases hword
  · intro d hd hlast
    obtain ⟨sign, hsign, hlast'⟩ := htext.getLast?
    rw [hlast] at hlast'
    obtain rfl := Option.some.inj hlast'
    obtain ⟨hword, hblank, -⟩ := isWord_of_mem_parens hsign
    simpa [hword, hblank] using hpage.isWord_or_isBlank d hd

/-- No call starts within a call whose name starts with another letter. -/
theorem CallText.eq_none_within {name other : String} {text : List Char}
    (htext : CallText name text) {scan : Scanner Unit} (hscan : ReadsCall other scan)
    (hname : IsCallName name) (hother : IsCallName other)
    (hfirst : (name.toList.map fold).head? ≠ (other.toList.map fold).head?) (before : Option Char)
    (rest : List Char) {x y : List Char} {c : Char} (hcut : text = x ++ c :: y) :
    scan (x.getLast?.or before) (c :: y ++ rest) = none := by
  cases hread : scan (x.getLast?.or before) (c :: y ++ rest) with
  | none => rfl
  | some r =>
    obtain ⟨t, -, heq, hstart, word', tail', rfl, hword', -⟩ := hscan.reads _ _ _ _ hread
    obtain ⟨word, tail, rfl, hword, htail, -⟩ := htext
    obtain ⟨d, word', rfl⟩ := List.exists_cons_of_ne_nil (hword'.ne_nil hother.1)
    obtain ⟨rfl, -⟩ := List.cons.inj heq
    have hletter := (hword'.isWord hother.2 c List.mem_cons_self).1
    have hend : c ∉ tail := fun hc => by
      rw [(htail c hc).elim isWord_of_isBlank fun h => (isWord_of_mem_parens h).1] at hletter
      cases hletter
    rcases List.append_eq_append_iff.1 hcut with ⟨z, -, rfl⟩ | ⟨z, rfl, hz⟩
    · exact absurd (by simp) hend
    · cases z with
      | nil =>
        rw [List.nil_append] at hz
        exact absurd (hz ▸ List.mem_cons_self) hend
      | cons d z =>
        obtain ⟨rfl, -⟩ := List.cons.inj hz
        -- within the name, a word can only start where the name does
        rcases List.eq_nil_or_concat x with rfl | ⟨x, e, rfl⟩
        · unfold Spells at hword hword'
          rw [← hword, ← hword'] at hfirst
          exact absurd rfl hfirst
        · have he := (hword.isWord hname.2 e (by simp)).1
          rw [List.concat_eq_append, List.getLast?_concat, Option.some_or, atWordStart, he]
            at hstart
          cases hstart

/-! ## Sweeps that can change places -/

namespace ReadsCall

variable {name other : String} {find scan : Scanner Unit} {w v : List Char}

/-- A call and what is written for it, as seen by a sweep for other calls. -/
theorem untouched (hfind : ReadsCall name find) (hscan : ReadsCall other scan)
    (hname : IsCallName name) (hother : IsCallName other)
    (hfirst : (name.toList.map fold).head? ≠ (other.toList.map fold).head?)
    (hw : Barrier find w) (hlast : w.getLast?.any (!isWord ·) = true) :
    Untouched find scan (fun _ => w)
      fun before text _ _ => atWordStart before = true ∧ CallText other text where
  ended := hfind.ended
  alike := hfind.endsAlike other hlast
  barrier _ _ _ _ _ := hw
  apart before _ _ rest hread _ _ _ hcut :=
    (hfind.reads.shape hread).2.2.eq_none_within hscan hname hother hfirst before rest hcut

/-- Sweeps for calls whose names start with different letters can change places. -/
theorem commute (hfind : ReadsCall name find) (hscan : ReadsCall other scan)
    (hname : IsCallName name) (hother : IsCallName other)
    (hfirst : (name.toList.map fold).head? ≠ (other.toList.map fold).head?)
    (hw : Barrier find w ∧ w.getLast?.any (!isWord ·) = true)
    (hv : Barrier scan v ∧ v.getLast?.any (!isWord ·) = true) :
    Function.Commute (replaceAll find fun _ => v) (replaceAll scan fun _ => w) :=
  replaceAll_comm hscan.reads hfind.reads
    (hfind.untouched hscan hname hother hfirst hw.1 hw.2)
    (hscan.untouched hfind hother hname hfirst.symm hv.1 hv.2)

/-- A call and what is written for it, as seen by a sweep for pages. -/
theorem untouched_page (hscan : ReadsCall name scan) (hy : 'y' ∉ name.toList.map fold)
    (hw : Barrier fetchClause w) :
    Untouched fetchClause scan (fun _ => w)
      fun before text _ _ => atWordStart before = true ∧ CallText name text where
  ended := fetchClause_ended
  alike _ _ _ _ _ _ _ := rfl
  barrier _ _ _ _ _ := hw
  apart before text _ rest hread _ _ _ hcut := by
    have hpage := (fetchClause_reads.shape hread).2
    refine Scan.eq_none_within hscan.reads (fun _ t _ _ ht => ?_) _ rest hcut
    exact (ht.2.ends_apart hy hpage).symm

/-- A page is written as a barrier to calls. -/
theorem barrier_asLimit (hfind : ReadsCall name find) (hname : IsCallName name)
    (ht : 't' ∉ name.toList.map fold) {f : FetchClause} (hoffset : Digits f.offset)
    (hrows : Digits f.rows) : Barrier find f.asLimit := by
  obtain ⟨c, rest, hc⟩ := List.exists_cons_of_ne_nil hname.1
  have hfirst : (name.toList.map fold).head? = some (fold c) := by rw [hc]; rfl
  have hletter : (fold c).isAlpha = true :=
    List.all_eq_true.1 hname.2 _ (List.mem_map_of_mem (by simp [hc]))
  rw [f.asLimit_eq]
  refine hfind.barrier hfirst ⟨ht, by decide, by decide⟩ ?_ ?_
  · have hopen : '(' ∉ f.offset ∧ ')' ∉ f.offset :=
      ⟨hoffset.not_mem (by decide), hoffset.not_mem (by decide)⟩
    simpa using hopen
  · have hcount : (((' ' :: f.rows).map fold)).count (fold c) = 0 := by
      refine count_fold_eq_zero hletter fun d hd => ?_
      rcases List.mem_cons.1 hd with rfl | hd
      · exact .inl (by decide)
      · exact .inr (hrows.2 d hd)
    rwa [List.count_eq_zero] at hcount

theorem endsAlike_page (hfind : ReadsCall name find) :
    EndsAlike find FetchClause.asLimit fun _ text f _ => FetchClauseText text f := by
  intro before text f rest hpage behind t
  obtain ⟨htext, hlimit⟩ := hpage.atWordStart_getLast? behind
  exact congrFun (hfind.start _ _ (hlimit.trans htext.symm)) t

/-- A page and what is written for it, as seen by a sweep for calls. -/
theorem page_untouched (hfind : ReadsCall name find) (hname : IsCallName name)
    (ht : 't' ∉ name.toList.map fold) (hy : 'y' ∉ name.toList.map fold) :
    Untouched find fetchClause FetchClause.asLimit fun _ text f _ => FetchClauseText text f where
  ended := hfind.ended
  alike := hfind.endsAlike_page
  barrier _ _ _ _ hpage := hfind.barrier_asLimit hname ht hpage.digits.1 hpage.digits.2
  apart before text _ rest hread _ _ _ hcut := by
    have htext := (hfind.reads.shape hread).2.2
    exact Scan.eq_none_within fetchClause_reads
      (fun _ t _ _ hpage => htext.ends_apart hy hpage) _ rest hcut

/-- A sweep for calls and the sweep for pages can change places. -/
theorem commute_page (hscan : ReadsCall name scan) (hname : IsCallName name)
    (ht : 't' ∉ name.toList.map fold) (hy : 'y' ∉ name.toList.map fold)
    (hw : Barrier fetchClause w) :
    Function.Commute limitFetchClauses (replaceAll scan fun _ => w) :=
  replaceAll_comm hscan.reads fetchClause_reads (hscan.untouched_page hy hw)
    (hscan.page_untouched hname ht hy)

/-- A sweep for calls is segmented. -/
theorem segmented (hscan : ReadsCall name scan) (hname : IsCallName name) (hne : w ≠ [])
    (hw : SignFree w) : Segmented (replaceAll scan fun _ => w) := by
  refine segmented_replaceAll hscan.reads hscan.ended (fun sign hsign t => ?_)
    fun _ _ _ _ htext => ⟨htext.2.signFree hname, hne, hw⟩
  refine congrFun (hscan.start _ _ ?_) t
  simp [atWordStart, isWord_of_mem_nameSigns hsign]

end ReadsCall

theorem segmented_limitFetchClauses : Segmented limitFetchClauses := by
  refine segmented_replaceAll fetchClause_reads fetchClause_ended (fun _ _ _ => rfl)
    fun _ text f _ hpage => ⟨signFree_of_words hpage.isWord_or_isBlank, ?_, ?_⟩
  · rw [f.asLimit_eq]
    simp
  · obtain ⟨hoffset, hrows⟩ := hpage.digits
    have hdigits : ∀ {m}, Digits m → ∀ c ∈ m, isWord c = true ∨ isBlank c = true :=
      fun hm c hc => .inl (isWord_of_isDigit (hm.2 c hc))
    have hwords : ∀ word ∈ [" OFFSET ", " LIMIT "], SignFree word.toList := by decide
    unfold FetchClause.asLimit
    refine List.forall_mem_append.2 ⟨List.forall_mem_append.2 ⟨List.forall_mem_append.2
      ⟨hwords _ (by simp), signFree_of_words (hdigits hoffset)⟩, hwords _ (by simp)⟩,
      signFree_of_words (hdigits hrows)⟩

theorem segmented_renameRandomCalls : Segmented renameRandomCalls :=
  newidCall_readsCall.segmented (by decide) (by decide) (by decide)

theorem segmented_renameScalarCalls : Segmented renameScalarCalls :=
  (isnullCall_readsCall.segmented (by decide) (by decide) (by decide)).comp
    (lenCall_readsCall.segmented (by decide) (by decide) (by decide))

theorem commute_limitFetchClauses_renameRandomCalls :
    Function.Commute limitFetchClauses renameRandomCalls :=
  newidCall_readsCall.commute_page (by decide) (by decide) (by decide)
    (fetchClause_barrier_word (p := "RANDO".toList) (c := 'M') (q := "()".toList) (by decide)
      (by decide) (by decide) (by decide))

theorem commute_limitFetchClauses_renameScalarCalls :
    Function.Commute limitFetchClauses renameScalarCalls := by
  have hlen : Function.Commute limitFetchClauses (replaceAll lenCall fun _ => "LENGTH(".toList) :=
    lenCall_readsCall.commute_page (by decide) (by decide) (by decide)
      (fetchClause_barrier_word (p := "LEN".toList) (c := 'G') (q := "TH(".toList) (by decide)
        (by decide) (by decide) (by decide))
  have hisnull : Function.Commute limitFetchClauses
      (replaceAll isnullCall fun _ => "COALESCE(".toList) :=
    isnullCall_readsCall.commute_page (by decide) (by decide) (by decide)
      (fetchClause_barrier_word (p := "CO".toList) (c := 'A') (q := "LESCE(".toList) (by decide)
        (by decide) (by decide) (by decide))
  exact hisnull.comp_right hlen

theorem commute_renameRandomCalls_renameScalarCalls :
    Function.Commute renameRandomCalls renameScalarCalls := by
  have hlength : Barrier newidCall "LENGTH(".toList :=
    newidCall_readsCall.barrier (p := "LEN".toList) (c := 'G') (q := "TH(".toList) rfl (by decide)
      (by decide) (by decide)
  have hcoalesce : Barrier newidCall "COALESCE(".toList :=
    newidCall_readsCall.barrier (p := []) (c := 'C') (q := "OALESCE(".toList) rfl (by decide)
      (by decide) (by decide)
  have hlen : Barrier lenCall "RANDOM()".toList :=
    lenCall_readsCall.barrier (p := []) (c := 'R') (q := "ANDOM()".toList) rfl (by decide)
      (by decide) (by decide)
  have hisnull : Barrier isnullCall "RANDOM()".toList :=
    isnullCall_readsCall.barrier (p := []) (c := 'R') (q := "ANDOM()".toList) rfl (by decide)
      (by decide) (by decide)
  have hcommute : Function.Commute renameRandomCalls
      (replaceAll lenCall fun _ => "LENGTH(".toList) :=
    newidCall_readsCall.commute lenCall_readsCall (by decide) (by decide) (by decide)
      ⟨hlength, by decide⟩ ⟨hlen, by decide⟩
  have hcommute' : Function.Commute renameRandomCalls
      (replaceAll isnullCall fun _ => "COALESCE(".toList) :=
    newidCall_readsCall.commute isnullCall_readsCall (by decide) (by decide) (by decide)
      ⟨hcoalesce, by decide⟩ ⟨hisnull, by decide⟩
  exact hcommute'.comp_right hcommute

end SqlDialect.Query

namespace SqlDialect

open Query Scan

/-- Two rules for names in brackets, random order, pages and renamed functions can change places. -/
theorem Rule.commute_apply (whole : List Char) {rule other : Rule}
    (hrule : rule ∈ [.bracketedNames, .randomCalls, .fetchClauses, .scalarCalls])
    (hother : other ∈ [.bracketedNames, .randomCalls, .fetchClauses, .scalarCalls]) :
    Function.Commute (rule.apply whole) (other.apply whole) := by
  let Commutes (r r' : Rule) : Prop := Function.Commute (r.apply whole) (r'.apply whole)
  have hsymm : Std.Symm Commutes := ⟨fun _ _ h => h.symm⟩
  have hpairs : [.bracketedNames, .randomCalls, .fetchClauses, .scalarCalls].Pairwise Commutes := by
    simp only [List.pairwise_cons, List.forall_mem_cons, List.not_mem_nil, false_imp_iff,
      implies_true, and_true, List.Pairwise.nil]
    exact ⟨⟨segmented_renameRandomCalls.commute.symm, segmented_limitFetchClauses.commute.symm,
        segmented_renameScalarCalls.commute.symm⟩,
      ⟨commute_limitFetchClauses_renameRandomCalls.symm,
        commute_renameRandomCalls_renameScalarCalls⟩,
      commute_limitFetchClauses_renameScalarCalls⟩
  exact hpairs.forall_of_forall (fun _ _ => .refl _) hrule hother

/-- A run applies one rule after the other. -/
theorem Pipeline.runRules_fst_eq_foldl (whole : List Char) (rules : List Rule) (s : List Char) :
    (runRules whole rules s).1 = rules.foldl (fun t rule => rule.apply whole t) s := by
  induction rules generalizing s with
  | nil => rfl
  | cons rule rules ih => rw [runRules_cons_fst, ih, List.foldl_cons]

/-- **The order of four rules does not matter.** Pipelines of the rules for names in brackets, random
order, pages and renamed functions translate every query alike if they differ in the order of their
rules only. -/
theorem Pipeline.translate_perm {p r : Pipeline} (hperm : p.rules.Perm r.rules)
    (hrules : ∀ rule ∈ p.rules,
      rule ∈ [.bracketedNames, .randomCalls, .fetchClauses, .scalarCalls]) (query : String) :
    p.translate query = r.translate query := by
  rw [translate, translate, run_text, run_text, runRules_fst_eq_foldl, runRules_fst_eq_foldl]
  refine congrArg String.ofList (hperm.foldl_eq' (fun rule hrule other hother t => ?_) _)
  exact Rule.commute_apply _ (hrules other hother) (hrules rule hrule) t

/-- Calls in a name, a page glued to a call, and calls that are not closed. -/
theorem Pipeline.translate_perm_reversed :
    let p : Pipeline := ⟨[.bracketedNames, .randomCalls, .fetchClauses, .scalarCalls]⟩
    let r : Pipeline := ⟨[.scalarCalls, .fetchClauses, .randomCalls, .bracketedNames]⟩
    let query := "[LEN (a]ISNULL([x], len(NewId ( ))) offset 1 row fetch first 2 rows onlyLEN(]"
    p.rules.Perm r.rules ∧
      (∀ rule ∈ p.rules, rule ∈ [.bracketedNames, .randomCalls, .fetchClauses, .scalarCalls]) ∧
      p.translate query = r.translate query ∧
      p.translate query =
        "\"LENGTH(a\"COALESCE(\"x\", LENGTH(RANDOM())) OFFSET 1 LIMIT 2LEN(]" := by
  intro p r query
  have hperm : p.rules.Perm r.rules := (List.reverse_perm p.rules).symm
  have hrules : ∀ rule ∈ p.rules,
      rule ∈ [.bracketedNames, .randomCalls, .fetchClauses, .scalarCalls] := fun _ h => h
  exact ⟨hperm, hrules, translate_perm hperm hrules query, by decide +kernel⟩

end SqlDialect
