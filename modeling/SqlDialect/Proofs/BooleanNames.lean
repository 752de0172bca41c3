import SqlDialect.Proofs.DateArguments

/-!
# The names of boolean columns

A boolean column is looked for at every double quote, with a table in front of it and without one,
and of its name all places are tried where one of the fragments may stand. In a text whose quotes
are known this comes down to a single question.

* `Marked` — a name has one of the fragments in it, in any letter case.
* `mem_nameEnds_iff` — a name ends at its closing quote, whatever fragment is found in it, and it
  has an end exactly when it is marked. This needs fragments without quotes (`Unquoted`).
* `flagComparison_plain`, `flagComparison_qualified`, `flagComparison_eq_none` — what is read at a
  quote: the name behind it, the name behind that one and a dot, or nothing.
-/

namespace SqlDialect.Query

open Scan Text

/-! ## Marked names -/

/-- One of the fragments stands in the name, in any letter case. -/
def Marked (fragments : List (List Char)) (name : List Char) : Prop :=
  ∃ f ∈ fragments, f.map fold <:+: name.map fold

theorem marked_iff {fragments : List (List Char)} {name : List Char} : Marked fragments name ↔
    (fragments.any fun f =>
      (name.map fold).tails.any fun t => (f.map fold).isPrefixOf t) = true := by
  unfold Marked
  simp only [List.any_eq_true, List.mem_tails, List.isPrefixOf_iff_prefix,
    List.infix_iff_prefix_suffix]
  exact exists_congr fun f => and_congr_right fun _ => exists_congr fun t => and_comm

instance (fragments : List (List Char)) (name : List Char) : Decidable (Marked fragments name) :=
  decidable_of_iff _ marked_iff.symm

/-- A fragment stands in a name where some stretch of the name folds to it. -/
theorem infix_map_fold_iff {f name : List Char} : f.map fold <:+: name.map fold ↔
    ∃ x t y, name = x ++ (t ++ y) ∧ t.map fold = f.map fold := by
  constructor
  · rintro ⟨a, b, h⟩
    rw [List.append_assoc] at h
    obtain ⟨x, s, rfl, -, hs⟩ := List.map_eq_append_iff.1 h.symm
    obtain ⟨t, y, rfl, ht, -⟩ := List.map_eq_append_iff.1 hs
    exact ⟨x, t, y, rfl, ht⟩
  · rintro ⟨x, t, y, rfl, ht⟩
    refine ⟨x.map fold, y.map fold, ?_⟩
    rw [← ht, List.map_append, List.map_append, List.append_assoc]

/-- None of the fragments has a double quote in it. -/
def BooleanColumns.Unquoted (columns : BooleanColumns) : Prop :=
  ∀ f ∈ columns.fragments, '"' ∉ f

/-- No other character folds to a double quote. -/
theorem eq_quote_of_fold {c : Char} (h : fold c = '"') : c = '"' := by
  have hlt : (fold c).toNat < 128 := by rw [h]; decide
  have hall : ∀ n : Fin 128, fold (Char.ofNat n) = '"' → Char.ofNat n = '"' := by decide
  rcases ascii_or_of_fold_ascii hlt with hc | rfl | rfl
  · exact ascii_cases (P := fun c => fold c = '"' → c = '"') hall hc h
  · exact absurd h (by decide)
  · exact absurd h (by decide)

theorem not_mem_of_map_fold_eq {f t : List Char} (hf : '"' ∉ f) (h : t.map fold = f.map fold) :
    '"' ∉ t := by
  intro ht
  have hmem : fold '"' ∈ f.map fold := h ▸ List.mem_map_of_mem ht
  obtain ⟨c, hc, hfold⟩ := List.mem_map.1 hmem
  have hquote : fold '"' = '"' := by decide
  exact hf (eq_quote_of_fold (hfold.trans hquote) ▸ hc)

/-! ## Ends of names -/

theorem bne_quote_of_not_mem {g : List Char} (hg : '"' ∉ g) : ∀ c ∈ g, (c != '"') = true :=
  fun _ hc => bne_iff_ne.2 fun h => hg (h ▸ hc)

theorem closeName?_append {g : List Char} (hg : '"' ∉ g) (r : List Char) :
    closeName? (g ++ '"' :: r) = some r := by
  have hdrop : (g ++ '"' :: r).dropWhile (· != '"') = '"' :: r :=
    List.dropWhile_append_of_pos (bne_quote_of_not_mem hg)
  rw [closeName?, hdrop]
  rfl

variable {columns : BooleanColumns} {g r : List Char}

theorem mem_fragmentEnds_iff (hcolumns : columns.Unquoted) (hg : '"' ∉ g) {rest : List Char} :
    rest ∈ fragmentEnds columns (g ++ '"' :: r) ↔
      rest = r ∧ ∃ f ∈ columns.fragments, ∃ t y, g = t ++ y ∧ t.map fold = f.map fold := by
  unfold fragmentEnds
  simp only [List.mem_filterMap, Option.bind_eq_some_iff, dropFolded?_eq_some_iff]
  constructor
  · rintro ⟨f, hf, s, ⟨t, hs, ht⟩, hclose⟩
    have hquote : '"' ∉ t := not_mem_of_map_fold_eq (hcolumns f hf) ht
    rcases append_cons_eq_append (a := []) hquote hs with ⟨u, rfl, rfl⟩ | ⟨v, hv, -⟩
    · rw [closeName?_append fun hu => hg (List.mem_append_right _ hu)] at hclose
      exact ⟨(Option.some.inj hclose).symm, f, hf, t, u, rfl, ht⟩
    · simp at hv
  · rintro ⟨rfl, f, hf, t, y, rfl, ht⟩
    have hy : '"' ∉ y := fun h => hg (List.mem_append_right _ h)
    exact ⟨f, hf, y ++ '"' :: rest, ⟨t, List.append_assoc _ _ _, ht⟩, closeName?_append hy rest⟩

/-- A fragment can start anywhere in the name, also at its end. -/
theorem mem_namePlaces_iff (hg : '"' ∉ g) {place : List Char} :
    place ∈ namePlaces (g ++ '"' :: r) ↔ ∃ x y, g = x ++ y ∧ place = y ++ '"' :: r := by
  induction g with
  | nil =>
    rw [List.nil_append, namePlaces, if_pos rfl, List.mem_singleton]
    constructor
    · rintro rfl
      exact ⟨[], [], rfl, rfl⟩
    · rintro ⟨x, y, hxy, rfl⟩
      rw [(List.append_eq_nil_iff.1 hxy.symm).2]
      rfl
  | cons c g ih =>
    rw [List.mem_cons, not_or] at hg
    rw [List.cons_append, namePlaces, if_neg (Ne.symm hg.1), List.mem_cons, ih hg.2]
    constructor
    · rintro (rfl | ⟨x, y, rfl, rfl⟩)
      · exact ⟨[], c :: g, rfl, rfl⟩
      · exact ⟨c :: x, y, rfl, rfl⟩
    · rintro ⟨x, y, hxy, rfl⟩
      cases x with
      | nil => exact .inl (by rw [← List.nil_append y, ← hxy]; rfl)
      | cons d x => exact .inr ⟨x, y, (List.cons.inj hxy).2, rfl⟩

/-- A name ends at its closing quote, if it is marked. -/
theorem mem_nameEnds_iff (hcolumns : columns.Unquoted) (hg : '"' ∉ g) {rest : List Char} :
    rest ∈ nameEnds columns (g ++ '"' :: r) ↔ rest = r ∧ Marked columns.fragments g := by
  unfold nameEnds Marked
  simp only [List.mem_flatMap, List.mem_reverse, mem_namePlaces_iff hg, infix_map_fold_iff]
  constructor
  · rintro ⟨_, ⟨x, y, rfl, rfl⟩, hrest⟩
    have hy : '"' ∉ y := fun h => hg (List.mem_append_right _ h)
    obtain ⟨rfl, f, hf, t, z, rfl, ht⟩ := (mem_fragmentEnds_iff hcolumns hy).1 hrest
    exact ⟨rfl, f, hf, x, t, z, rfl, ht⟩
  · rintro ⟨rfl, f, hf, x, t, y, rfl, ht⟩
    have hty : '"' ∉ t ++ y := fun h => hg (List.mem_append_right _ h)
    exact ⟨_, ⟨x, t ++ y, rfl, rfl⟩,
      (mem_fragmentEnds_iff hcolumns hty).2 ⟨rfl, f, hf, t, y, rfl, ht⟩⟩

/-- A name that is never closed has no end. -/
theorem nameEnds_of_not_mem (columns : BooleanColumns) {s : List Char} (h : '"' ∉ s) :
    nameEnds columns s = [] := by
  refine List.eq_nil_iff_forall_not_mem.2 fun rest hrest => ?_
  obtain ⟨x, rfl⟩ := mem_nameEnds hrest
  simp at h

/-- The ends of a name all being the same, the first decides. -/
theorem findSome?_nameEnds {α : Type} (hcolumns : columns.Unquoted) (hg : '"' ∉ g)
    (f : List Char → Option α) : (nameEnds columns (g ++ '"' :: r)).findSome? f =
      if Marked columns.fragments g then f r else none := by
  have hends : ∀ rest ∈ nameEnds columns (g ++ '"' :: r), rest = r := fun rest hrest =>
    ((mem_nameEnds_iff hcolumns hg).1 hrest).1
  have hcopies := List.eq_replicate_of_mem hends
  split
  · rename_i hmarked
    have hmem : r ∈ nameEnds columns (g ++ '"' :: r) :=
      (mem_nameEnds_iff hcolumns hg).2 ⟨rfl, hmarked⟩
    rw [hcopies, List.findSome?_replicate, if_neg (List.length_pos_of_mem hmem).ne']
  · rename_i hmarked
    refine List.findSome?_eq_none_iff.2 fun rest hrest => ?_
    exact absurd ((mem_nameEnds_iff hcolumns hg).1 hrest).2 hmarked

/-! ## Comparisons at a quote -/

theorem columnEnds_quote (columns : BooleanColumns) (s : List Char) :
    columnEnds columns ('"' :: s) =
      ((afterQualifier? s).elim [] (nameEnds columns)) ++ nameEnds columns s := by
  rw [columnEnds, symbol?_eq_some_iff.2 rfl]

/-- A table has a name, and right behind it a dot and the quote of the column. -/
theorem afterQualifier?_append (hg : '"' ∉ g) {s : List Char} :
    afterQualifier? (g ++ '"' :: r) = some s ↔ g ≠ [] ∧ r = '.' :: '"' :: s := by
  have hread : enclosed? ['"'] '"' (g ++ '"' :: r) = some (g, r) :=
    (enclosed?_eq_some_iff (by simp)).2 ⟨rfl, fun c hc hmem => hg (List.mem_singleton.1 hmem ▸ hc)⟩
  unfold afterQualifier? enclosed1?
  rw [hread]
  cases g with
  | nil => simp
  | cons c g =>
    simp only [Option.bind_eq_bind, Option.bind_some, List.isEmpty_cons, Bool.false_eq_true,
      if_false, Option.bind_eq_some_iff, symbol?_eq_some_iff]
    constructor
    · rintro ⟨s₁, rfl, rfl⟩
      exact ⟨List.cons_ne_nil c g, rfl⟩
    · rintro ⟨-, rfl⟩
      exact ⟨_, rfl, rfl⟩

/-- No table stands where a comparison does. -/
theorem comparedWith?_dot (digit : Char) (s : List Char) :
    comparedWith? digit ('.' :: s) = none := by
  rw [comparedWith?, skipBlanks, List.dropWhile_cons_of_neg (by decide), symbol?,
    if_neg (by decide)]
  rfl

/-- The column of a comparison is what stands before its end. -/
theorem take_length_sub_length {s column rest : List Char} (h : s = column ++ rest) :
    s.take (s.length - rest.length) = column := by
  rw [h, List.length_append, Nat.add_sub_cancel, List.take_left]

section

variable {digit : Char} {stop after : List Char} {before : Option Char}

/-- A marked name with a comparison behind it is read. -/
theorem flagComparison_plain (hcolumns : columns.Unquoted) (hg : '"' ∉ g)
    (hmarked : Marked columns.fragments g) (h : comparedWith? digit r = some (stop, after)) :
    flagComparison columns digit before ('"' :: (g ++ '"' :: r)) =
      some (⟨'"' :: (g ++ ['"']), stop⟩, after) := by
  have hqualifier : afterQualifier? (g ++ '"' :: r) = none := by
    refine Option.eq_none_iff_forall_ne_some.2 fun s hs => ?_
    obtain ⟨-, rfl⟩ := (afterQualifier?_append hg).1 hs
    rw [comparedWith?_dot] at h
    cases h
  have hcolumn : '"' :: (g ++ '"' :: r) = '"' :: (g ++ ['"']) ++ r := by simp
  unfold flagComparison
  rw [columnEnds_quote, hqualifier, Option.elim_none, List.nil_append,
    findSome?_nameEnds hcolumns hg, if_pos hmarked, h]
  simp only [Option.bind_eq_bind, Option.bind_some, take_length_sub_length hcolumn, Option.pure_def]

/-- So is one with a table and a dot before it. -/
theorem flagComparison_qualified (hcolumns : columns.Unquoted) (hg : '"' ∉ g) (hne : g ≠ [])
    {name : List Char} (hname : '"' ∉ name) (hmarked : Marked columns.fragments name)
    (h : comparedWith? digit r = some (stop, after)) :
    flagComparison columns digit before ('"' :: (g ++ '"' :: '.' :: '"' :: (name ++ '"' :: r))) =
      some (⟨'"' :: (g ++ '"' :: '.' :: '"' :: (name ++ ['"'])), stop⟩, after) := by
  have hqualifier : afterQualifier? (g ++ '"' :: '.' :: '"' :: (name ++ '"' :: r)) =
      some (name ++ '"' :: r) := (afterQualifier?_append hg).2 ⟨hne, rfl⟩
  have hcolumn : '"' :: (g ++ '"' :: '.' :: '"' :: (name ++ '"' :: r)) =
      '"' :: (g ++ '"' :: '.' :: '"' :: (name ++ ['"'])) ++ r := by simp
  unfold flagComparison
  rw [columnEnds_quote, hqualifier, Option.elim_some, List.findSome?_append,
    findSome?_nameEnds hcolumns hname, if_pos hmarked, h]
  simp only [Option.bind_eq_bind, Option.bind_some, take_length_sub_length hcolumn, Option.pure_def,
    Option.some_or]

/-- Where neither of them stands nothing is read. -/
theorem flagComparison_eq_none (hcolumns : columns.Unquoted) (hg : '"' ∉ g)
    (hplain : Marked columns.fragments g → comparedWith? digit r = none)
    (hqualified : ∀ s, g ≠ [] → r = '.' :: '"' :: s →
      ∀ rest ∈ nameEnds columns s, comparedWith? digit rest = none) :
    flagComparison columns digit before ('"' :: (g ++ '"' :: r)) = none := by
  unfold flagComparison
  rw [columnEnds_quote, List.findSome?_eq_none_iff]
  intro rest hrest
  suffices hnone : comparedWith? digit rest = none by rw [hnone]; rfl
  rcases List.mem_append.1 hrest with hrest | hrest
  · cases hq : afterQualifier? (g ++ '"' :: r) with
    | none => rw [hq] at hrest; cases hrest
    | some s =>
      rw [hq] at hrest
      obtain ⟨hne, hr⟩ := (afterQualifier?_append hg).1 hq
      exact hqualified s hne hr rest hrest
  · obtain ⟨rfl, hmarked⟩ := (mem_nameEnds_iff hcolumns hg).1 hrest
    exact hplain hmarked

end

/-- No column starts at another character than a quote. -/
theorem flagComparison_of_ne {c : Char} (hc : c ≠ '"') (columns : BooleanColumns) (digit : Char)
    (before : Option Char) (s : List Char) :
    flagComparison columns digit before (c :: s) = none := by
  have hends : columnEnds columns (c :: s) = [] := by
    rw [columnEnds, symbol?, if_neg hc]
  rw [flagComparison, hends]
  rfl

/-- None starts at the last quote of a text. -/
theorem flagComparison_last_quote (columns : BooleanColumns) (digit : Char) (before : Option Char)
    {s : List Char} (hs : '"' ∉ s) : flagComparison columns digit before ('"' :: s) = none := by
  have hends : columnEnds columns ('"' :: s) = [] := by
    refine List.eq_nil_iff_forall_not_mem.2 fun rest hrest => hs ?_
    obtain ⟨x, hx⟩ := mem_columnEnds hrest
    rw [(List.cons.inj hx).2]
    simp
  rw [flagComparison, hends]
  rfl

end SqlDialect.Query
