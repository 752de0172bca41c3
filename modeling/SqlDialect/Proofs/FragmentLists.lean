import SqlDialect.Proofs.BooleanComparisons

/-!
# Lists of fragments that mark the same columns

The fragments of boolean columns are tried one by one, from the last place of a name to the first,
and the first comparison that can be read is taken. Where fragments have no quotes the order does
not show: a name ends at its closing quote, whichever fragment is found in it.

* `Refines` — every fragment of one list has a fragment of another list in it. Then what the first
  list marks the second one marks too, and conversely (`refines_iff`).
* `flagComparison_congr` — lists that mark the same names read the same comparisons, in any text.
* `spellBooleans_flagged` — what becomes of a text with one name in it, which tells lists apart that
  mark different names.
* `Rule.booleanColumns_apply_eq_iff` — two lists give the same rule exactly when each of them
  refines the other.
-/

namespace SqlDialect.Query

open Scan Text

/-! ## Refinement -/

/-- Every fragment of the first list has one of the second list in it, in any letter case. -/
def Refines (fs gs : List (List Char)) : Prop := ∀ f ∈ fs, Marked gs f

instance (fs gs : List (List Char)) : Decidable (Refines fs gs) := List.decidableBAll _ _

theorem marked_self {fs : List (List Char)} {f : List Char} (hf : f ∈ fs) : Marked fs f :=
  ⟨f, hf, List.infix_rfl⟩

/-- A list refines another one exactly when it marks no other names. -/
theorem refines_iff {fs gs : List (List Char)} :
    Refines fs gs ↔ ∀ name, Marked fs name → Marked gs name := by
  constructor
  · rintro h name ⟨f, hf, hname⟩
    obtain ⟨g, hg, hfg⟩ := h f hf
    exact ⟨g, hg, hfg.trans hname⟩
  · intro h f hf
    exact h f (marked_self hf)

/-- Fragments that are the same but for their order, their number and their letter case. -/
theorem refines_of_subset {fs gs : List (List Char)}
    (h : fs.map (·.map fold) ⊆ gs.map (·.map fold)) : Refines fs gs := by
  intro f hf
  obtain ⟨g, hg, hfold⟩ := List.mem_map.1 (h (List.mem_map_of_mem hf))
  exact ⟨g, hg, hfold ▸ List.infix_rfl⟩

/-- The fragments of a list of names, as they are looked for. -/
def trimmedNames (names : List String) : List (List Char) := names.map fun name => trim name.toList

/-! ## Comparisons -/

section

variable {c d : BooleanColumns} (hc : c.Unquoted) (hd : d.Unquoted)
  (hmarks : ∀ name, Marked c.fragments name ↔ Marked d.fragments name)

include hc hd hmarks

/-- The first end of a name that suits is the same for both lists. -/
theorem findSome?_nameEnds_congr {α : Type} (s : List Char) (f : List Char → Option α) :
    (nameEnds c s).findSome? f = (nameEnds d s).findSome? f := by
  by_cases hs : '"' ∈ s
  · obtain ⟨g, r, rfl, hg⟩ := List.eq_append_cons_of_mem hs
    rw [findSome?_nameEnds hc hg, findSome?_nameEnds hd hg]
    exact if_congr (hmarks g) rfl rfl
  · rw [nameEnds_of_not_mem c hs, nameEnds_of_not_mem d hs]

theorem findSome?_columnEnds_congr {α : Type} (s : List Char) (f : List Char → Option α) :
    (columnEnds c s).findSome? f = (columnEnds d s).findSome? f := by
  have hends : ∀ t, (nameEnds c t).findSome? f = (nameEnds d t).findSome? f := fun t =>
    findSome?_nameEnds_congr hc hd hmarks t f
  unfold columnEnds
  cases symbol? '"' s with
  | none => rfl
  | some s =>
    -- the table in front is read without a look at the fragments
    cases hqualifier : afterQualifier? s with
    | none =>
      simp only [hqualifier, Option.elim_none, List.nil_append]
      exact hends s
    | some t =>
      simp only [hqualifier, Option.elim_some, List.findSome?_append]
      rw [hends t, hends s]

/-- The same comparisons are read, whatever the quotes of a text are. -/
theorem flagComparison_congr (digit : Char) : flagComparison c digit = flagComparison d digit := by
  funext before s
  exact findSome?_columnEnds_congr hc hd hmarks s _

theorem spellBooleans_congr (s : List Char) : spellBooleans c s = spellBooleans d s := by
  unfold spellBooleans
  rw [flagComparison_congr hc hd hmarks, flagComparison_congr hc hd hmarks]

end

/-! ## A text for each name -/

/-- A name and what is written behind it. -/
def flagged (name after : List Char) : List Char := '"' :: (name ++ '"' :: after)

section

variable {columns : BooleanColumns} {name : List Char} (hname : '"' ∉ name)

include hname

/-- A name with nothing behind it that can be read as a comparison stays as it is. -/
theorem replaceAll_flagged_eq_self (hcolumns : columns.Unquoted) {digit : Char} {after : List Char}
    (hafter : '"' ∉ after)
    (hnone : Marked columns.fragments name → comparedWith? digit after = none)
    (write : FlagComparison → List Char) :
    replaceAll (flagComparison columns digit) write (flagged name after) = flagged name after := by
  have hblind := blind_flagComparison columns digit
  have hopening : flagComparison columns digit none (flagged name after) = none := by
    refine flagComparison_eq_none hcolumns hname hnone fun s _ hs => absurd ?_ hafter
    rw [hs]
    simp
  have hclosing := flagComparison_last_quote columns digit none hafter
  have hrest : replaceAll (flagComparison columns digit) write (after ++ []) = after ++ [] :=
    replaceAll_flag_append hafter []
  rw [List.append_nil] at hrest
  unfold flagged at hopening ⊢
  rw [hblind.replaceAll_cons_of_miss hopening, replaceAll_flag_append hname,
    hblind.replaceAll_cons_of_miss hclosing, hrest]

/-- A comparison behind the only name of a text is written anew if the name is marked. -/
theorem spellBooleans_flagged (hcolumns : columns.Unquoted) :
    spellBooleans columns (flagged name " = 1".toList) =
      flagged name (if Marked columns.fragments name then " = true".toList else " = 1".toList) := by
  have hdigit : '"' ∉ " = 1".toList := by decide
  unfold spellBooleans
  by_cases hmarked : Marked columns.fragments name
  · have hword : '"' ∉ " = true".toList := by decide
    have hcompared : comparedWith? '1' " = 1".toList = some ([], []) := by decide
    have hone : replaceAll (flagComparison columns '1') (FlagComparison.comparedTo "true".toList)
        (flagged name " = 1".toList) = flagged name " = true".toList := by
      have hhit : flagComparison columns '1' none (flagged name " = 1".toList) =
          some (⟨'"' :: (name ++ ['"']), []⟩, []) :=
        flagComparison_plain hcolumns hname hmarked hcompared
      have hempty : replaceAll (flagComparison columns '1')
          (FlagComparison.comparedTo "true".toList) [] = [] := rfl
      have hblind := blind_flagComparison columns '1'
      rw [hblind.replaceAll_of_hit (flagComparison_reads columns '1') hhit, hempty,
        FlagComparison.comparedTo, flagged]
      simp
    rw [hone, if_pos hmarked]
    exact replaceAll_flagged_eq_self hname hcolumns hword (fun _ => by decide) _
  · rw [if_neg hmarked, replaceAll_flagged_eq_self hname hcolumns hdigit fun h => absurd h hmarked]
    exact replaceAll_flagged_eq_self hname hcolumns hdigit (fun h => absurd h hmarked) _

end

/-- Lists that mark different names write some text differently. -/
theorem refines_of_spellBooleans_eq {c d : BooleanColumns} (hc : c.Unquoted) (hd : d.Unquoted)
    (h : ∀ s, spellBooleans c s = spellBooleans d s) : Refines c.fragments d.fragments := by
  intro f hf
  have hspelled := h (flagged f " = 1".toList)
  rw [spellBooleans_flagged (hc f hf) hc, spellBooleans_flagged (hc f hf) hd,
    if_pos (marked_self hf)] at hspelled
  by_contra hmarked
  rw [if_neg hmarked] at hspelled
  have hafter : " = true".toList = " = 1".toList :=
    (List.cons.inj (List.append_cancel_left (List.cons.inj hspelled).2)).2
  exact absurd hafter (by decide)

end SqlDialect.Query

namespace SqlDialect

open Query Scan Text

/-- **Only the set of fragments matters.** Take two lists of fragments without quotes, whatever
search engine accepts them. Their rules agree on every text exactly when every fragment of each list
has a fragment of the other list in it, in any letter case. So they agree if the fragments are the
same but for their order, their number, the blanks around them and their letter case. -/
theorem Rule.booleanColumns_apply_eq_iff {objection : BooleanColumns.Objection}
    {names others : List String} {c d : BooleanColumns}
    (hnames : BooleanColumns.ofList objection names = .ok c)
    (hothers : BooleanColumns.ofList objection others = .ok d)
    (hquotes : ∀ name ∈ names ++ others, '"' ∉ name.toList) :
    ((∀ whole s, (Rule.booleanColumns c).apply whole s = (Rule.booleanColumns d).apply whole s) ↔
        Refines (trimmedNames names) (trimmedNames others) ∧
          Refines (trimmedNames others) (trimmedNames names)) ∧
      ((∀ f, f ∈ (trimmedNames names).map (·.map fold) ↔
          f ∈ (trimmedNames others).map (·.map fold)) → ∀ whole s,
        (Rule.booleanColumns c).apply whole s = (Rule.booleanColumns d).apply whole s) := by
  obtain ⟨hquotes, hquotes'⟩ := List.forall_mem_append.1 hquotes
  have hc := BooleanColumns.unquoted_of_ofList hnames hquotes
  have hd := BooleanColumns.unquoted_of_ofList hothers hquotes'
  have hfirst : c.fragments = trimmedNames names := (BooleanColumns.ofList_eq_ok_iff.1 hnames).1
  have hsecond : d.fragments = trimmedNames others := (BooleanColumns.ofList_eq_ok_iff.1 hothers).1
  have hagree : Refines c.fragments d.fragments ∧ Refines d.fragments c.fragments →
      ∀ whole s, (Rule.booleanColumns c).apply whole s = (Rule.booleanColumns d).apply whole s := by
    rintro ⟨hcd, hdc⟩ whole s
    exact spellBooleans_congr hc hd
      (fun name => ⟨refines_iff.1 hcd name, refines_iff.1 hdc name⟩) s
  rw [← hfirst, ← hsecond]
  refine ⟨⟨fun h => ?_, hagree⟩, fun hsame => hagree ?_⟩
  · have heq : ∀ s, spellBooleans c s = spellBooleans d s := h []
    exact ⟨refines_of_spellBooleans_eq hc hd heq,
      refines_of_spellBooleans_eq hd hc fun s => (heq s).symm⟩
  · exact ⟨refines_of_subset fun f => (hsame f).1, refines_of_subset fun f => (hsame f).2⟩

/-- Another order, other letters, blanks, and a fragment that adds nothing, in a text whose quotes
do not come in pairs. -/
theorem Rule.booleanColumns_apply_eq_padded :
    ∃ c d, BooleanColumns.ofList (fun _ => none) ["active", "Deleted"] = .ok c ∧
      BooleanColumns.ofList (fun _ => none) [" deleted ", "ACTIVE", "inactive"] = .ok d ∧
      Refines (trimmedNames ["active", "Deleted"])
        (trimmedNames [" deleted ", "ACTIVE", "inactive"]) ∧
      (Rule.booleanColumns c).apply [] "\"is_deleted\" = 0 \"inactive\"=1, \"".toList =
        (Rule.booleanColumns d).apply [] "\"is_deleted\" = 0 \"inactive\"=1, \"".toList := by
  refine ⟨⟨["active".toList, "Deleted".toList], by decide⟩,
    ⟨["deleted".toList, "ACTIVE".toList, "inactive".toList], by decide⟩, rfl, rfl, by decide, ?_⟩
  exact (Rule.booleanColumns_apply_eq_iff
    (rfl : BooleanColumns.ofList (fun _ => none) ["active", "Deleted"] = _)
    (rfl : BooleanColumns.ofList (fun _ => none) [" deleted ", "ACTIVE", "inactive"] = _)
    (by decide)).1.2 ⟨by decide, by decide⟩ [] _

end SqlDialect
