import SqlDialect.Dialect
import SqlDialect.Proofs.Characters

/-!
# The spellings of a dialect

A spelling is put into lower case by the mapping for all scripts, which sends two characters to
letters of ASCII from outside: the Kelvin sign to `k`, and the dotted capital i to `i` with a dot
behind it. No name of a dialect has a `k` or a character beyond ASCII, so neither of the two helps
to spell one.

* `Dialect.SpelledBy` — a spelling of a dialect, said in ASCII alone.
* `exists_of_not_ascii` — the lower case of a character beyond ASCII has something in it that is in
  no name of a dialect.
* `Dialect.normalize_eq_iff` — so a spelling comes out as such a name only if it is one already, up
  to letter case.
* `Dialect.lookup?_iff_spelledBy` — a dialect is recognised by its spellings and no others.
-/

namespace SqlDialect.Text

/-! ## Lower case and ASCII -/

theorem lowercase_of_ascii {c : Char} (h : c.toNat < 128) : lowercase c = [c.toLower] := if_pos h

/-- All runs of the lower case fit, and only the one of the Kelvin sign is sent into ASCII. -/
theorem lowercaseSpans_targets : ∀ s ∈ lowercaseSpans, s.Fits ∧
    (s.target < 0x80 → s.first = s.last ∧ s.target = 0x6B) := by
  decide +kernel

/-- The lower case of a character beyond ASCII is not all in ASCII, or it is a `k`. -/
theorem exists_of_not_ascii {c : Char} (h : ¬c.toNat < 128) :
    ∃ x ∈ lowercase c, ¬(x.toNat < 128 ∧ x ≠ 'k') := by
  unfold lowercase
  rw [if_neg h]
  split
  · exact ⟨Char.ofNat 0x307, by simp, by decide⟩
  · refine ⟨_, List.mem_singleton_self _, ?_⟩
    rintro ⟨hascii, hk⟩
    rcases CaseSpan.of_apply_ascii (fun s hs => (lowercaseSpans_targets s hs).1) hascii with
      hc | ⟨s, hs, hfirst, hlast, himage⟩
    · exact h hc
    · obtain ⟨he, htarget⟩ := (lowercaseSpans_targets s hs).2 (by omega)
      have hnat : 'k'.toNat = 0x6B := rfl
      exact hk (Char.toNat_inj.1 (by omega))

end SqlDialect.Text

namespace SqlDialect.Dialect

open Text

/-! ## Spellings -/

/-- The spelling is one of the dialect's: what counts in it is all ASCII and spells one of the
names, whatever the case of its letters. -/
def SpelledBy (d : Dialect) (spelling : String) : Prop :=
  (∀ c ∈ spelling.toList.filter counts, c.toNat < 128) ∧
    ∃ a ∈ d.aliases, (spelling.toList.filter counts).map Char.toLower = a.toList.map Char.toLower

instance (d : Dialect) (spelling : String) : Decidable (d.SpelledBy spelling) :=
  @instDecidableAnd _ _ (List.decidableBAll _ _) (List.decidableBEx _ _)

/-- The names are in small letters of ASCII, and have no `k`. -/
theorem aliases_plain (d : Dialect) : ∀ a ∈ d.aliases,
    (a.toList.all fun c => c.toNat < 128 && c != 'k') = true ∧
      a.toList.map Char.toLower = a.toList := by
  cases d <;> decide

/-- No two dialects share a name. -/
theorem eq_of_mem_aliases {d e : Dialect} {a : String} (hd : a ∈ d.aliases) (he : a ∈ e.aliases) :
    d = e := by
  have hdisjoint : ∀ a ∈ d.aliases, a ∈ e.aliases → d = e := by
    cases d <;> cases e <;> decide
  exact hdisjoint a hd he

theorem toList_normalize (spelling : String) : (normalize spelling).toList =
    (spelling.toList.filter counts).flatMap lowercase := String.toList_ofList

theorem flatMap_lowercase {s : List Char} (h : ∀ c ∈ s, c.toNat < 128) :
    s.flatMap lowercase = s.map Char.toLower := by
  induction s with
  | nil => rfl
  | cons c s ih =>
    rw [List.flatMap_cons, lowercase_of_ascii (h c List.mem_cons_self),
      ih fun d hd => h d (List.mem_cons_of_mem c hd)]
    rfl

/-- A spelling comes out as a name exactly when it is that name in ASCII, up to letter case. -/
theorem normalize_eq_iff {d : Dialect} {a : String} (ha : a ∈ d.aliases) (spelling : String) :
    normalize spelling = a ↔ (∀ c ∈ spelling.toList.filter counts, c.toNat < 128) ∧
      (spelling.toList.filter counts).map Char.toLower = a.toList.map Char.toLower := by
  obtain ⟨hplain, hlower⟩ := aliases_plain d a ha
  rw [← String.toList_inj, toList_normalize, hlower]
  constructor
  · intro heq
    have hascii : ∀ c ∈ spelling.toList.filter counts, c.toNat < 128 := by
      intro c hc
      refine Classical.byContradiction fun hbeyond => ?_
      obtain ⟨x, hx, hnot⟩ := exists_of_not_ascii hbeyond
      -- every character of the lower case is one of the name
      have hmem : x ∈ a.toList := heq ▸ List.mem_flatMap.2 ⟨c, hc, hx⟩
      have hname := List.all_eq_true.1 hplain x hmem
      exact hnot (by simpa using hname)
    exact ⟨hascii, (flatMap_lowercase hascii).symm.trans heq⟩
  · rintro ⟨hascii, hname⟩
    rw [flatMap_lowercase hascii, hname]

theorem contains_normalize_iff (d : Dialect) (spelling : String) :
    d.aliases.contains (normalize spelling) = true ↔ d.SpelledBy spelling := by
  rw [List.contains_iff_mem]
  constructor
  · intro hmem
    obtain ⟨hascii, hname⟩ := (normalize_eq_iff hmem spelling).1 rfl
    exact ⟨hascii, _, hmem, hname⟩
  · rintro ⟨hascii, a, ha, hname⟩
    rwa [(normalize_eq_iff ha spelling).2 ⟨hascii, hname⟩]

theorem mem_all (d : Dialect) : d ∈ all := by
  cases d <;> decide

/-- A dialect is recognised by its names. -/
theorem lookup?_eq_some_iff (spelling : String) (d : Dialect) :
    lookup? spelling = some d ↔ d.SpelledBy spelling := by
  have hsound : ∀ e, lookup? spelling = some e →
      e.aliases.contains (normalize spelling) = true := by
    intro e he
    unfold lookup? at he
    have hcontains := List.find?_some he
    exact hcontains
  rw [← contains_normalize_iff]
  constructor
  · exact hsound d
  · intro hd
    cases hfound : lookup? spelling with
    | none => exact absurd hd (List.find?_eq_none.1 hfound d (mem_all d))
    | some e =>
      have he := hsound e hfound
      rw [List.contains_iff_mem] at hd he
      rw [eq_of_mem_aliases he hd]

theorem lookup?_eq_none_iff (spelling : String) :
    lookup? spelling = none ↔ ∀ d : Dialect, ¬d.SpelledBy spelling := by
  rw [Option.eq_none_iff_forall_ne_some]
  exact forall_congr' fun d => not_congr (lookup?_eq_some_iff spelling d)

end SqlDialect.Dialect
