import Mathlib.Data.Option.Basic
import SqlDialect.Rule
import SqlDialect.Proofs.Sweep

/-!
# What each construct looks like

For every scanner of the rules: the text it reads, cut into its parts. Everything else that is
proved about a rule starts from these cuts, and none of it opens a scanner again.

* `Spells`, `Blanks`, `Digits` — the parts: a keyword in some letter case, blanks, a count.
* `…Text` — the text of a construct, together with the value that is read from it.
* `…_reads` — the scanner of a construct reads such texts.
-/

namespace SqlDialect.Query

open Scan

/-! ## Parts -/

/-- The text is the word in some letter case. -/
def Spells (word : String) (text : List Char) : Prop :=
  text.map Text.fold = word.toList.map Text.fold

/-- The text is all blank. -/
def Blanks (text : List Char) : Prop := ∀ c ∈ text, Text.isBlank c = true

/-- The text is a row of digits, at least one. -/
def Digits (text : List Char) : Prop := text ≠ [] ∧ ∀ c ∈ text, Text.isDigit c = true

theorem blanks_nil : Blanks [] := fun _ h => absurd h List.not_mem_nil

theorem blanks_space : Blanks [' '] := List.forall_mem_singleton.2 (by decide)

theorem Blanks.not_mem {b : List Char} (h : Blanks b) {c : Char} (hc : Text.isBlank c = false) :
    c ∉ b := by
  intro hmem
  rw [h c hmem] at hc
  cases hc

theorem Spells.ne_nil {word : String} {text : List Char} (h : Spells word text)
    (hw : word.toList ≠ []) : text ≠ [] := by
  rintro rfl
  exact hw (List.map_eq_nil_iff.1 h.symm)

theorem guard_eq_some {p : Prop} [Decidable p] {u : Unit} : (guard p : Option Unit) = some u ↔ p := by
  by_cases hp : p
  · exact iff_of_true (if_pos hp) hp
  · have hnone : (guard p : Option Unit) = none := if_neg hp
    rw [hnone]
    exact iff_of_false nofun hp

theorem keyword?_eq_some {word : String} {s rest : List Char}
    (h : keyword? word.toList s = some rest) : ∃ t, Spells word t ∧ s = t ++ rest := by
  obtain ⟨t, hs, ht⟩ := Text.dropFolded?_eq_some_iff.1 h
  exact ⟨t, ht, hs⟩

/-- Of two keywords that start with different letters only one can be read. -/
theorem keyword?_eq_none {one : String} (other : String) {s rest : List Char}
    (hne : one.toList ≠ [] ∧ other.toList ≠ [] ∧
      (one.toList.map Text.fold).head? ≠ (other.toList.map Text.fold).head?)
    (h : keyword? one.toList s = some rest) : keyword? other.toList s = none := by
  obtain ⟨hone, hother, hhead⟩ := hne
  obtain ⟨t, ht, rfl⟩ := keyword?_eq_some h
  obtain ⟨c, t, rfl⟩ := List.exists_cons_of_ne_nil (ht.ne_nil hone)
  cases hk : keyword? other.toList (c :: t ++ rest) with
  | none => rfl
  | some r =>
    obtain ⟨u, hu, heq⟩ := keyword?_eq_some hk
    obtain ⟨d, u, rfl⟩ := List.exists_cons_of_ne_nil (hu.ne_nil hother)
    obtain ⟨rfl, -⟩ := List.cons.inj heq
    unfold Spells at ht hu
    rw [← ht, ← hu] at hhead
    exact absurd rfl hhead

theorem skipBlanks_eq {s rest : List Char} (h : Text.skipBlanks s = rest) :
    ∃ b, Blanks b ∧ s = b ++ rest := by
  obtain ⟨b, hs, hb⟩ := Text.exists_blanks_append_skipBlanks s
  exact ⟨b, hb, h ▸ hs⟩

theorem skipBlanks1?_eq_some {s rest : List Char} (h : Text.skipBlanks1? s = some rest) :
    ∃ b, b ≠ [] ∧ Blanks b ∧ s = b ++ rest := by
  cases s with
  | nil => simp [Text.skipBlanks1?] at h
  | cons c s =>
    simp only [Text.skipBlanks1?] at h
    split at h
    · rename_i hc
      obtain ⟨b, hb, rfl⟩ := skipBlanks_eq (Option.some.inj h)
      refine ⟨c :: b, by simp, ?_, rfl⟩
      intro d hd
      rcases List.mem_cons.1 hd with rfl | hd
      · exact hc
      · exact hb d hd
    · cases h

/-- Blanks, perhaps none, and then a sign. -/
theorem symbol?_skipBlanks_eq_some {sign : Char} {s rest : List Char}
    (h : symbol? sign (Text.skipBlanks s) = some rest) : ∃ b, Blanks b ∧ s = b ++ [sign] ++ rest := by
  obtain ⟨b, hb, hs⟩ := skipBlanks_eq (symbol?_eq_some_iff.1 h)
  exact ⟨b, hb, by simpa using hs⟩

/-- Blanks, perhaps none, and then a keyword. -/
theorem keyword?_skipBlanks_eq_some {word : String} {s rest : List Char}
    (h : keyword? word.toList (Text.skipBlanks s) = some rest) :
    ∃ b t, Blanks b ∧ Spells word t ∧ s = b ++ t ++ rest := by
  obtain ⟨t, ht, hs⟩ := keyword?_eq_some h
  obtain ⟨b, hb, hs'⟩ := skipBlanks_eq hs
  exact ⟨b, t, hb, ht, by simpa using hs'⟩

theorem digits?_eq_some {s n rest : List Char} (h : digits? s = some (n, rest)) :
    Digits n ∧ s = n ++ rest := by
  unfold digits? at h
  split at h
  · cases h
  · rename_i d ds hds
    obtain ⟨rfl, rfl⟩ := Prod.mk.inj (Option.some.inj h)
    refine ⟨⟨by simp, ?_⟩, ?_⟩
    · rw [← hds]
      exact List.all_eq_true.1 List.all_takeWhile
    · rw [← hds]
      exact List.takeWhile_append_dropWhile.symm

theorem enclosed1?_eq_some {stops : List Char} {closing : Char} (hc : closing ∈ stops)
    {s body rest : List Char} (h : enclosed1? stops closing s = some (body, rest)) :
    body ≠ [] ∧ (∀ c ∈ body, c ∉ stops) ∧ s = body ++ [closing] ++ rest := by
  simp only [enclosed1?, Option.bind_eq_bind, Option.bind_eq_some_iff] at h
  obtain ⟨⟨b, r⟩, hb, h⟩ := h
  split at h
  · cases h
  · rename_i hne
    obtain ⟨rfl, rfl⟩ := Prod.mk.inj (Option.some.inj h)
    obtain ⟨hs, hmem⟩ := (enclosed?_eq_some_iff hc).1 hb
    exact ⟨by simpa using hne, hmem, by simpa using hs⟩

theorem enclosed1?_eq_some_iff {stops : List Char} {closing : Char} (hc : closing ∈ stops)
    {s body rest : List Char} : enclosed1? stops closing s = some (body, rest) ↔
      body ≠ [] ∧ s = body ++ closing :: rest ∧ ∀ c ∈ body, c ∉ stops := by
  constructor
  · intro h
    obtain ⟨hne, hbody, hs⟩ := enclosed1?_eq_some hc h
    exact ⟨hne, by simpa using hs, hbody⟩
  · rintro ⟨hne, hs⟩
    simp only [enclosed1?, (enclosed?_eq_some_iff hc).2 hs, Option.bind_eq_bind, Option.bind_some,
      List.isEmpty_iff, if_neg hne]

/-- An argument stands between blanks, and is not empty. -/
theorem bareArgument?_eq_some {raw arg : List Char} (h : bareArgument? raw = some arg) :
    ∃ b₁ b₂, arg ≠ [] ∧ Blanks b₁ ∧ Blanks b₂ ∧ raw = b₁ ++ arg ++ b₂ := by
  obtain ⟨b₁, hb₁, hraw⟩ := skipBlanks_eq (s := raw) rfl
  have htrim : ∃ b₂, Blanks b₂ ∧ raw = b₁ ++ Text.trim raw ++ b₂ := by
    obtain ⟨b, hb, hs⟩ := skipBlanks_eq (s := (Text.skipBlanks raw).reverse) rfl
    refine ⟨b.reverse, fun c hc => hb c (by simpa using hc), ?_⟩
    have h' := congrArg List.reverse hs
    rw [List.reverse_reverse, List.reverse_append] at h'
    rw [List.append_assoc]
    unfold Text.trim Text.trimEnd
    conv => lhs; rw [hraw, h']
    rfl
  obtain ⟨b₂, hb₂, htrim⟩ := htrim
  unfold bareArgument? at h
  split at h
  · -- all blank: the last of the blanks is the argument
    rename_i hnil
    obtain ⟨c, hc, rfl⟩ := Option.map_eq_some_iff.1 h
    rw [hnil, List.append_nil] at htrim
    have hall : Blanks raw := by
      intro d hd
      rw [htrim] at hd
      rcases List.mem_append.1 hd with hd | hd
      · exact hb₁ d hd
      · exact hb₂ d hd
    obtain ⟨b, rfl⟩ := List.getLast?_eq_some_iff.1 hc
    exact ⟨b, [], by simp, fun d hd => hall d (by simp [hd]), by simp [Blanks], by simp⟩
  · rename_i c s hcons
    obtain rfl := Option.some.inj h
    exact ⟨b₁, b₂, by simp, hb₁, hb₂, by rw [← hcons]; exact htrim⟩

/-! ## Hints, names and random calls -/

/-- Blanks, `WITH` and a list in parentheses. -/
inductive TableHintText : List Char → Prop where
  | mk {b₁ word b₂ list : List Char} (hne : b₁ ≠ []) (hb₁ : Blanks b₁) (hword : Spells "with" word)
      (hb₂ : Blanks b₂) (hlist : ∀ c ∈ list, c ∉ [')']) :
      TableHintText (b₁ ++ word ++ b₂ ++ ['('] ++ list ++ [')'])

theorem tableHint_reads : Reads tableHint fun _ text _ _ => TableHintText text := by
  intro before s a rest h
  simp only [tableHint, Option.bind_eq_bind, Option.bind_eq_some_iff, Option.pure_def,
    Option.some.injEq, Prod.mk.injEq] at h
  obtain ⟨s₁, h₁, s₂, h₂, s₃, h₃, ⟨list, s₄⟩, h₄, -, rfl⟩ := h
  obtain ⟨b₁, hne, hb₁, rfl⟩ := skipBlanks1?_eq_some h₁
  obtain ⟨word, hword, rfl⟩ := keyword?_eq_some h₂
  obtain ⟨b₂, hb₂, rfl⟩ := symbol?_skipBlanks_eq_some h₃
  obtain ⟨-, hlist, rfl⟩ := enclosed1?_eq_some (by simp) h₄
  exact ⟨_, by simp, by simp, .mk hne hb₁ hword hb₂ hlist⟩

/-- A name in square brackets. -/
inductive BracketedNameText : List Char → List Char → Prop where
  | mk {name : List Char} (hname : ∀ c ∈ name, c ∉ ['[', ']', '"']) :
      BracketedNameText (['['] ++ name ++ [']']) name

theorem bracketedName_reads :
    Reads bracketedName fun _ text name _ => BracketedNameText text name := by
  intro before s name rest h
  simp only [bracketedName, Option.bind_eq_bind, Option.bind_eq_some_iff, symbol?_eq_some_iff] at h
  obtain ⟨s₁, rfl, h₁⟩ := h
  obtain ⟨-, hname, rfl⟩ := enclosed1?_eq_some (by simp) h₁
  exact ⟨_, by simp, by simp, .mk hname⟩

/-- `NEWID` and a pair of parentheses. -/
inductive NewidCallText : List Char → Prop where
  | mk {word b₁ b₂ : List Char} (hword : Spells "newid" word) (hb₁ : Blanks b₁) (hb₂ : Blanks b₂) :
      NewidCallText (word ++ b₁ ++ ['('] ++ b₂ ++ [')'])

theorem newidCall_reads :
    Reads newidCall fun before text _ _ => Text.atWordStart before = true ∧ NewidCallText text := by
  intro before s a rest h
  simp only [newidCall, Option.bind_eq_bind, Option.bind_eq_some_iff, guard_eq_some, Option.pure_def,
    Option.some.injEq, Prod.mk.injEq] at h
  obtain ⟨-, hstart, s₁, h₁, s₂, h₂, s₃, h₃, -, rfl⟩ := h
  obtain ⟨word, hword, rfl⟩ := keyword?_eq_some h₁
  obtain ⟨b₁, hb₁, rfl⟩ := symbol?_skipBlanks_eq_some h₂
  obtain ⟨b₂, hb₂, rfl⟩ := symbol?_skipBlanks_eq_some h₃
  exact ⟨_, by simp, by simp, hstart, .mk hword hb₁ hb₂⟩

/-! ## Paging and first rows -/

/-- `ROW` or `ROWS`. -/
def SpellsRows (text : List Char) : Prop := Spells "row" text ∨ Spells "rows" text

theorem rowsWord?_eq_some {s rest : List Char} (h : rowsWord? s = some rest) :
    ∃ t, SpellsRows t ∧ s = t ++ rest := by
  obtain ⟨s₁, h₁, h₂⟩ := Option.map_eq_some_iff.1 h
  obtain ⟨t, ht, rfl⟩ := keyword?_eq_some h₁
  unfold opt? at h₂
  cases h₃ : keyword? "s".toList s₁ with
  | none =>
    rw [h₃] at h₂
    exact ⟨t, .inl ht, by rw [← h₂]; rfl⟩
  | some r =>
    rw [h₃] at h₂
    obtain ⟨u, hu, rfl⟩ := keyword?_eq_some h₃
    refine ⟨t ++ u, .inr ?_, by rw [← h₂]; simp⟩
    unfold Spells at ht hu ⊢
    rw [List.map_append, ht, hu]
    rfl

theorem oneOf?_keyword_eq_some {one other : String} {s rest : List Char}
    (h : oneOf? (keyword? one.toList) (keyword? other.toList) s = some rest) :
    ∃ t, (Spells one t ∨ Spells other t) ∧ s = t ++ rest := by
  unfold oneOf? at h
  rcases Option.or_eq_some_iff.1 h with h | ⟨-, h⟩
  · obtain ⟨t, ht, hs⟩ := keyword?_eq_some h
    exact ⟨t, .inl ht, hs⟩
  · obtain ⟨t, ht, hs⟩ := keyword?_eq_some h
    exact ⟨t, .inr ht, hs⟩

/-- Blanks, `OFFSET m ROWS FETCH NEXT n ROWS ONLY` and blanks between all of them. -/
inductive FetchClauseText : List Char → FetchClause → Prop where
  | mk {b₁ offset b₂ m b₃ rows₁ b₄ fetch b₅ next b₆ n b₇ rows₂ b₈ only : List Char}
      (hne : b₁ ≠ []) (hblanks : ∀ b ∈ [b₁, b₂, b₃, b₄, b₅, b₆, b₇, b₈], Blanks b)
      (hoffset : Spells "offset" offset) (hm : Digits m) (hrows₁ : SpellsRows rows₁)
      (hfetch : Spells "fetch" fetch) (hnext : Spells "next" next ∨ Spells "first" next)
      (hn : Digits n) (hrows₂ : SpellsRows rows₂) (honly : Spells "only" only) :
      FetchClauseText (b₁ ++ offset ++ b₂ ++ m ++ b₃ ++ rows₁ ++ b₄ ++ fetch ++ b₅ ++ next ++ b₆ ++ n ++
        b₇ ++ rows₂ ++ b₈ ++ only) ⟨m, n⟩

theorem FetchClauseText.digits {text : List Char} {f : FetchClause} (h : FetchClauseText text f) :
    Digits f.offset ∧ Digits f.rows := by
  obtain ⟨-, -, -, hm, -, -, -, hn, -, -⟩ := h
  exact ⟨hm, hn⟩

theorem fetchClause_reads : Reads fetchClause fun _ text f _ => FetchClauseText text f := by
  intro before s a rest h
  simp only [fetchClause, Option.bind_eq_bind, Option.bind_eq_some_iff, Option.pure_def,
    Option.some.injEq, Prod.mk.injEq] at h
  obtain ⟨s₁, h₁, s₂, h₂, s₃, h₃, ⟨m, s₄⟩, h₄, s₅, h₅, s₆, h₆, s₇, h₇, s₈, h₈, s₉, h₉, s₁₀, h₁₀, s₁₁,
    h₁₁, ⟨n, s₁₂⟩, h₁₂, s₁₃, h₁₃, s₁₄, h₁₄, s₁₅, h₁₅, s₁₆, h₁₆, rfl, rfl⟩ := h
  obtain ⟨b₁, hne, hb₁, rfl⟩ := skipBlanks1?_eq_some h₁
  obtain ⟨offset, hoffset, rfl⟩ := keyword?_eq_some h₂
  obtain ⟨b₂, -, hb₂, rfl⟩ := skipBlanks1?_eq_some h₃
  obtain ⟨hm, rfl⟩ := digits?_eq_some h₄
  obtain ⟨b₃, -, hb₃, rfl⟩ := skipBlanks1?_eq_some h₅
  obtain ⟨rows₁, hrows₁, rfl⟩ := rowsWord?_eq_some h₆
  obtain ⟨b₄, -, hb₄, rfl⟩ := skipBlanks1?_eq_some h₇
  obtain ⟨fetch, hfetch, rfl⟩ := keyword?_eq_some h₈
  obtain ⟨b₅, -, hb₅, rfl⟩ := skipBlanks1?_eq_some h₉
  obtain ⟨next, hnext, rfl⟩ := oneOf?_keyword_eq_some h₁₀
  obtain ⟨b₆, -, hb₆, rfl⟩ := skipBlanks1?_eq_some h₁₁
  obtain ⟨hn, rfl⟩ := digits?_eq_some h₁₂
  obtain ⟨b₇, -, hb₇, rfl⟩ := skipBlanks1?_eq_some h₁₃
  obtain ⟨rows₂, hrows₂, rfl⟩ := rowsWord?_eq_some h₁₄
  obtain ⟨b₈, -, hb₈, rfl⟩ := skipBlanks1?_eq_some h₁₅
  obtain ⟨only, honly, rfl⟩ := keyword?_eq_some h₁₆
  have hblanks : ∀ b ∈ [b₁, b₂, b₃, b₄, b₅, b₆, b₇, b₈], Blanks b := by
    simp only [List.forall_mem_cons]
    exact ⟨hb₁, hb₂, hb₃, hb₄, hb₅, hb₆, hb₇, hb₈, by simp⟩
  refine ⟨_, ?_, ?_, .mk hne hblanks hoffset hm hrows₁ hfetch hnext hn hrows₂ honly⟩
  · simp [hne]
  · simp only [List.append_assoc]

/-- Nothing, or `DISTINCT` with the blanks after it. -/
def DistinctText (text : List Char) : Prop :=
  text = [] ∨ ∃ word b, Spells "distinct" word ∧ b ≠ [] ∧ Blanks b ∧ text = word ++ b

theorem distinctWord_spec (s : List Char) :
    DistinctText (distinctWord s).1 ∧ s = (distinctWord s).1 ++ (distinctWord s).2 := by
  unfold distinctWord
  split
  · rename_i r hr
    obtain ⟨s₁, h₁, h₂⟩ := Option.bind_eq_some_iff.1 hr
    obtain ⟨word, hword, rfl⟩ := keyword?_eq_some h₁
    obtain ⟨b, hne, hb, rfl⟩ := skipBlanks1?_eq_some h₂
    have hcut : (word ++ (b ++ r)).take ((word ++ (b ++ r)).length - r.length) = word ++ b := by
      rw [← List.append_assoc, List.length_append, Nat.add_sub_cancel]
      exact List.take_left
    rw [hcut]
    exact ⟨.inr ⟨word, b, hword, hne, hb, rfl⟩, by simp⟩
  · exact ⟨.inl rfl, rfl⟩

/-- A count: in parentheses, perhaps with blanks after them, or bare with blanks after it. -/
inductive TopRowsText : List Char → List Char → Prop where
  | enclosed {b₁ n b₂ b₃ : List Char} (hb₁ : Blanks b₁) (hn : Digits n) (hb₂ : Blanks b₂)
      (hb₃ : Blanks b₃) : TopRowsText (['('] ++ b₁ ++ n ++ b₂ ++ [')'] ++ b₃) n
  | bare {n b : List Char} (hn : Digits n) (hne : b ≠ []) (hb : Blanks b) : TopRowsText (n ++ b) n

theorem TopRowsText.digits {text n : List Char} : TopRowsText text n → Digits n
  | .enclosed _ hn _ _ => hn
  | .bare hn _ _ => hn

theorem topRows?_eq_some {s n rest : List Char} (h : topRows? s = some (n, rest)) :
    ∃ text, TopRowsText text n ∧ s = text ++ rest := by
  unfold topRows? at h
  split at h
  · rename_i s₁ hs
    obtain rfl := symbol?_eq_some_iff.1 hs
    simp only [Option.bind_eq_bind, Option.bind_eq_some_iff, Option.pure_def, Option.some.injEq,
      Prod.mk.injEq] at h
    obtain ⟨⟨m, s₂⟩, h₂, s₃, h₃, rfl, h₄⟩ := h
    obtain ⟨hn, hs₂⟩ := digits?_eq_some h₂
    obtain ⟨b₁, hb₁, rfl⟩ := skipBlanks_eq hs₂
    obtain ⟨b₂, hb₂, rfl⟩ := symbol?_skipBlanks_eq_some h₃
    obtain ⟨b₃, hb₃, rfl⟩ := skipBlanks_eq h₄
    exact ⟨_, .enclosed hb₁ hn hb₂ hb₃, by simp⟩
  · simp only [Option.bind_eq_bind, Option.bind_eq_some_iff, Option.pure_def, Option.some.injEq,
      Prod.mk.injEq] at h
    obtain ⟨⟨m, s₁⟩, h₁, s₂, h₂, rfl, rfl⟩ := h
    obtain ⟨hn, rfl⟩ := digits?_eq_some h₁
    obtain ⟨b, hne, hb, rfl⟩ := skipBlanks1?_eq_some h₂
    exact ⟨_, .bare hn hne hb, by simp⟩

/-- `SELECT`, perhaps `DISTINCT`, `TOP` and a count. -/
inductive SelectTopText : List Char → SelectTop → Prop where
  | mk {select b₁ distinct top b₂ rows n : List Char}
      (hselect : Spells "select" select) (hne : b₁ ≠ [])
      (hb₁ : Blanks b₁) (hdistinct : DistinctText distinct) (htop : Spells "top" top)
      (hb₂ : Blanks b₂) (hrows : TopRowsText rows n) :
      SelectTopText (select ++ b₁ ++ distinct ++ top ++ b₂ ++ rows) ⟨distinct, n⟩

theorem selectTop_reads : Reads selectTop fun before text t _ =>
    Text.atWordStart before = true ∧ SelectTopText text t := by
  intro before s a rest h
  simp only [selectTop, Option.bind_eq_bind, Option.bind_eq_some_iff, guard_eq_some, Option.pure_def,
    Option.some.injEq, Prod.mk.injEq] at h
  obtain ⟨-, hstart, s₁, h₁, s₂, h₂, s₃, h₃, ⟨n, s₄⟩, h₄, rfl, rfl⟩ := h
  obtain ⟨select, hselect, rfl⟩ := keyword?_eq_some h₁
  obtain ⟨b₁, hne, hb₁, rfl⟩ := skipBlanks1?_eq_some h₂
  have hd := distinctWord_spec s₂
  generalize distinctWord s₂ = d at h₃ hd ⊢
  obtain ⟨distinct, s₂'⟩ := d
  obtain ⟨hdistinct, rfl⟩ := hd
  obtain ⟨top, htop, rfl⟩ := keyword?_eq_some h₃
  obtain ⟨rows, hrows, hs₄⟩ := topRows?_eq_some h₄
  obtain ⟨b₂, hb₂, rfl⟩ := skipBlanks_eq hs₄
  refine ⟨_, ?_, ?_, hstart, .mk hselect hne hb₁ hdistinct htop hb₂ hrows⟩
  · simp [hne]
  · simp only [List.append_assoc]

/-- The count of a `TOP` is a row of digits. -/
theorem digits_of_topCount? {s n : List Char} (h : topCount? s = some n) : Digits n := by
  obtain ⟨t, ht, rfl⟩ := Option.map_eq_some_iff.1 h
  obtain ⟨_, _, _, -, htext⟩ := exists_shape_of_mem_hits selectTop_reads (List.mem_of_mem_head? ht)
  obtain ⟨-, -, -, -, -, -, hrows⟩ := htext
  exact hrows.digits

/-! ## Calls -/

/-- `DATENAME(MONTH, d)`, with the argument `d`. -/
inductive MonthNameCallText : List Char → List Char → Prop where
  | mk {name b₁ b₂ month b₃ b₄ arg b₅ : List Char} (hname : Spells "datename" name) (hb₁ : Blanks b₁)
      (hb₂ : Blanks b₂) (hmonth : Spells "month" month) (hb₃ : Blanks b₃) (hb₄ : Blanks b₄)
      (hb₅ : Blanks b₅) (harg : ∀ c ∈ arg, c ∉ [')']) :
      MonthNameCallText (name ++ b₁ ++ ['('] ++ b₂ ++ month ++ b₃ ++ [','] ++ b₄ ++ arg ++ b₅ ++ [')'])
        arg

theorem monthNameCall_reads : Reads monthNameCall fun before text arg _ =>
    Text.atWordStart before = true ∧ MonthNameCallText text arg := by
  intro before s a rest h
  simp only [monthNameCall, Option.bind_eq_bind, Option.bind_eq_some_iff, guard_eq_some,
    Option.pure_def, Option.some.injEq, Prod.mk.injEq] at h
  obtain ⟨-, hstart, s₁, h₁, s₂, h₂, s₃, h₃, s₄, h₄, ⟨raw, s₅⟩, h₅, arg, h₆, rfl, rfl⟩ := h
  obtain ⟨name, hname, rfl⟩ := keyword?_eq_some h₁
  obtain ⟨b₁, hb₁, rfl⟩ := symbol?_skipBlanks_eq_some h₂
  obtain ⟨b₂, month, hb₂, hmonth, rfl⟩ := keyword?_skipBlanks_eq_some h₃
  obtain ⟨b₃, hb₃, rfl⟩ := symbol?_skipBlanks_eq_some h₄
  obtain ⟨rfl, hraw⟩ := (enclosed?_eq_some_iff (by simp)).1 h₅
  obtain ⟨b₄, b₅, -, hb₄, hb₅, rfl⟩ := bareArgument?_eq_some h₆
  exact ⟨_, by simp, by simp, hstart,
    .mk hname hb₁ hb₂ hmonth hb₃ hb₄ hb₅ fun c hc => hraw c (by simp [hc])⟩

/-- `MONTH(d)`, with the argument `d` and the blanks around it. -/
inductive MonthCallText : List Char → List Char → Prop where
  | mk {month b arg : List Char} (hmonth : Spells "month" month) (hb : Blanks b)
      (harg : ∀ c ∈ arg, c ∉ [')']) : MonthCallText (month ++ b ++ ['('] ++ arg ++ [')']) arg

theorem monthCall_reads : Reads monthCall fun before text arg _ =>
    Text.atWordStart before = true ∧ MonthCallText text arg := by
  intro before s a rest h
  simp only [monthCall, Option.bind_eq_bind, Option.bind_eq_some_iff, guard_eq_some] at h
  obtain ⟨-, hstart, s₁, h₁, s₂, h₂, h₃⟩ := h
  obtain ⟨month, hmonth, rfl⟩ := keyword?_eq_some h₁
  obtain ⟨b, hb, rfl⟩ := symbol?_skipBlanks_eq_some h₂
  obtain ⟨-, harg, rfl⟩ := enclosed1?_eq_some (by simp) h₃
  exact ⟨_, by simp, by simp, hstart, .mk hmonth hb harg⟩

/-- `CONVERT(VARCHAR(10), d)`, with the argument `d`. -/
inductive DateTextCallText : List Char → List Char → Prop where
  | mk {name b₁ b₂ type b₃ b₄ b₅ b₆ b₇ arg b₈ : List Char} (hname : Spells "convert" name)
      (hblanks : ∀ b ∈ [b₁, b₂, b₃, b₄, b₅, b₆, b₇, b₈], Blanks b) (htype : Spells "varchar" type)
      (harg : ∀ c ∈ arg, c ∉ [',', ')']) :
      DateTextCallText (name ++ b₁ ++ ['('] ++ b₂ ++ type ++ b₃ ++ ['('] ++ b₄ ++ ['1', '0'] ++ b₅ ++
        [')'] ++ b₆ ++ [','] ++ b₇ ++ arg ++ b₈ ++ [')']) arg

theorem dateTextCall_reads : Reads dateTextCall fun before text arg _ =>
    Text.atWordStart before = true ∧ DateTextCallText text arg := by
  intro before s a rest h
  simp only [dateTextCall, Option.bind_eq_bind, Option.bind_eq_some_iff, guard_eq_some,
    Option.pure_def, Option.some.injEq, Prod.mk.injEq] at h
  obtain ⟨-, hstart, s₁, h₁, s₂, h₂, s₃, h₃, s₄, h₄, s₅, h₅, s₆, h₆, s₇, h₇, s₈, h₈, ⟨raw, s₉⟩, h₉,
    arg, h₁₀, rfl, rfl⟩ := h
  obtain ⟨name, hname, rfl⟩ := keyword?_eq_some h₁
  obtain ⟨b₁, hb₁, rfl⟩ := symbol?_skipBlanks_eq_some h₂
  obtain ⟨b₂, type, hb₂, htype, rfl⟩ := keyword?_skipBlanks_eq_some h₃
  obtain ⟨b₃, hb₃, rfl⟩ := symbol?_skipBlanks_eq_some h₄
  obtain ⟨b₄, hb₄, rfl⟩ := symbol?_skipBlanks_eq_some h₅
  obtain rfl := symbol?_eq_some_iff.1 h₆
  obtain ⟨b₅, hb₅, rfl⟩ := symbol?_skipBlanks_eq_some h₇
  obtain ⟨b₆, hb₆, rfl⟩ := symbol?_skipBlanks_eq_some h₈
  obtain ⟨rfl, hraw⟩ := (enclosed?_eq_some_iff (by simp)).1 h₉
  obtain ⟨b₇, b₈, -, hb₇, hb₈, rfl⟩ := bareArgument?_eq_some h₁₀
  have hblanks : ∀ b ∈ [b₁, b₂, b₃, b₄, b₅, b₆, b₇, b₈], Blanks b := by
    simp only [List.forall_mem_cons]
    exact ⟨hb₁, hb₂, hb₃, hb₄, hb₅, hb₆, hb₇, hb₈, by simp⟩
  exact ⟨_, by simp, by simp, hstart, .mk hname hblanks htype fun c hc => hraw c (by simp [hc])⟩

/-- The name of a function and an opening parenthesis. -/
inductive OpenCallText (name : String) : List Char → Prop where
  | mk {word b : List Char} (hword : Spells name word) (hb : Blanks b) :
      OpenCallText name (word ++ b ++ ['('])

theorem openCall_reads (name : String) : Reads (openCall name.toList) fun before text _ _ =>
    Text.atWordStart before = true ∧ OpenCallText name text := by
  intro before s a rest h
  simp only [openCall, Option.bind_eq_bind, Option.bind_eq_some_iff, guard_eq_some, Option.pure_def,
    Option.some.injEq, Prod.mk.injEq] at h
  obtain ⟨-, hstart, s₁, h₁, s₂, h₂, -, rfl⟩ := h
  obtain ⟨word, hword, rfl⟩ := keyword?_eq_some h₁
  obtain ⟨b, hb, rfl⟩ := symbol?_skipBlanks_eq_some h₂
  exact ⟨_, by simp, by simp, hstart, .mk hword hb⟩

/-- The head of a date call: one of the three names and an opening parenthesis. -/
def CallHeadText (text : List Char) : Prop :=
  OpenCallText "datename" text ∨ OpenCallText "month" text ∨ OpenCallText "convert" text

theorem callHead_reads : Reads callHead fun before text _ _ =>
    Text.atWordStart before = true ∧ CallHeadText text := by
  intro before s a rest h
  simp only [callHead, Option.bind_eq_bind, Option.bind_eq_some_iff, guard_eq_some, Option.pure_def,
    Option.some.injEq, Prod.mk.injEq] at h
  obtain ⟨-, hstart, s₁, h₁, s₂, h₂, -, rfl⟩ := h
  unfold oneOf? at h₁
  rcases Option.or_eq_some_iff.1 h₁ with h₁ | ⟨-, h₁⟩
  · obtain ⟨word, hword, rfl⟩ := keyword?_eq_some h₁
    obtain ⟨b, hb, rfl⟩ := symbol?_skipBlanks_eq_some h₂
    exact ⟨_, by simp, by simp, hstart, .inl (.mk hword hb)⟩
  · obtain ⟨word, hword, rfl⟩ := oneOf?_keyword_eq_some h₁
    obtain ⟨b, hb, rfl⟩ := symbol?_skipBlanks_eq_some h₂
    refine ⟨word ++ b ++ ['('], by simp, by simp, hstart, .inr ?_⟩
    rcases hword with hword | hword
    · exact .inl (.mk hword hb)
    · exact .inr (.mk hword hb)

/-- One of the three names with an opening parenthesis is the head of a date call. -/
theorem callHead_eq_some {before : Option Char} {s s₁ rest : List Char}
    (hstart : Text.atWordStart before = true)
    (hname : keyword? "datename".toList s = some s₁ ∨ keyword? "month".toList s = some s₁ ∨
      keyword? "convert".toList s = some s₁)
    (hopen : symbol? '(' (Text.skipBlanks s₁) = some rest) : callHead before s = some ((), rest) := by
  have hread : oneOf? (keyword? "datename".toList)
      (oneOf? (keyword? "month".toList) (keyword? "convert".toList)) s = some s₁ := by
    unfold oneOf?
    rcases hname with h | h | h
    · rw [h, Option.some_or]
    · rw [keyword?_eq_none "datename" (by decide) h, Option.none_or, h, Option.some_or]
    · rw [keyword?_eq_none "datename" (by decide) h, Option.none_or,
        keyword?_eq_none "month" (by decide) h, Option.none_or, h]
  have hguard : (guard (Text.atWordStart before = true) : Option Unit) = some () :=
    guard_eq_some.2 hstart
  unfold callHead
  simp only [hguard, hread, hopen, Option.bind_eq_bind, Option.pure_def, Option.bind_some]

/-! ## Literals -/

/-- A text between single quotes. -/
def LiteralText (text : List Char) : Prop := ∃ body, text = ['\''] ++ body ++ ['\'']

theorem closeLiteral?_eq_some {s body rest : List Char} (h : closeLiteral? s = some (body, rest)) :
    s = body ++ rest ∧ ∃ x, body = x ++ ['\''] := by
  fun_induction closeLiteral? s generalizing body rest with
  | case1 => cases h
  | case2 s body' rest' hs ih =>
    obtain ⟨rfl, rfl⟩ := Prod.mk.inj (Option.some.inj h)
    obtain ⟨rfl, x, rfl⟩ := ih hs
    exact ⟨rfl, '\'' :: '\'' :: x, rfl⟩
  | case3 s hs =>
    obtain ⟨rfl, rfl⟩ := Prod.mk.inj (Option.some.inj h)
    exact ⟨rfl, [], rfl⟩
  | case4 s hs =>
    obtain ⟨rfl, rfl⟩ := Prod.mk.inj (Option.some.inj h)
    exact ⟨rfl, [], rfl⟩
  | case5 c s hs hc ih =>
    obtain ⟨⟨b, r⟩, hb, he⟩ := Option.map_eq_some_iff.1 h
    obtain ⟨rfl, rfl⟩ := Prod.mk.inj he
    obtain ⟨rfl, x, rfl⟩ := ih hb
    exact ⟨rfl, c :: x, rfl⟩

theorem literal?_eq_some {s text rest : List Char} (h : literal? s = some (text, rest)) :
    LiteralText text ∧ s = text ++ rest := by
  cases s with
  | nil => cases h
  | cons c s =>
    simp only [literal?] at h
    split at h
    · rename_i hc
      subst hc
      obtain ⟨⟨b, r⟩, hb, he⟩ := Option.map_eq_some_iff.1 h
      obtain ⟨rfl, rfl⟩ := Prod.mk.inj he
      obtain ⟨rfl, x, rfl⟩ := closeLiteral?_eq_some hb
      exact ⟨⟨x, rfl⟩, rfl⟩
    · cases h

/-- Two literals with a `+` between them. -/
inductive LiteralSumText : List Char → List Char × List Char → Prop where
  | mk {left b₁ b₂ right : List Char} (hleft : LiteralText left) (hb₁ : Blanks b₁) (hb₂ : Blanks b₂)
      (hright : LiteralText right) : LiteralSumText (left ++ b₁ ++ ['+'] ++ b₂ ++ right) (left, right)

theorem literalSum_reads : Reads literalSum fun _ text sum _ => LiteralSumText text sum := by
  intro before s a rest h
  simp only [literalSum, Option.bind_eq_bind, Option.bind_eq_some_iff, Option.pure_def,
    Option.some.injEq, Prod.mk.injEq] at h
  obtain ⟨⟨left, s₁⟩, h₁, s₂, h₂, ⟨right, s₃⟩, h₃, rfl, rfl⟩ := h
  obtain ⟨hleft, rfl⟩ := literal?_eq_some h₁
  obtain ⟨b₁, hb₁, rfl⟩ := symbol?_skipBlanks_eq_some h₂
  obtain ⟨hright, hs⟩ := literal?_eq_some h₃
  obtain ⟨b₂, hb₂, rfl⟩ := skipBlanks_eq hs
  exact ⟨_, by simp, by simp, .mk hleft hb₁ hb₂ hright⟩

/-! ## Boolean columns -/

/-- What ends a number: a blank, `)`, `,` or `;`, or nothing at the end of the text. -/
inductive StopText : List Char → List Char → Prop where
  | atEnd : StopText [] []
  | sign {c : Char} {rest : List Char} (hc : Text.isBlank c = true ∨ c ∈ [')', ',', ';']) :
      StopText [c] rest

theorem comparedWith?_eq_some {digit : Char} {s stop rest : List Char}
    (h : comparedWith? digit s = some (stop, rest)) : ∃ b₁ b₂, Blanks b₁ ∧ Blanks b₂ ∧
      StopText stop rest ∧ s = b₁ ++ ['='] ++ b₂ ++ [digit] ++ stop ++ rest := by
  simp only [comparedWith?, Option.bind_eq_bind, Option.bind_eq_some_iff] at h
  obtain ⟨s₁, h₁, s₂, h₂, h₃⟩ := h
  obtain ⟨b₁, hb₁, rfl⟩ := symbol?_skipBlanks_eq_some h₁
  obtain ⟨b₂, hb₂, rfl⟩ := symbol?_skipBlanks_eq_some h₂
  split at h₃
  · obtain ⟨rfl, rfl⟩ := Prod.mk.inj (Option.some.inj h₃)
    exact ⟨b₁, b₂, hb₁, hb₂, .atEnd, by simp⟩
  · rename_i c s₃
    split at h₃
    · rename_i hc
      obtain ⟨rfl, rfl⟩ := Prod.mk.inj (Option.some.inj h₃)
      refine ⟨b₁, b₂, hb₁, hb₂, .sign ?_, by simp⟩
      simpa only [Bool.or_eq_true, List.contains_iff_mem] using hc
    · cases h₃

/-- A name ends right behind the next double quote. -/
theorem closeName?_eq_some {s rest : List Char} (h : closeName? s = some rest) :
    ∃ x, '"' ∉ x ∧ s = x ++ ['"'] ++ rest := by
  have hs := symbol?_eq_some_iff.1 h
  refine ⟨s.takeWhile (· != '"'), ?_, ?_⟩
  · intro hc
    exact absurd (List.all_eq_true.1 List.all_takeWhile _ hc) (by decide)
  · rw [List.append_assoc, List.singleton_append, ← hs]
    exact List.takeWhile_append_dropWhile.symm

theorem mem_fragmentEnds {columns : BooleanColumns} {s rest : List Char}
    (h : rest ∈ fragmentEnds columns s) : ∃ x, s = x ++ ['"'] ++ rest := by
  obtain ⟨f, -, hf⟩ := List.mem_filterMap.1 h
  obtain ⟨s₁, h₁, h₂⟩ := Option.bind_eq_some_iff.1 hf
  obtain ⟨t, rfl, -⟩ := Text.dropFolded?_eq_some_iff.1 h₁
  obtain ⟨x, -, rfl⟩ := closeName?_eq_some h₂
  exact ⟨t ++ x, by simp⟩

/-- The places of a name are those behind a text without a quote. -/
theorem mem_namePlaces {s place : List Char} :
    place ∈ namePlaces s ↔ ∃ x, '"' ∉ x ∧ s = x ++ place := by
  induction s with
  | nil =>
    rw [namePlaces, List.mem_singleton]
    constructor
    · rintro rfl
      exact ⟨[], List.not_mem_nil, rfl⟩
    · rintro ⟨x, -, h⟩
      exact (List.append_eq_nil_iff.1 h.symm).2
  | cons c s ih =>
    rw [namePlaces, List.mem_cons]
    constructor
    · rintro (rfl | h)
      · exact ⟨[], List.not_mem_nil, rfl⟩
      · split at h
        · cases h
        · rename_i hc
          obtain ⟨x, hx, rfl⟩ := ih.1 h
          exact ⟨c :: x, by simp [hx, Ne.symm hc], rfl⟩
    · rintro ⟨x, hx, h⟩
      cases x with
      | nil => exact .inl h.symm
      | cons d x =>
        obtain ⟨rfl, hs⟩ := List.cons.inj h
        rw [List.mem_cons, not_or] at hx
        rw [if_neg (Ne.symm hx.1)]
        exact .inr (ih.2 ⟨x, hx.2, hs⟩)

theorem mem_nameEnds {columns : BooleanColumns} {s rest : List Char}
    (h : rest ∈ nameEnds columns s) : ∃ x, s = x ++ ['"'] ++ rest := by
  obtain ⟨place, hplace, hrest⟩ := List.mem_flatMap.1 h
  obtain ⟨x, -, rfl⟩ := mem_namePlaces.1 (List.mem_reverse.1 hplace)
  obtain ⟨y, rfl⟩ := mem_fragmentEnds hrest
  exact ⟨x ++ y, by simp⟩

theorem afterQualifier?_eq_some {s rest : List Char} (h : afterQualifier? s = some rest) :
    ∃ x, s = x ++ rest := by
  simp only [afterQualifier?, Option.bind_eq_bind, Option.bind_eq_some_iff, symbol?_eq_some_iff] at h
  obtain ⟨⟨table, s₁⟩, h₁, s₂, h₂, h₃⟩ := h
  obtain ⟨-, -, rfl⟩ := enclosed1?_eq_some (by simp) h₁
  refine ⟨table ++ ['"', '.', '"'], ?_⟩
  simp only at h₂
  simp [h₂, h₃]

/-- A column stands between double quotes; a table in front and its dot stand between them too. -/
theorem mem_columnEnds {columns : BooleanColumns} {s rest : List Char}
    (h : rest ∈ columnEnds columns s) : ∃ x, s = ['"'] ++ x ++ ['"'] ++ rest := by
  unfold columnEnds at h
  split at h
  · cases h
  · rename_i s₁ hs
    obtain rfl := symbol?_eq_some_iff.1 hs
    rcases List.mem_append.1 h with hqualified | hplain
    · cases hq : afterQualifier? s₁ with
      | none => rw [hq] at hqualified; cases hqualified
      | some s₂ =>
        rw [hq] at hqualified
        obtain ⟨x, rfl⟩ := afterQualifier?_eq_some hq
        obtain ⟨y, rfl⟩ := mem_nameEnds hqualified
        exact ⟨x ++ y, by simp⟩
    · obtain ⟨x, rfl⟩ := mem_nameEnds hplain
      exact ⟨x, by simp⟩

/-- A column in double quotes, `=`, a digit and what ends the number. -/
inductive FlagComparisonText (digit : Char) : List Char → FlagComparison → List Char → Prop where
  | mk {name b₁ b₂ stop rest : List Char} (hb₁ : Blanks b₁) (hb₂ : Blanks b₂)
      (hstop : StopText stop rest) :
      FlagComparisonText digit (['"'] ++ name ++ ['"'] ++ b₁ ++ ['='] ++ b₂ ++ [digit] ++ stop)
        ⟨['"'] ++ name ++ ['"'], stop⟩ rest

theorem flagComparison_reads (columns : BooleanColumns) (digit : Char) :
    Reads (flagComparison columns digit)
      fun _ text f rest => FlagComparisonText digit text f rest := by
  intro before s a rest h
  unfold flagComparison at h
  obtain ⟨s₁, hmem, h⟩ := List.exists_of_findSome?_eq_some h
  simp only [Option.bind_eq_bind, Option.bind_eq_some_iff, Option.pure_def, Option.some.injEq,
    Prod.mk.injEq] at h
  obtain ⟨⟨stop, s₂⟩, h₂, rfl, rfl⟩ := h
  obtain ⟨name, rfl⟩ := mem_columnEnds hmem
  obtain ⟨b₁, b₂, hb₁, hb₂, hstop, rfl⟩ := comparedWith?_eq_some h₂
  rw [List.length_append, Nat.add_sub_cancel, List.take_left]
  exact ⟨_, by simp, by simp, .mk hb₁ hb₂ hstop⟩

end SqlDialect.Query
