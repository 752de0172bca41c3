import SqlDialect.Proofs.BooleanNames

/-!
# Comparisons of boolean columns

A boolean column can be read at any double quote of a text, also at one that closes a name, with the
name before it or without, and a sweep passes over what ends the number. Where the quotes of a text
come in pairs none of this shows: each name stands for itself.

* `quotedNames` — the quoted names of a text, each with what stands behind it.
  `append_namesText_quotedNames` puts the text together again.
* `valueEnd?`, `spellValue` — a comparison behind a name, and what becomes of it.
* `rewriteNames` — writes something else behind each marked name.
* `replaceAll_names` — a sweep for one digit does this, if no name starts like a comparison.
* `BooleanColumns.ofList_eq_ok_iff` — which fragments a list of columns stands for, whatever the
  search engine has against others.
* `Rule.booleanColumns_quoted` — and so does the rule, for both digits, once and for all.
-/

namespace SqlDialect.Query

open Scan Text

/-! ## Quoted names -/

/-- A name in double quotes, and the text behind it up to the next one. -/
structure QuotedName where
  name : List Char
  after : List Char
  deriving DecidableEq

def QuotedName.text (n : QuotedName) : List Char := '"' :: (n.name ++ '"' :: n.after)

/-- The text of some names, one behind the other. -/
def namesText (ns : List QuotedName) : List Char := ns.flatMap QuotedName.text

/-- The stretches between the quotes behind the first one, two by two. -/
def pairNames : List (List Char) → List QuotedName
  | name :: after :: stretches => ⟨name, after⟩ :: pairNames stretches
  | _ => []

/-- The quoted names of a text: what stands between its first quote and its second, between its
third and its fourth, and so on. -/
def quotedNames (s : List Char) : List QuotedName := pairNames (s.splitOn '"').tail

/-- The text before the first quote. -/
def beforeNames (s : List Char) : List Char := s.takeWhile (· != '"')

theorem beforeNames_append {out : List Char} (hout : '"' ∉ out) (s : List Char) :
    beforeNames (out ++ '"' :: s) = out := by
  rw [beforeNames, List.takeWhile_append_of_pos (bne_quote_of_not_mem hout)]
  exact List.append_nil out

theorem beforeNames_of_not_mem {s : List Char} (h : '"' ∉ s) : beforeNames s = s := by
  have htake : (s ++ []).takeWhile (· != '"') = s ++ [] :=
    List.takeWhile_append_of_pos (bne_quote_of_not_mem h)
  rwa [List.append_nil] at htake

/-- The first quote of a text stands where it stands. -/
theorem append_quote_inj {x y s t : List Char} (hx : '"' ∉ x) (hy : '"' ∉ y)
    (h : x ++ '"' :: s = y ++ '"' :: t) : x = y ∧ s = t := by
  have hbefore := congrArg beforeNames h
  rw [beforeNames_append hx, beforeNames_append hy] at hbefore
  subst hbefore
  exact ⟨rfl, (List.cons.inj (List.append_cancel_left h)).2⟩

theorem not_mem_beforeNames (s : List Char) : '"' ∉ beforeNames s := by
  intro hmem
  have hall := List.all_eq_true.1 List.all_takeWhile '"' hmem
  simp at hall

theorem splitOn_eq_beforeNames_cons (s : List Char) :
    s.splitOn '"' = beforeNames s :: (s.splitOn '"').tail := by
  by_cases h : '"' ∈ s
  · obtain ⟨out, t, rfl, hout⟩ := List.eq_append_cons_of_mem h
    rw [List.splitOn_append_cons_self, List.splitOn_eq_singleton hout, beforeNames_append hout]
    rfl
  · rw [List.splitOn_eq_singleton h, beforeNames_of_not_mem h]
    rfl

theorem quotedNames_of_not_mem {s : List Char} (h : '"' ∉ s) : quotedNames s = [] := by
  rw [quotedNames, List.splitOn_eq_singleton h]
  rfl

theorem quotedNames_append {out name : List Char} (hout : '"' ∉ out) (hname : '"' ∉ name)
    (s : List Char) : quotedNames (out ++ '"' :: (name ++ '"' :: s)) =
      ⟨name, beforeNames s⟩ :: quotedNames s := by
  unfold quotedNames
  rw [List.splitOn_append_cons_self, List.splitOn_append_cons_self, List.splitOn_eq_singleton hout,
    List.splitOn_eq_singleton hname, splitOn_eq_beforeNames_cons s]
  rfl

/-- Induction from one quoted name to the next, over the texts whose quotes come in pairs. -/
theorem names_induction {motive : List Char → Prop} (plain : ∀ s, '"' ∉ s → motive s)
    (name : ∀ out name s, '"' ∉ out → '"' ∉ name → motive s →
      motive (out ++ '"' :: (name ++ '"' :: s))) (s : List Char) (heven : s.count '"' % 2 = 0) :
    motive s := by
  by_cases h : '"' ∈ s
  · obtain ⟨out, t, hs, hout⟩ := List.eq_append_cons_of_mem h
    have hcount : s.count '"' = t.count '"' + 1 := by
      rw [hs, List.count_append, List.count_cons_self, List.count_eq_zero_of_not_mem hout]
      omega
    have ht : '"' ∈ t := List.count_pos_iff.1 (by omega)
    obtain ⟨g, u, rfl, hg⟩ := List.eq_append_cons_of_mem ht
    rw [List.count_append, List.count_cons_self, List.count_eq_zero_of_not_mem hg] at hcount
    have hlt : u.length < s.length := by
      rw [hs]
      simp only [List.length_append, List.length_cons]
      omega
    rw [hs]
    exact name out g u hout hg (names_induction plain name u (by omega))
  · exact plain s h
termination_by s.length

/-- The parts of a text whose quotes come in pairs, put together again. -/
theorem append_namesText_quotedNames {s : List Char} (heven : s.count '"' % 2 = 0) :
    beforeNames s ++ namesText (quotedNames s) = s := by
  refine names_induction (motive := fun s => beforeNames s ++ namesText (quotedNames s) = s)
    ?_ ?_ s heven
  · intro s hs
    rw [quotedNames_of_not_mem hs, beforeNames_of_not_mem hs]
    exact List.append_nil s
  · intro out name s hout hname ih
    rw [quotedNames_append hout hname, beforeNames_append hout, namesText, List.flatMap_cons,
      QuotedName.text]
    simpa [namesText] using ih

/-- No part of them has a quote. -/
theorem not_mem_of_mem_quotedNames {s : List Char} (heven : s.count '"' % 2 = 0) :
    ∀ n ∈ quotedNames s, '"' ∉ n.name ∧ '"' ∉ n.after := by
  refine names_induction (motive := fun s => ∀ n ∈ quotedNames s, '"' ∉ n.name ∧ '"' ∉ n.after)
    ?_ ?_ s heven
  · intro s hs
    rw [quotedNames_of_not_mem hs]
    exact fun n hn => absurd hn List.not_mem_nil
  · intro out name s hout hname ih
    rw [quotedNames_append hout hname, List.forall_mem_cons]
    exact ⟨⟨hname, not_mem_beforeNames s⟩, ih⟩

/-! ## Comparisons behind a name -/

/-- Whether a number ends here: a blank, `)`, `,` or `;` follows, or nothing in the last stretch of
a text. -/
def endsValue (last : Bool) : List Char → Bool
  | [] => last
  | c :: _ => isBlank c || [')', ',', ';'].contains c

/-- What stands behind a comparison with the digit: `=` and the digit with nothing but blanks before
them, where the number ends. -/
def valueEnd? (digit : Char) (last : Bool) (s : List Char) : Option (List Char) := do
  let s ← symbol? '=' (skipBlanks s)
  let s ← symbol? digit (skipBlanks s)
  if endsValue last s then some s else none

/-- Writes a comparison with the digit as one with the value. -/
def writeValue (digit : Char) (value : List Char) (last : Bool) (after : List Char) : List Char :=
  match valueEnd? digit last after with
  | some rest => " = ".toList ++ value ++ rest
  | none => after

/-- Writes a comparison with `1` or `0` as one with a truth value. -/
def spellValue (last : Bool) (after : List Char) : List Char :=
  match valueEnd? '1' last after, valueEnd? '0' last after with
  | some rest, _ => " = true".toList ++ rest
  | none, some rest => " = false".toList ++ rest
  | none, none => after

/-- Writes something else behind each marked name. -/
def rewriteNames (fragments : List (List Char)) (write : Bool → List Char → List Char) :
    List QuotedName → List QuotedName
  | [] => []
  | n :: rest =>
    ⟨n.name, if Marked fragments n.name then write rest.isEmpty n.after else n.after⟩ ::
      rewriteNames fragments write rest

theorem symbol?_skipBlanks_append {sign : Char} (hsign : sign ≠ '"') {y : List Char}
    (hy : y.head?.all (· = '"')) (a : List Char) :
    symbol? sign (skipBlanks (a ++ y)) = (symbol? sign (skipBlanks a)).map (· ++ y) := by
  induction a with
  | nil =>
    cases y with
    | nil => rfl
    | cons c y =>
      obtain rfl : c = '"' := by simpa using hy
      rw [List.nil_append, skipBlanks, List.dropWhile_cons_of_neg (by decide), symbol?,
        if_neg (Ne.symm hsign)]
      rfl
  | cons c a ih =>
    by_cases hc : isBlank c = true
    · rw [List.cons_append, skipBlanks, List.dropWhile_cons_of_pos hc, skipBlanks,
        List.dropWhile_cons_of_pos hc]
      exact ih
    · rw [List.cons_append, skipBlanks, List.dropWhile_cons_of_neg hc, skipBlanks,
        List.dropWhile_cons_of_neg hc, symbol?, symbol?]
      split
      · rfl
      · rfl

/-- In front of a quote or at the end of the text, a comparison is read within its stretch. -/
theorem comparedWith?_append {digit : Char} (hdigit : digit ≠ '"') {y : List Char}
    (hy : y.head?.all (· = '"')) (a : List Char) :
    comparedWith? digit (a ++ y) =
      (valueEnd? digit y.isEmpty a).map fun rest => (rest.take 1, rest.drop 1 ++ y) := by
  unfold comparedWith? valueEnd?
  rw [symbol?_skipBlanks_append (by decide) hy]
  cases symbol? '=' (skipBlanks a) with
  | none => rfl
  | some s =>
    simp only [Option.map_some, Option.bind_eq_bind, Option.bind_some]
    rw [symbol?_skipBlanks_append hdigit hy]
    cases symbol? digit (skipBlanks s) with
    | none => rfl
    | some rest =>
      simp only [Option.map_some, Option.bind_some]
      cases rest with
      | cons c rest =>
        -- both sides look at the same character
        by_cases hc : (isBlank c || [')', ',', ';'].contains c) = true
        · have hends : endsValue y.isEmpty (c :: rest) = true := hc
          rw [if_pos hends]
          exact if_pos hc
        · have hends : ¬endsValue y.isEmpty (c :: rest) = true := hc
          rw [if_neg hends]
          exact if_neg hc
      | nil =>
        cases y with
        | nil => rfl
        | cons c y =>
          obtain rfl : c = '"' := by simpa using hy
          rfl

/-- A name that does not start like a comparison is none, in front of its closing quote. -/
theorem comparedWith?_name {name : List Char} (h : (skipBlanks name).head? ≠ some '=')
    (digit : Char) (s : List Char) :
    comparedWith? digit (name ++ '"' :: s) = none := by
  have hsign : symbol? '=' (skipBlanks name) = none := by
    refine Option.eq_none_iff_forall_ne_some.2 fun rest hrest => h ?_
    rw [symbol?_eq_some_iff.1 hrest]
    rfl
  have hnone : symbol? '=' (skipBlanks (name ++ '"' :: s)) = none := by
    rw [symbol?_skipBlanks_append (by decide) (by simp), hsign]
    rfl
  rw [comparedWith?, hnone]
  rfl

/-! ## Sweeps -/

/-- The parts of the name have no quotes, and the name does not start like a comparison. -/
structure QuotedName.Proper (n : QuotedName) : Prop where
  name_unquoted : '"' ∉ n.name
  after_unquoted : '"' ∉ n.after
  no_comparison : (skipBlanks n.name).head? ≠ some '='

theorem namesText_cons (n : QuotedName) (ns : List QuotedName) :
    namesText (n :: ns) = '"' :: (n.name ++ '"' :: (n.after ++ namesText ns)) := by
  simp [namesText, QuotedName.text]

theorem head?_namesText (ns : List QuotedName) : (namesText ns).head?.all (· = '"') = true := by
  cases ns with
  | nil => rfl
  | cons n ns => rfl

theorem isEmpty_namesText (ns : List QuotedName) : (namesText ns).isEmpty = ns.isEmpty := by
  cases ns with
  | nil => rfl
  | cons n ns => rfl

variable {columns : BooleanColumns} {digit : Char}

/-- Nothing is read at a closing quote. -/
theorem flagComparison_closing (hcolumns : columns.Unquoted) {a : List Char} (ha : '"' ∉ a)
    {ns : List QuotedName} (hns : ∀ n ∈ ns, n.Proper) (before : Option Char) :
    flagComparison columns digit before ('"' :: (a ++ namesText ns)) = none := by
  cases ns with
  | nil => exact flagComparison_last_quote columns digit before (by simpa [namesText] using ha)
  | cons n ns =>
    obtain ⟨hn, hns⟩ := List.forall_mem_cons.1 hns
    rw [namesText_cons]
    refine flagComparison_eq_none hcolumns ha
      (fun _ => comparedWith?_name hn.no_comparison digit _) fun s _ hs rest hrest => ?_
    -- the text before a name taken for a table, and the name for its dot
    obtain ⟨-, rfl⟩ := append_quote_inj hn.name_unquoted (by decide : '"' ∉ ['.']) hs
    cases ns with
    | nil =>
      have hlast : '"' ∉ n.after ++ namesText [] := by simpa [namesText] using hn.after_unquoted
      rw [nameEnds_of_not_mem columns hlast] at hrest
      cases hrest
    | cons m ns =>
      rw [namesText_cons, mem_nameEnds_iff hcolumns hn.after_unquoted] at hrest
      rw [hrest.1]
      exact comparedWith?_name (hns m List.mem_cons_self).no_comparison digit _

theorem blind_flagComparison (columns : BooleanColumns) (digit : Char) :
    Blind (flagComparison columns digit) := fun _ _ => rfl

section

variable {write : FlagComparison → List Char}

/-- A text without quotes is passed over. -/
theorem replaceAll_flag_append {a : List Char} (ha : '"' ∉ a) (s : List Char) :
    replaceAll (flagComparison columns digit) write (a ++ s) =
      a ++ replaceAll (flagComparison columns digit) write s := by
  induction a with
  | nil => rfl
  | cons c a ih =>
    rw [List.mem_cons, not_or] at ha
    have hmiss := flagComparison_of_ne (Ne.symm ha.1) columns digit none (a ++ s)
    rw [List.cons_append, (blind_flagComparison columns digit).replaceAll_cons_of_miss hmiss,
      ih ha.2]
    rfl

/-- Where nothing is read at the opening quote, the name and what is behind it are kept. -/
theorem replaceAll_flag_miss (hcolumns : columns.Unquoted) {n : QuotedName} {ns : List QuotedName}
    (hn : n.Proper) (hns : ∀ n ∈ ns, n.Proper)
    (hmiss : flagComparison columns digit none (namesText (n :: ns)) = none) :
    replaceAll (flagComparison columns digit) write (namesText (n :: ns)) =
      '"' :: (n.name ++ '"' :: (n.after ++
        replaceAll (flagComparison columns digit) write (namesText ns))) := by
  have hblind := blind_flagComparison columns digit
  have hclosing : flagComparison columns digit none ('"' :: (n.after ++ namesText ns)) = none :=
    flagComparison_closing hcolumns hn.after_unquoted hns none
  rw [namesText_cons] at hmiss ⊢
  rw [hblind.replaceAll_cons_of_miss hmiss, replaceAll_flag_append hn.name_unquoted,
    hblind.replaceAll_cons_of_miss hclosing, replaceAll_flag_append hn.after_unquoted]

end

theorem valueEnd?_eq_some {last : Bool} {s rest : List Char}
    (h : valueEnd? digit last s = some rest) : ∃ b₁ b₂, Blanks b₁ ∧ Blanks b₂ ∧
      s = b₁ ++ '=' :: (b₂ ++ digit :: rest) ∧ endsValue last rest = true := by
  simp only [valueEnd?, Option.bind_eq_bind, Option.bind_eq_some_iff] at h
  obtain ⟨s₁, h₁, s₂, h₂, h₃⟩ := h
  obtain ⟨b₁, hb₁, rfl⟩ := symbol?_skipBlanks_eq_some h₁
  obtain ⟨b₂, hb₂, rfl⟩ := symbol?_skipBlanks_eq_some h₂
  split at h₃
  · rename_i hends
    obtain rfl := Option.some.inj h₃
    exact ⟨b₁, b₂, hb₁, hb₂, by simp, hends⟩
  · cases h₃

/-- What is read behind a name. -/
theorem comparedWith?_after (hdigit : digit ≠ '"') (a : List Char) (ns : List QuotedName) :
    comparedWith? digit (a ++ namesText ns) = (valueEnd? digit ns.isEmpty a).map fun rest =>
      (rest.take 1, rest.drop 1 ++ namesText ns) := by
  rw [comparedWith?_append hdigit (head?_namesText ns), isEmpty_namesText]

section

variable {value : List Char}

/-- A comparison that is read is written anew, and the sweep goes on with the next name. -/
theorem replaceAll_flag_hit (hdigit : digit ≠ '"') {s column rest : List Char} {n : QuotedName}
    {ns : List QuotedName} (hn : n.Proper) (hvalue : valueEnd? digit ns.isEmpty n.after = some rest)
    (hread : ∀ stop after, comparedWith? digit (n.after ++ namesText ns) = some (stop, after) →
      flagComparison columns digit none s = some (⟨column, stop⟩, after)) :
    replaceAll (flagComparison columns digit) (FlagComparison.comparedTo value) s =
      column ++ (" = ".toList ++ value ++ rest ++
        replaceAll (flagComparison columns digit) (FlagComparison.comparedTo value)
          (namesText ns)) := by
  have hrest : '"' ∉ rest.drop 1 := by
    obtain ⟨b₁, b₂, -, -, hafter, -⟩ := valueEnd?_eq_some hvalue
    refine fun hmem => hn.after_unquoted ?_
    rw [hafter]
    simp [List.mem_of_mem_drop hmem]
  have hcompared := comparedWith?_after hdigit n.after ns
  rw [hvalue, Option.map_some] at hcompared
  rw [(blind_flagComparison columns digit).replaceAll_of_hit (flagComparison_reads columns digit)
    (hread _ _ hcompared), replaceAll_flag_append hrest, FlagComparison.comparedTo]
  simp only [List.append_assoc]
  rw [← List.append_assoc (rest.take 1), List.take_append_drop]

variable {n m : QuotedName} {ns ms : List QuotedName}

theorem replaceAll_flag_plain (hcolumns : columns.Unquoted) (hdigit : digit ≠ '"') (hn : n.Proper)
    (hmarked : Marked columns.fragments n.name) {rest : List Char}
    (hvalue : valueEnd? digit ns.isEmpty n.after = some rest) :
    replaceAll (flagComparison columns digit) (FlagComparison.comparedTo value)
        (namesText (n :: ns)) =
      '"' :: (n.name ++ ['"']) ++ (" = ".toList ++ value ++ rest ++
        replaceAll (flagComparison columns digit) (FlagComparison.comparedTo value)
          (namesText ns)) := by
  refine replaceAll_flag_hit hdigit hn hvalue fun stop after hcompared => ?_
  rw [namesText_cons]
  exact flagComparison_plain hcolumns hn.name_unquoted hmarked hcompared

/-- A column read with its table is the column read by itself, with the table kept. -/
theorem replaceAll_flag_qualified (hcolumns : columns.Unquoted) (hdigit : digit ≠ '"')
    (hn : n.Proper) (hne : n.name ≠ []) (hdot : n.after = ['.']) (hm : m.Proper)
    (hmarked : Marked columns.fragments m.name) {rest : List Char}
    (hvalue : valueEnd? digit ms.isEmpty m.after = some rest) :
    replaceAll (flagComparison columns digit) (FlagComparison.comparedTo value)
        (namesText (n :: m :: ms)) =
      '"' :: (n.name ++ '"' :: (n.after ++
        replaceAll (flagComparison columns digit) (FlagComparison.comparedTo value)
          (namesText (m :: ms)))) := by
  rw [replaceAll_flag_plain hcolumns hdigit hm hmarked hvalue, hdot]
  have hhit : replaceAll _ (FlagComparison.comparedTo value) _ = _ :=
    replaceAll_flag_hit hdigit hm hvalue fun stop after hcompared =>
      flagComparison_qualified hcolumns hn.name_unquoted hne hm.name_unquoted hmarked hcompared
  rw [namesText_cons, namesText_cons, hdot]
  simpa using hhit

/-- **One name of a sweep.** What stands behind a name is written anew if the name is marked and a
comparison stands there, whether it is read with the name before it or without. -/
theorem replaceAll_flag_cons (hcolumns : columns.Unquoted) (hdigit : digit ≠ '"') (hn : n.Proper)
    (hns : ∀ n ∈ ns, n.Proper) :
    replaceAll (flagComparison columns digit) (FlagComparison.comparedTo value)
        (namesText (n :: ns)) =
      '"' :: (n.name ++ '"' ::
        ((if Marked columns.fragments n.name then writeValue digit value ns.isEmpty n.after
          else n.after) ++
          replaceAll (flagComparison columns digit) (FlagComparison.comparedTo value)
            (namesText ns))) := by
  by_cases hplain : Marked columns.fragments n.name ∧ ∃ rest,
      valueEnd? digit ns.isEmpty n.after = some rest
  · obtain ⟨hmarked, rest, hvalue⟩ := hplain
    rw [replaceAll_flag_plain hcolumns hdigit hn hmarked hvalue, if_pos hmarked, writeValue, hvalue]
    simp
  have hnone : Marked columns.fragments n.name → valueEnd? digit ns.isEmpty n.after = none :=
    fun hmarked => Option.eq_none_iff_forall_ne_some.2 fun rest hvalue =>
      hplain ⟨hmarked, rest, hvalue⟩
  have hkeep : (if Marked columns.fragments n.name then writeValue digit value ns.isEmpty n.after
      else n.after) = n.after := by
    split
    · rename_i hmarked
      rw [writeValue, hnone hmarked]
    · rfl
  rw [hkeep]
  by_cases hqualified : n.name ≠ [] ∧ n.after = ['.'] ∧ ∃ m ms rest, ns = m :: ms ∧
      Marked columns.fragments m.name ∧ valueEnd? digit ms.isEmpty m.after = some rest
  · obtain ⟨hne, hdot, m, ms, rest, rfl, hmarked, hvalue⟩ := hqualified
    exact replaceAll_flag_qualified hcolumns hdigit hn hne hdot (hns m List.mem_cons_self) hmarked
      hvalue
  refine replaceAll_flag_miss hcolumns hn hns ?_
  rw [namesText_cons]
  refine flagComparison_eq_none hcolumns hn.name_unquoted (fun hmarked => ?_)
    fun s hne hs rest hrest => ?_
  · rw [comparedWith?_after hdigit, hnone hmarked]
    rfl
  · cases ns with
    | nil =>
      have hafter := hn.after_unquoted
      rw [← List.append_nil n.after] at hafter
      exact absurd (hs ▸ by simp : '"' ∈ n.after ++ namesText []) hafter
    | cons m ms =>
      rw [namesText_cons] at hs
      obtain ⟨hdot, rfl⟩ := append_quote_inj hn.after_unquoted (by decide : '"' ∉ ['.']) hs
      have hm := hns m List.mem_cons_self
      obtain ⟨rfl, hmarked⟩ := (mem_nameEnds_iff hcolumns hm.name_unquoted).1 hrest
      have hvalue : valueEnd? digit ms.isEmpty m.after = none :=
        Option.eq_none_iff_forall_ne_some.2 fun rest hvalue =>
          hqualified ⟨hne, hdot, m, ms, rest, rfl, hmarked, hvalue⟩
      rw [comparedWith?_after hdigit, hvalue]
      rfl

/-- A sweep for one digit writes anew what stands behind each marked name. -/
theorem replaceAll_names (hcolumns : columns.Unquoted) (hdigit : digit ≠ '"')
    (hns : ∀ n ∈ ns, n.Proper) :
    replaceAll (flagComparison columns digit) (FlagComparison.comparedTo value) (namesText ns) =
      namesText (rewriteNames columns.fragments (writeValue digit value) ns) := by
  induction ns with
  | nil => rfl
  | cons n ns ih =>
    obtain ⟨hn, hns⟩ := List.forall_mem_cons.1 hns
    rw [replaceAll_flag_cons hcolumns hdigit hn hns, ih hns, rewriteNames, namesText_cons]

end

/-! ## Both digits -/

section

variable {fragments : List (List Char)} {f g : Bool → List Char → List Char}

theorem isEmpty_rewriteNames (ns : List QuotedName) :
    (rewriteNames fragments f ns).isEmpty = ns.isEmpty := by
  cases ns with
  | nil => rfl
  | cons n ns => rfl

/-- Writing twice is writing once. -/
theorem rewriteNames_rewriteNames (ns : List QuotedName) :
    rewriteNames fragments g (rewriteNames fragments f ns) =
      rewriteNames fragments (fun last after => g last (f last after)) ns := by
  induction ns with
  | nil => rfl
  | cons n ns ih =>
    simp only [rewriteNames, isEmpty_rewriteNames, ih]
    split
    · rfl
    · rfl

/-- Names stay proper, if no quotes are written. -/
theorem proper_rewriteNames (hf : ∀ last after, '"' ∉ after → '"' ∉ f last after)
    {ns : List QuotedName} (hns : ∀ n ∈ ns, n.Proper) :
    ∀ n ∈ rewriteNames fragments f ns, n.Proper := by
  induction ns with
  | nil => exact hns
  | cons n ns ih =>
    obtain ⟨hn, hns⟩ := List.forall_mem_cons.1 hns
    rw [rewriteNames, List.forall_mem_cons]
    refine ⟨⟨hn.name_unquoted, ?_, hn.no_comparison⟩, ih hns⟩
    split
    · exact hf _ _ hn.after_unquoted
    · exact hn.after_unquoted

end

theorem not_mem_writeValue {value : List Char} (hvalue : '"' ∉ value) {last : Bool}
    {after : List Char} (h : '"' ∉ after) : '"' ∉ writeValue digit value last after := by
  unfold writeValue
  split
  · rename_i rest hrest
    obtain ⟨b₁, b₂, -, -, rfl, -⟩ := valueEnd?_eq_some hrest
    have hequals : '"' ∉ " = ".toList := by decide
    simp only [List.mem_append, not_or]
    exact ⟨⟨hequals, hvalue⟩, fun hmem => h (by simp [hmem])⟩
  · exact h

/-- A comparison with a word is none with a digit. -/
theorem valueEnd?_word {c : Char} (hblank : isBlank c = false) (hc : c ≠ digit) (last : Bool)
    (s : List Char) : valueEnd? digit last (" = ".toList ++ c :: s) = none := by
  have hequals : symbol? '=' (skipBlanks (" = ".toList ++ c :: s)) = some (' ' :: c :: s) := rfl
  have hskip : skipBlanks (' ' :: c :: s) = c :: s := by
    rw [skipBlanks, List.dropWhile_cons_of_pos (by decide),
      List.dropWhile_cons_of_neg (by simp [hblank])]
  rw [valueEnd?, hequals, Option.bind_eq_bind, Option.bind_some, hskip, symbol?, if_neg hc]
  rfl

theorem valueEnd?_true (hdigit : digit ≠ 't') (last : Bool) (s : List Char) :
    valueEnd? digit last (" = true".toList ++ s) = none :=
  valueEnd?_word (by decide) (Ne.symm hdigit) last ("rue".toList ++ s)

theorem valueEnd?_false (hdigit : digit ≠ 'f') (last : Bool) (s : List Char) :
    valueEnd? digit last (" = false".toList ++ s) = none :=
  valueEnd?_word (by decide) (Ne.symm hdigit) last ("alse".toList ++ s)

/-- The second sweep leaves what the first one wrote. -/
theorem writeValue_writeValue (last : Bool) (after : List Char) :
    writeValue '0' "false".toList last (writeValue '1' "true".toList last after) =
      spellValue last after := by
  unfold spellValue
  cases hone : valueEnd? '1' last after with
  | some rest =>
    have htrue : writeValue '1' "true".toList last after = " = true".toList ++ rest := by
      rw [writeValue, hone]
      rfl
    rw [htrue, writeValue, valueEnd?_true (by decide)]
  | none =>
    have hkeep : writeValue '1' "true".toList last after = after := by rw [writeValue, hone]
    rw [hkeep, writeValue]
    cases valueEnd? '0' last after with
    | some rest => rfl
    | none => rfl

theorem spellValue_spellValue (last : Bool) (after : List Char) :
    spellValue last (spellValue last after) = spellValue last after := by
  cases hone : valueEnd? '1' last after with
  | some rest =>
    have htrue : spellValue last after = " = true".toList ++ rest := by rw [spellValue, hone]
    rw [htrue, spellValue, valueEnd?_true (by decide), valueEnd?_true (by decide)]
  | none =>
    cases hzero : valueEnd? '0' last after with
    | some rest =>
      have hfalse : spellValue last after = " = false".toList ++ rest := by
        rw [spellValue, hone, hzero]
      rw [hfalse, spellValue, valueEnd?_false (by decide), valueEnd?_false (by decide)]
    | none =>
      have hkeep : spellValue last after = after := by rw [spellValue, hone, hzero]
      rw [hkeep, hkeep]

theorem not_mem_spellValue {last : Bool} {after : List Char} (h : '"' ∉ after) :
    '"' ∉ spellValue last after := by
  have htrue : '"' ∉ "true".toList := by decide
  have hfalse : '"' ∉ "false".toList := by decide
  rw [← writeValue_writeValue]
  exact not_mem_writeValue hfalse (not_mem_writeValue htrue h)

/-- Both sweeps together spell the values behind all marked names. -/
theorem spellBooleans_names {columns : BooleanColumns} (hcolumns : columns.Unquoted)
    {out : List Char} (hout : '"' ∉ out) {ns : List QuotedName} (hns : ∀ n ∈ ns, n.Proper) :
    spellBooleans columns (out ++ namesText ns) =
      out ++ namesText (rewriteNames columns.fragments spellValue ns) := by
  have htrue : '"' ∉ "true".toList := by decide
  have hproper : ∀ n ∈ rewriteNames columns.fragments (writeValue '1' "true".toList) ns, n.Proper :=
    proper_rewriteNames (fun _ _ => not_mem_writeValue htrue) hns
  have hboth : (fun last after => writeValue '0' "false".toList last
      (writeValue '1' "true".toList last after)) = spellValue :=
    funext fun last => funext fun after => writeValue_writeValue last after
  unfold spellBooleans
  rw [replaceAll_flag_append hout, replaceAll_names hcolumns (by decide) hns,
    replaceAll_flag_append hout, replaceAll_names hcolumns (by decide) hproper,
    rewriteNames_rewriteNames, hboth]

/-- Spells the values behind all names of a text that are marked by one of the fragments, and keeps
all else. -/
def spellQuoted (fragments : List (List Char)) (s : List Char) : List Char :=
  beforeNames s ++ namesText (rewriteNames fragments spellValue (quotedNames s))

/-! ## Accepted fragments -/

/-- A list is accepted as it is, but for the blanks around its fragments, unless it has an empty one
or the search engine objects to it. -/
theorem BooleanColumns.ofList_eq_ok_iff {objection : BooleanColumns.Objection}
    {names : List String} {columns : BooleanColumns} :
    BooleanColumns.ofList objection names = .ok columns ↔
      columns.fragments = (names.map fun name => trim name.toList) ∧
        (names = [] ∨ objection columns.fragments = none) := by
  obtain ⟨fragments, hfragments⟩ := columns
  unfold BooleanColumns.ofList
  dsimp only
  constructor
  · intro h
    split at h
    · split at h
      · cases h
      · rename_i hnone
        cases h
        refine ⟨rfl, ?_⟩
        cases names with
        | nil => exact .inl rfl
        | cons name names => exact .inr hnone
    · cases h
  · rintro ⟨rfl, hasked⟩
    rw [dif_pos hfragments]
    rcases hasked with rfl | hnone
    · rfl
    · simp only [hnone, ite_self]

theorem not_mem_trim {c : Char} {s : List Char} (h : c ∉ s) : c ∉ trim s := by
  intro hmem
  obtain ⟨b, hb, -⟩ := exists_blanks_append_skipBlanks s
  obtain ⟨b', -, htrim⟩ := exists_trimEnd_append (skipBlanks s)
  rw [hb, htrim] at h
  exact h (List.mem_append_right _ (List.mem_append_left _ hmem))

theorem BooleanColumns.unquoted_of_ofList {objection : BooleanColumns.Objection}
    {names : List String} {columns : BooleanColumns}
    (h : BooleanColumns.ofList objection names = .ok columns)
    (hnames : ∀ name ∈ names, '"' ∉ name.toList) : columns.Unquoted := by
  intro f hf
  rw [(BooleanColumns.ofList_eq_ok_iff.1 h).1] at hf
  obtain ⟨name, hname, rfl⟩ := List.mem_map.1 hf
  exact not_mem_trim (hnames name hname)

end SqlDialect.Query

namespace SqlDialect

open Query Scan Text

/-- **The rule for boolean columns goes by quoted names.** Take fragments without quotes, whatever
search engine accepts them, and a text whose double quotes come in pairs and none of whose quoted
names starts like a comparison. Behind each name that one of the fragments marks, a comparison with
`1` or `0` becomes one with a truth value; all else stays, and a second time nothing changes. -/
theorem Rule.booleanColumns_quoted (whole : List Char) {objection : BooleanColumns.Objection}
    {names : List String} {columns : BooleanColumns}
    (hcolumns : BooleanColumns.ofList objection names = .ok columns)
    (hquotes : ∀ name ∈ names, '"' ∉ name.toList) {s : List Char} (heven : s.count '"' % 2 = 0)
    (hstart : ∀ n ∈ quotedNames s, (skipBlanks n.name).head? ≠ some '=') :
    (Rule.booleanColumns columns).apply whole s =
        spellQuoted (names.map fun name => trim name.toList) s ∧
      (Rule.booleanColumns columns).apply whole ((Rule.booleanColumns columns).apply whole s) =
        (Rule.booleanColumns columns).apply whole s := by
  have hunquoted := BooleanColumns.unquoted_of_ofList hcolumns hquotes
  have hproper : ∀ n ∈ quotedNames s, n.Proper := fun n hn =>
    have hn' := not_mem_of_mem_quotedNames heven n hn
    ⟨hn'.1, hn'.2, hstart n hn⟩
  have hfirst : spellBooleans columns s = beforeNames s ++
      namesText (rewriteNames columns.fragments spellValue (quotedNames s)) := by
    have hparts := spellBooleans_names hunquoted (not_mem_beforeNames s) hproper
    rwa [append_namesText_quotedNames heven] at hparts
  have hsecond : spellBooleans columns (spellBooleans columns s) = spellBooleans columns s := by
    have hspelled : ∀ n ∈ rewriteNames columns.fragments spellValue (quotedNames s), n.Proper :=
      proper_rewriteNames (fun _ _ => not_mem_spellValue) hproper
    rw [hfirst, spellBooleans_names hunquoted (not_mem_beforeNames s) hspelled,
      rewriteNames_rewriteNames]
    simp only [spellValue_spellValue]
  rw [← (BooleanColumns.ofList_eq_ok_iff.1 hcolumns).1]
  exact ⟨hfirst, hsecond⟩

/-- A column with its table and two without, of which one has no fragment in its name. -/
theorem Rule.booleanColumns_quoted_names :
    ∃ columns, BooleanColumns.ofList (fun _ => none) [" Active "] = .ok columns ∧
      (∀ name ∈ [" Active "], '"' ∉ name.toList) ∧
      "\"t\".\"IS_ACTIVE\"=1, (\"n\" = 1 OR \"inactive\" = 0)".toList.count '"' % 2 = 0 ∧
      (∀ n ∈ quotedNames "\"t\".\"IS_ACTIVE\"=1, (\"n\" = 1 OR \"inactive\" = 0)".toList,
        (skipBlanks n.name).head? ≠ some '=') ∧
      (Rule.booleanColumns columns).apply []
          "\"t\".\"IS_ACTIVE\"=1, (\"n\" = 1 OR \"inactive\" = 0)".toList =
        "\"t\".\"IS_ACTIVE\" = true, (\"n\" = 1 OR \"inactive\" = false)".toList := by
  have hstart : ∀ n ∈ quotedNames
      "\"t\".\"IS_ACTIVE\"=1, (\"n\" = 1 OR \"inactive\" = 0)".toList,
      (skipBlanks n.name).head? ≠ some '=' := by decide
  refine ⟨⟨["Active".toList], by decide⟩, rfl, by decide, by decide, hstart, ?_⟩
  have hspelled := Rule.booleanColumns_quoted []
    (rfl : BooleanColumns.ofList (fun _ => none) [" Active "] = _) (by decide) (by decide) hstart
  exact hspelled.1.trans (by decide)

end SqlDialect
