import Mathlib.Data.List.Infix
import SqlDialect.Proofs.Changes
import SqlDialect.Proofs.LimitWords

/-!
# Texts in which a construct cannot stand

A sweep leaves a text alone where nothing can be read. What rules a construct out is mostly a look
at the text from afar: a sign or a word that is not there, or what stands before its parentheses.

* `Absent` — a construct can be read at no place of a text, whatever stands before the text.
* `piecesFrom_append` — a sweep keeps the front of a text if nothing can be read from there on.
* `Mentions` — a word is written somewhere in a text; `Mentions.of_append_cons` cuts at a sign.
* `Opens` — all opening parentheses of a text follow the same character. A call then has a name that
  ends with it (`Opens.getLast?_of_call`).
* `Lacks` — a text has none of some signs.
* `apply_eq_self_of_opens`, `apply_eq_self_of_plain` — most rules leave a text alone that has no
  quotes and brackets, and no call with a name they look for.
-/

namespace SqlDialect.Scan

variable {α : Type} {scan : Scanner α}

/-- The construct can be read at no place of the text, whatever stands before the text. -/
def Absent (scan : Scanner α) (s : List Char) : Prop :=
  ∀ before a b, s = a ++ b → scan before b = none

/-- A text has no construct if it has no room for the text of one. -/
theorem absent_of_reads {Shape : Option Char → List Char → α → List Char → Prop}
    (hscan : Reads scan Shape) {s : List Char}
    (h : ∀ before x text a rest, s = x ++ (text ++ rest) → ¬Shape before text a rest) :
    Absent scan s := by
  intro before a b hs
  cases hread : scan before b with
  | none => rfl
  | some r =>
    obtain ⟨v, rest⟩ := r
    obtain ⟨text, -, rfl, hshape⟩ := hscan _ _ _ _ hread
    exact absurd hshape (h before a text v rest hs)

theorem Absent.not_readable {s : List Char} (h : Absent scan s) : ¬Readable scan s := by
  rintro ⟨a, b, hs, hread⟩
  rw [h a.getLast? a b hs] at hread
  cases hread

/-- A sweep finds nothing in such a text, wherever the text stands. -/
theorem Absent.hits_eq_nil {s : List Char} (h : Absent scan s) (before : Option Char) :
    (piecesFrom scan 0 before s).filterMap Piece.value? = [] := by
  refine Classical.byContradiction fun hne => ?_
  obtain ⟨a, c, b, hs, hread⟩ := (hits_piecesFrom_ne_nil_iff scan before s).1 hne
  rw [h _ a (c :: b) hs] at hread
  cases hread

theorem Absent.occurs_eq_false {s : List Char} (h : Absent scan s) : occurs scan s = false :=
  not_occurs_iff.2 (h.hits_eq_nil none)

/-- A sweep keeps the front of a text if nothing can be read at its places. -/
theorem piecesFrom_append {before : Option Char} {a b : List Char}
    (h : ∀ x c y, a = x ++ c :: y → scan (x.getLast?.or before) (c :: y ++ b) = none) :
    piecesFrom scan 0 before (a ++ b) =
      a.map Piece.keep ++ piecesFrom scan 0 (a.getLast?.or before) b := by
  induction a generalizing before with
  | nil => rfl
  | cons c a ih =>
    have hc : scan before (c :: (a ++ b)) = none := h [] c a rfl
    have hrest : ∀ x d y, a = x ++ d :: y → scan (x.getLast?.or (some c)) (d :: y ++ b) = none := by
      intro x d y ha
      rw [← getLast?_cons_or]
      exact h (c :: x) d y (by rw [ha, List.cons_append])
    rw [List.cons_append, piecesFrom_of_miss hc, ih hrest, getLast?_cons_or]
    rfl

theorem replaceAll_append {a b : List Char} (write : α → List Char)
    (h : ∀ x c y, a = x ++ c :: y → scan x.getLast? (c :: y ++ b) = none) :
    replaceAll scan write (a ++ b) =
      a ++ (piecesFrom scan 0 a.getLast? b).flatMap (Piece.render write) := by
  have hkeep : ∀ s : List Char, (s.map Piece.keep).flatMap (Piece.render write) = s := by
    intro s
    induction s with
    | nil => rfl
    | cons c s ih => simpa [Piece.render] using ih
  have hmiss : ∀ x c y, a = x ++ c :: y → scan (x.getLast?.or none) (c :: y ++ b) = none := by
    intro x c y ha
    rw [Option.or_none]
    exact h x c y ha
  unfold replaceAll pieces
  rw [piecesFrom_append hmiss, List.flatMap_append, hkeep, Option.or_none]

/-- A sweep that reads a construct at the start and nothing behind it. -/
theorem piecesFrom_hit_absent {before : Option Char} {text rest : List Char} {a : α}
    (hne : text ≠ []) (hread : scan before (text ++ rest) = some (a, rest)) (h : Absent scan rest)
    (write : α → List Char) :
    (piecesFrom scan 0 before (text ++ rest)).filterMap Piece.value? = [a] ∧
      (piecesFrom scan 0 before (text ++ rest)).flatMap (Piece.render write) = write a ++ rest := by
  obtain ⟨c, text, rfl⟩ := List.exists_cons_of_ne_nil hne
  have hnone := h.hits_eq_nil (c :: text).getLast?
  rw [piecesFrom_of_hit hread]
  constructor
  · rw [List.filterMap_cons]
    simp only [Piece.value?, hnone]
  · rw [List.flatMap_cons, render_piecesFrom_of_no_hit write hnone]
    rfl

end SqlDialect.Scan

namespace SqlDialect.Query

open Scan Text

/-! ## Words -/

/-- The word is written somewhere in the text, in any letter case, perhaps within a longer one. -/
def Mentions (word : String) (s : List Char) : Prop := word.toList.map fold <:+: s.map fold

theorem mentions_iff {word : String} {s : List Char} : Mentions word s ↔
    ((s.map fold).tails.any fun t => (word.toList.map fold).isPrefixOf t) = true := by
  unfold Mentions
  simp only [List.any_eq_true, List.mem_tails, List.isPrefixOf_iff_prefix,
    List.infix_iff_prefix_suffix]
  exact exists_congr fun t => and_comm

instance (word : String) (s : List Char) : Decidable (Mentions word s) :=
  decidable_of_iff _ mentions_iff.symm

theorem Spells.mentions {word : String} {t s : List Char} (h : Spells word t) (hs : t <:+: s) :
    Mentions word s := by
  unfold Mentions
  unfold Spells at h
  rw [← h]
  exact hs.map fold

/-- What has no separator in it stands before the separator or behind it. -/
theorem infix_of_infix_append_cons {c : Char} {w a b : List Char} (hc : c ∉ w)
    (h : w <:+: a ++ c :: b) : w <:+: a ∨ w <:+: b := by
  rcases List.infix_append_iff_ne_nil.1 h with h | h | ⟨t, u, -, hu, rfl, -, hprefix⟩
  · exact .inl h
  · rcases List.infix_cons_iff.1 h with h | h
    · rcases List.prefix_cons_iff.1 h with rfl | ⟨v, rfl, -⟩
      · exact .inl List.nil_infix
      · exact absurd List.mem_cons_self hc
    · exact .inr h
  · rcases List.prefix_cons_iff.1 hprefix with rfl | ⟨v, rfl, -⟩
    · exact absurd rfl hu
    · exact absurd (List.mem_append_right t List.mem_cons_self) hc

theorem Mentions.mono {word : String} {s t : List Char} (h : Mentions word s) (hs : s <:+: t) :
    Mentions word t :=
  List.IsInfix.trans h (hs.map fold)

/-- A sign that is not in the word cuts a text in two. -/
theorem Mentions.of_append_cons {word : String} {c : Char} (hc : fold c ∉ word.toList.map fold)
    {a b : List Char} (h : Mentions word (a ++ c :: b)) : Mentions word a ∨ Mentions word b := by
  unfold Mentions at *
  rw [List.map_append, List.map_cons] at h
  exact infix_of_infix_append_cons hc h

/-- A word that stands neither before a space nor behind it does not come up with the space. -/
theorem not_mentions_append_space {word : String} (hword : ' ' ∉ word.toList.map fold)
    {a b : List Char} (ha : ¬Mentions word a) (hb : ¬Mentions word b) :
    ¬Mentions word (a ++ ' ' :: b) := by
  intro h
  rw [← show fold ' ' = ' ' by decide] at hword
  exact (h.of_append_cons hword).elim ha hb

/-- A count mentions no word that has a letter in it. -/
theorem Digits.not_mentions {word : String} {n : List Char} (hn : Digits n)
    (hword : (word.toList.map fold).any Char.isAlpha = true) : ¬Mentions word n := by
  intro h
  obtain ⟨c, hc, halpha⟩ := List.any_eq_true.1 hword
  obtain ⟨d, hd, rfl⟩ := List.mem_map.1 (h.subset hc)
  have hdigit := hn.2 d hd
  rw [(isWord_of_fold_isAlpha halpha).2] at hdigit
  cases hdigit

/-- Without the word there is no `SELECT TOP`. -/
theorem absent_selectTop {s : List Char} (h : ¬Mentions "top" s) : Absent selectTop s := by
  refine absent_of_reads selectTop_reads ?_
  rintro before x _ _ rest rfl
    ⟨-, @⟨select, b₁, distinct, top, b₂, rows, n, -, -, -, -, htop, -, -⟩⟩
  refine h (htop.mentions ⟨x ++ select ++ b₁ ++ distinct, b₂ ++ rows ++ rest, ?_⟩)
  simp only [List.append_assoc]

/-- Without the word there is no fetch clause. -/
theorem absent_fetchClause {s : List Char} (h : ¬Mentions "offset" s) : Absent fetchClause s := by
  refine absent_of_reads fetchClause_reads ?_
  rintro before x _ _ rest rfl ⟨-, -, hoffset, -, -, -, -, -, -, -⟩
  refine h (hoffset.mentions ?_)
  simp only [List.append_assoc]
  exact (List.infix_append' _ _ _).trans List.infix_append_right

/-- Without the words there is no row limit. -/
theorem absent_rowLimit {s : List Char} (hoffset : ¬Mentions "offset" s)
    (hlimit : ¬Mentions "limit" s) : Absent rowLimit s := by
  refine absent_of_reads rowLimit_reads ?_
  rintro before x text _ rest rfl ⟨-, hword, -⟩
  have hinfix : text <:+: x ++ (text ++ rest) := List.infix_append' x text rest
  rcases hword with hword | hword
  · exact hoffset (hword.mentions hinfix)
  · exact hlimit (hword.mentions hinfix)

/-! ## Signs -/

theorem absent_bracketedName {s : List Char} (h : '[' ∉ s) : Absent bracketedName s := by
  refine absent_of_reads bracketedName_reads ?_
  rintro before x _ _ rest rfl ⟨-⟩
  simp at h

theorem absent_literalSum {s : List Char} (h : '\'' ∉ s) : Absent literalSum s := by
  refine absent_of_reads literalSum_reads ?_
  rintro before x _ _ rest rfl ⟨⟨body, rfl⟩, -, -, -⟩
  simp at h

theorem absent_flagComparison {s : List Char} (h : '"' ∉ s) (columns : BooleanColumns)
    (digit : Char) : Absent (flagComparison columns digit) s := by
  refine absent_of_reads (flagComparison_reads columns digit) ?_
  rintro before x _ _ rest rfl ⟨-, -, -⟩
  simp at h

/-! ## Calls -/

/-- The character stands right before every opening parenthesis of the text. -/
def Opens (c : Char) (s : List Char) : Prop := ∀ a b, s = a ++ '(' :: b → a.getLast? = some c

/-- A text with a single opening parenthesis. -/
theorem opens_of_single {c : Char} {a b : List Char} (hc : c ≠ '(') (ha : '(' ∉ a) (hb : '(' ∉ b) :
    Opens c (a ++ c :: '(' :: b) := by
  intro x y hs
  have hfront : '(' ∉ a ++ [c] := by simp [ha, hc.symm]
  have hcut : a ++ [c] ++ '(' :: b = x ++ '(' :: y := by simpa using hs
  obtain ⟨rfl, -, -⟩ := (List.append_cons_inj_of_notMem hfront hb).1 hcut
  simp

/-- No blanks stand before a parenthesis that follows something else. -/
theorem Opens.blanks_eq_nil {c : Char} {s : List Char} (h : Opens c s) (hc : isBlank c = false)
    {x b y : List Char} (hb : Blanks b) (hs : s = x ++ b ++ '(' :: y) : b = [] := by
  refine Classical.byContradiction fun hne => ?_
  have hlast := h _ y hs
  rw [List.getLast?_append_of_ne_nil _ hne] at hlast
  have hblank := hb c (List.mem_of_getLast? hlast)
  rw [hc] at hblank
  cases hblank

/-- The name of a call ends with the character before its parenthesis. -/
theorem Opens.getLast?_of_call {c : Char} {s : List Char} (h : Opens c s) (hc : isBlank c = false)
    {name : String} (hname : name.toList ≠ []) {x word b y : List Char} (hword : Spells name word)
    (hb : Blanks b) (hs : s = x ++ (word ++ (b ++ '(' :: y))) :
    (name.toList.map fold).getLast? = some (fold c) := by
  have hcut : s = x ++ word ++ b ++ '(' :: y := by simpa using hs
  obtain rfl := h.blanks_eq_nil hc hb hcut
  have hlast := h _ y hcut
  have hne := hword.ne_nil hname
  rw [List.append_nil, List.getLast?_append_of_ne_nil _ hne] at hlast
  unfold Spells at hword
  rw [← hword, List.getLast?_map, hlast]
  rfl

/-- The names of the calls and of the hint that the rules look for, apart from random calls. -/
def callNames : List String := ["with", "datename", "month", "convert", "len", "isnull"]

/-- No name that the rules look for ends with the character, in any letter case. -/
def EndsNoName (c : Char) : Prop :=
  isBlank c = false ∧ ∀ name ∈ callNames, (name.toList.map fold).getLast? ≠ some (fold c)

instance (c : Char) : Decidable (EndsNoName c) := inferInstanceAs (Decidable (_ ∧ _))

theorem Opens.not_call {c : Char} {s : List Char} (h : Opens c s) (hc : EndsNoName c)
    {name : String} (hname : name ∈ callNames) {word b : List Char} (hword : Spells name word)
    (hb : Blanks b) (x y : List Char) : s ≠ x ++ (word ++ (b ++ '(' :: y)) := by
  intro hs
  have hne : ∀ name ∈ callNames, name.toList ≠ [] := by decide
  exact hc.2 name hname (h.getLast?_of_call hc.1 (hne name hname) hword hb hs)

theorem absent_tableHint {c : Char} {s : List Char} (h : Opens c s) (hc : EndsNoName c) :
    Absent tableHint s := by
  refine absent_of_reads tableHint_reads ?_
  rintro before x _ _ rest hs @⟨b₁, word, b₂, list, -, -, hword, hb₂, -⟩
  refine h.not_call hc (by decide) hword hb₂ (x ++ b₁) (list ++ ')' :: rest) ?_
  simpa using hs

theorem Opens.not_openCallText {c : Char} {s : List Char} (h : Opens c s) (hc : EndsNoName c)
    {name : String} (hname : name ∈ callNames) {x text rest : List Char}
    (hs : s = x ++ (text ++ rest)) : ¬OpenCallText name text := by
  rintro ⟨hword, hb⟩
  exact h.not_call hc hname hword hb x rest (by simpa using hs)

theorem absent_openCall {c : Char} {s : List Char} (h : Opens c s) (hc : EndsNoName c)
    (name : String) (hname : name ∈ callNames) : Absent (openCall name.toList) s := by
  refine absent_of_reads (openCall_reads name) ?_
  rintro before x text _ rest hs ⟨-, htext⟩
  exact h.not_openCallText hc hname hs htext

/-- All date calls start with such a head. -/
theorem absent_callHead {c : Char} {s : List Char} (h : Opens c s) (hc : EndsNoName c) :
    Absent callHead s := by
  refine absent_of_reads callHead_reads ?_
  rintro before x text _ rest hs ⟨-, htext | htext | htext⟩
  · exact h.not_openCallText hc (by decide) hs htext
  · exact h.not_openCallText hc (by decide) hs htext
  · exact h.not_openCallText hc (by decide) hs htext

/-! ## Plain texts -/

/-- The text has none of the signs. -/
def Lacks (signs s : List Char) : Prop := ∀ sign ∈ signs, sign ∉ s

instance (signs s : List Char) : Decidable (Lacks signs s) := List.decidableBAll _ _

theorem Lacks.append {signs s t : List Char} (hs : Lacks signs s) (ht : Lacks signs t) :
    Lacks signs (s ++ t) := by
  intro sign hsign hmem
  rcases List.mem_append.1 hmem with h | h
  · exact hs sign hsign h
  · exact ht sign hsign h

/-- A text with only characters of some kind lacks signs that are of another kind. -/
theorem lacks_of_forall {signs : List Char} {p : Char → Bool}
    (hp : (signs.all fun sign => !p sign) = true) {s : List Char} (hs : ∀ c ∈ s, p c = true) :
    Lacks signs s := by
  intro sign hsign hmem
  have hnot := List.all_eq_true.1 hp sign hsign
  rw [hs sign hmem] at hnot
  cases hnot

/-- The signs that start a construct of some rule, or a part of a tail. -/
def markSigns : List Char := ['(', '[', '\'', '"', ';', '-']

/-- The text has none of these signs. -/
def Plain (s : List Char) : Prop := ∀ sign ∈ markSigns, sign ∉ s

instance (s : List Char) : Decidable (Plain s) := List.decidableBAll _ _

theorem Plain.append {s t : List Char} (hs : Plain s) (ht : Plain t) : Plain (s ++ t) :=
  Lacks.append hs ht

theorem Digits.plain {n : List Char} (hn : Digits n) : Plain n := lacks_of_forall (by decide) hn.2

end SqlDialect.Query

namespace SqlDialect

open Query Scan

/-- The rules for hints, dates and scalar functions leave a text alone that has no call they look
for. -/
theorem Rule.apply_eq_self_of_no_call {rule : Rule}
    (hrule : rule ∈ [.tableHints, .dateCalls, .scalarCalls]) {c : Char} {s : List Char}
    (hopens : Opens c s) (hc : EndsNoName c) (whole : List Char) : rule.apply whole s = s := by
  simp only [List.mem_cons, List.not_mem_nil, or_false] at hrule
  rcases hrule with rfl | rfl | rfl
  · exact (apply_eq_self_iff (by simp) whole s).2 (absent_tableHint hopens hc).not_readable
  · refine (apply_eq_self_iff (by simp) whole s).2 fun h => ?_
    have hpos := callHeads_pos h
    have hzero : callHeads s = 0 :=
      List.length_eq_zero_iff.2 ((absent_callHead hopens hc).hits_eq_nil none)
    omega
  · refine (apply_eq_self_iff (by simp) whole s).2 ?_
    rintro (h | h)
    · exact (absent_openCall hopens hc "len" (by decide)).not_readable h
    · exact (absent_openCall hopens hc "isnull" (by decide)).not_readable h

/-- A text without quotes and brackets, and with no call that a rule looks for, stays as it is under
all rules but those for random calls, fetch clauses and `TOP`. -/
theorem Rule.apply_eq_self_of_opens {rule : Rule}
    (hrule : rule ∉ [.randomCalls, .fetchClauses, .selectTop]) {c : Char} {s : List Char}
    (hopens : Opens c s) (hc : EndsNoName c) (hsigns : ∀ sign ∈ ['[', '\'', '"'], sign ∉ s)
    (whole : List Char) : rule.apply whole s = s := by
  have hiff : rule.apply whole s = s ↔ ¬rule.Applies s :=
    apply_eq_self_iff (fun h => hrule (by simp [h])) whole s
  simp only [List.forall_mem_cons] at hsigns
  obtain ⟨hbracket, hquote, hdouble, -⟩ := hsigns
  cases rule with
  | tableHints | dateCalls | scalarCalls =>
    exact Rule.apply_eq_self_of_no_call (by simp) hopens hc whole
  | bracketedNames => exact hiff.2 (absent_bracketedName hbracket).not_readable
  | randomCalls | fetchClauses | selectTop => simp at hrule
  | literalSums => exact hiff.2 (absent_literalSum hquote).not_readable
  | booleanColumns columns =>
    rw [hiff]
    rintro (h | h)
    · exact (absent_flagComparison hdouble columns '1').not_readable h
    · exact (absent_flagComparison hdouble columns '0').not_readable h

/-- A text with one call, written without blanks and arguments, stays as it is under most rules. -/
theorem Rule.apply_eq_self_of_plain {rule : Rule}
    (hrule : rule ∉ [.randomCalls, .fetchClauses, .selectTop]) {c : Char} {a b : List Char}
    (ha : Plain a) (hb : Plain b) (hc : EndsNoName c ∧ Plain [c]) (whole : List Char) :
    rule.apply whole (a ++ c :: "()".toList ++ b) = a ++ c :: "()".toList ++ b := by
  have hcall : a ++ c :: "()".toList ++ b = a ++ c :: '(' :: (')' :: b) := by
    have hopen : "()".toList = ['(', ')'] := by decide
    rw [hopen]
    simp
  have hne : c ≠ '(' := by
    rintro rfl
    exact hc.2 '(' (by decide) List.mem_cons_self
  have hopens : Opens c (a ++ c :: '(' :: (')' :: b)) := by
    refine opens_of_single hne (ha '(' (by decide)) ?_
    rw [List.mem_cons]
    exact fun h => h.elim (by decide) (hb '(' (by decide))
  have hsigns : ∀ sign ∈ ['[', '\'', '"'], sign ∉ a ++ c :: '(' :: (')' :: b) := by
    have hmarks : ∀ sign ∈ ['[', '\'', '"'], sign ∈ markSigns ∧ sign ∉ ['(', ')'] := by
      simp [markSigns]
    intro sign hsign hmem
    obtain ⟨hmark, hparen⟩ := hmarks sign hsign
    have hcut : a ++ c :: '(' :: (')' :: b) = a ++ [c] ++ ['(', ')'] ++ b := by simp
    rw [hcut, List.mem_append, List.mem_append, List.mem_append] at hmem
    rcases hmem with ((h | h) | h) | h
    · exact ha sign hmark h
    · exact hc.2 sign hmark h
    · exact hparen h
    · exact hb sign hmark h
  rw [hcall]
  exact Rule.apply_eq_self_of_opens hrule hopens hc.1 hsigns whole

end SqlDialect
