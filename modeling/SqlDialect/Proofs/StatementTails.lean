import SqlDialect.Proofs.Trailers

/-!
# Tails as a grammar

The tail of a statement is found by one reading from its end, which carries five flags along. What
the flags stand for is said here by a grammar, and the tail that is split off is the longest one of
this grammar.

* `CommentsText`, `SpacedText`, `LineText`, `TailText` — the grammar: comments with the blanks
  behind them, the same after blanks, the same within a line of comment, and a whole tail. For each,
  one lemma says what its first character can be.
* `TailScan.Describes` — the flags are right about a text. `describes_scanTail` goes from each
  character to the one before it.
* `LongestTail`, `splitTail_eq_iff` — a statement is split at its longest tail, and nowhere else.
* `Region`, `InLiteral` — whether a place of a statement is in a literal, read from the start with
  comments passed over.
* `insertBeforeTail_longest` — where a clause is put: before the longest tail, outside of all
  literals.
-/

namespace SqlDialect.Query

open Text

/-! ## The grammar -/

/-- Comments one behind the other, each with the blanks that follow it. -/
inductive CommentsText : List Char → Prop where
  | nil : CommentsText []
  | cons (line : CommentLine) {b s : List Char} (hb : Blanks b) (hs : CommentsText s) :
      CommentsText ('-' :: '-' :: (line.text ++ (b ++ s)))

/-- Blanks, and then comments. -/
def SpacedText (s : List Char) : Prop := ∃ b r, Blanks b ∧ CommentsText r ∧ s = b ++ r

/-- What is left of the line of a comment, and then blanks and comments. -/
def LineText (s : List Char) : Prop := ∃ (line : CommentLine) (r : List Char),
  SpacedText r ∧ s = line.text ++ r

/-- A tail: blanks and a terminator, and then blanks and comments; or blanks and at least one
comment. -/
inductive TailText : List Char → Prop where
  | terminated {b s : List Char} (hb : Blanks b) (hs : SpacedText s) : TailText (b ++ ';' :: s)
  | commented {b s : List Char} (hb : Blanks b) (hne : s ≠ []) (hs : CommentsText s) :
      TailText (b ++ s)

theorem Blanks.cons {c : Char} {b : List Char} (hc : isBlank c = true) (hb : Blanks b) :
    Blanks (c :: b) := List.forall_mem_cons.2 ⟨hc, hb⟩

theorem spacedText_nil : SpacedText [] := ⟨[], [], blanks_nil, .nil, rfl⟩

theorem SpacedText.line {s : List Char} (h : SpacedText s) : LineText s :=
  ⟨⟨[], List.not_mem_nil, List.not_mem_nil⟩, s, h, rfl⟩

theorem CommentsText.spaced {s : List Char} (h : CommentsText s) : SpacedText s :=
  ⟨[], s, blanks_nil, h, rfl⟩

theorem not_tailText_nil : ¬TailText [] := by
  intro h
  generalize hs : ([] : List Char) = s at h
  cases h with
  | terminated hb hs' => simp at hs
  | commented hb hne hs' => exact hne (List.append_eq_nil_iff.1 hs.symm).2

/-- Comments start with two dashes. -/
theorem commentsText_cons_iff {c : Char} {s : List Char} :
    CommentsText (c :: s) ↔ c = '-' ∧ ∃ r, s = '-' :: r ∧ LineText r := by
  constructor
  · intro h
    cases h with
    | cons line hb hs => exact ⟨rfl, _, rfl, line, _, ⟨_, _, hb, hs, rfl⟩, rfl⟩
  · rintro ⟨rfl, _, rfl, line, _, ⟨b, r, hb, hr, rfl⟩, rfl⟩
    exact .cons line hb hr

theorem spacedText_cons_iff {c : Char} {s : List Char} :
    SpacedText (c :: s) ↔ CommentsText (c :: s) ∨ isBlank c = true ∧ SpacedText s := by
  constructor
  · rintro ⟨b, r, hb, hr, hs⟩
    cases b with
    | nil => exact .inl (hs ▸ hr)
    | cons d b =>
      obtain ⟨rfl, rfl⟩ := List.cons.inj hs
      obtain ⟨hc, hb⟩ := List.forall_mem_cons.1 hb
      exact .inr ⟨hc, b, r, hb, hr, rfl⟩
  · rintro (h | ⟨hc, b, r, hb, hr, rfl⟩)
    · exact h.spaced
    · exact ⟨c :: b, r, hb.cons hc, hr, rfl⟩

theorem lineText_cons_iff {c : Char} {s : List Char} :
    LineText (c :: s) ↔ SpacedText (c :: s) ∨ (c ≠ '\'' ∧ c ≠ '\n') ∧ LineText s := by
  constructor
  · rintro ⟨⟨text, hquote, hbreak⟩, r, hr, hs⟩
    cases text with
    | nil => exact .inl (hs ▸ hr)
    | cons d text =>
      obtain ⟨rfl, rfl⟩ := List.cons.inj hs
      rw [List.mem_cons, not_or] at hquote hbreak
      exact .inr ⟨⟨Ne.symm hquote.1, Ne.symm hbreak.1⟩, ⟨text, hquote.2, hbreak.2⟩, r, hr, rfl⟩
  · rintro (h | ⟨⟨hquote, hbreak⟩, line, r, hr, rfl⟩)
    · exact h.line
    · refine ⟨⟨c :: line.text, ?_, ?_⟩, r, hr, rfl⟩
      · simp [Ne.symm hquote, line.no_quote]
      · simp [Ne.symm hbreak, line.no_break]

theorem tailText_cons_iff {c : Char} {s : List Char} : TailText (c :: s) ↔
    (CommentsText (c :: s) ∨ c = ';' ∧ SpacedText s) ∨ isBlank c = true ∧ TailText s := by
  constructor
  · intro h
    generalize ht : c :: s = t at h
    cases h with
    | @terminated b r hb hr =>
      cases b with
      | nil =>
        obtain ⟨rfl, rfl⟩ := List.cons.inj ht
        exact .inl (.inr ⟨rfl, hr⟩)
      | cons d b =>
        obtain ⟨rfl, rfl⟩ := List.cons.inj ht
        obtain ⟨hc, hb⟩ := List.forall_mem_cons.1 hb
        exact .inr ⟨hc, .terminated hb hr⟩
    | @commented b r hb hne hr =>
      cases b with
      | nil => exact .inl (.inl hr)
      | cons d b =>
        obtain ⟨rfl, rfl⟩ := List.cons.inj ht
        obtain ⟨hc, hb⟩ := List.forall_mem_cons.1 hb
        exact .inr ⟨hc, .commented hb hne hr⟩
  · rintro ((h | ⟨rfl, h⟩) | ⟨hc, h⟩)
    · exact .commented blanks_nil (List.cons_ne_nil c s) h
    · exact .terminated blanks_nil h
    · cases h with
      | terminated hb hs => exact .terminated (hb.cons hc) hs
      | commented hb hne hs => exact .commented (hb.cons hc) hne hs

/-! ## Reading from the end -/

/-- The flags say of the text what the grammar says of it. -/
structure TailScan.Describes (t : TailScan) (s : List Char) : Prop where
  comments : t.comments = true ↔ CommentsText s
  spaced : t.spaced = true ↔ SpacedText s
  inComment : t.inComment = true ↔ LineText s
  dash : t.dash = true ↔ ∃ r, s = '-' :: r ∧ LineText r
  whole : t.whole = true ↔ TailText s

theorem TailScan.describes_empty : TailScan.empty.Describes [] where
  comments := iff_of_true rfl .nil
  spaced := iff_of_true rfl spacedText_nil
  inComment := iff_of_true rfl spacedText_nil.line
  dash := by simp [TailScan.empty]
  whole := iff_of_false Bool.false_ne_true not_tailText_nil

/-- **One character more.** The flags stay right. -/
theorem TailScan.Describes.cons {t : TailScan} {s : List Char} (h : t.Describes s) (c : Char) :
    (t.cons c).Describes (c :: s) := by
  have hcomments : (t.cons c).comments = true ↔ CommentsText (c :: s) := by
    simp only [TailScan.cons, Bool.and_eq_true, beq_iff_eq, h.dash, commentsText_cons_iff]
  have hspaced : (t.cons c).spaced = true ↔ SpacedText (c :: s) := by
    rw [spacedText_cons_iff, ← hcomments, ← h.spaced]
    simp only [TailScan.cons, Bool.or_eq_true, Bool.and_eq_true]
  refine ⟨hcomments, hspaced, ?_, ?_, ?_⟩
  · rw [lineText_cons_iff, ← hspaced, ← h.inComment]
    simp only [TailScan.cons, Bool.or_eq_true, Bool.and_eq_true, bne_iff_ne]
  · simp only [TailScan.cons, Bool.and_eq_true, beq_iff_eq, h.inComment, List.cons.injEq]
    constructor
    · rintro ⟨rfl, hs⟩
      exact ⟨s, ⟨rfl, rfl⟩, hs⟩
    · rintro ⟨r, ⟨rfl, rfl⟩, hs⟩
      exact ⟨rfl, hs⟩
  · rw [tailText_cons_iff, ← hcomments, ← h.spaced, ← h.whole]
    simp only [TailScan.cons, Bool.or_eq_true, Bool.and_eq_true, beq_iff_eq]

theorem describes_scanTail (s : List Char) : (scanTail s).Describes s := by
  induction s with
  | nil => exact TailScan.describes_empty
  | cons c s ih => exact ih.cons c

/-- What is taken for a tail is a tail of the grammar. -/
theorem isTail_iff_tailText {s : List Char} : isTail s = true ↔ TailText s :=
  (describes_scanTail s).whole

/-! ## The longest tail -/

/-- The longest tail that stands at the end of a statement, or nothing if none stands there. -/
def LongestTail (s tail : List Char) : Prop :=
  (TailText tail ∧ tail <:+ s ∧ ∀ u, u <:+ s → TailText u → u.length ≤ tail.length) ∨
    tail = [] ∧ ∀ u, u <:+ s → ¬TailText u

theorem LongestTail.suffix {s tail : List Char} (h : LongestTail s tail) : tail <:+ s := by
  rcases h with ⟨-, hsuffix, -⟩ | ⟨rfl, -⟩
  · exact hsuffix
  · exact List.nil_suffix

/-- Every tail at the end of the statement is part of the longest one. -/
theorem LongestTail.suffix_of_tailText {s tail u : List Char} (h : LongestTail s tail)
    (hu : u <:+ s) (htail : TailText u) : u <:+ tail := by
  rcases h with ⟨-, hsuffix, hlongest⟩ | ⟨-, hnone⟩
  · exact List.suffix_of_suffix_length_le hu hsuffix (hlongest u hu htail)
  · exact absurd htail (hnone u hu)

theorem longestTail_of_forall {s tail : List Char} (hsuffix : tail <:+ s)
    (hform : tail = [] ∨ TailText tail) (hall : ∀ u, u <:+ s → TailText u → u <:+ tail) :
    LongestTail s tail := by
  rcases hform with rfl | hform
  · refine .inr ⟨rfl, fun u hu htail => not_tailText_nil ?_⟩
    rwa [List.suffix_nil.1 (hall u hu htail)] at htail
  · exact .inl ⟨hform, hsuffix, fun u hu htail => (hall u hu htail).length_le⟩

theorem LongestTail.suffix_longestTail {s t u : List Char} (ht : LongestTail s t)
    (hu : LongestTail s u) : t <:+ u := by
  have hsuffix := ht.suffix
  rcases ht with ⟨htext, -, -⟩ | ⟨rfl, -⟩
  · exact hu.suffix_of_tailText hsuffix htext
  · exact List.nil_suffix

theorem LongestTail.unique {s t u : List Char} (ht : LongestTail s t) (hu : LongestTail s u) :
    t = u :=
  (ht.suffix_longestTail hu).eq_of_length_le (hu.suffix_longestTail ht).length_le

/-- No tail begins before the place where a statement is split. -/
theorem suffix_splitTail {s u : List Char} (hu : u <:+ s) (htail : isTail u = true) :
    u <:+ (splitTail s).2 := by
  induction s with
  | nil => exact hu
  | cons c s ih =>
    simp only [splitTail, splitScan] at ih ⊢
    split
    · exact hu
    · rename_i hwhole
      refine ih ((List.suffix_cons_iff.1 hu).resolve_left fun heq => hwhole ?_)
      rw [splitScan_fst]
      rw [heq] at htail
      exact htail

theorem longestTail_splitTail (s : List Char) : LongestTail s (splitTail s).2 := by
  refine longestTail_of_forall ⟨_, splitTail_append s⟩ ?_ fun u hu htail =>
    suffix_splitTail hu (isTail_iff_tailText.2 htail)
  exact (splitTail_snd s).imp_right isTail_iff_tailText.1

/-- A statement is split at its longest tail, and nowhere else. -/
theorem splitTail_eq_iff {s body tail : List Char} :
    splitTail s = (body, tail) ↔ body ++ tail = s ∧ LongestTail s tail := by
  constructor
  · intro h
    have happend := splitTail_append s
    have hlongest := longestTail_splitTail s
    rw [h] at happend hlongest
    exact ⟨happend, hlongest⟩
  · rintro ⟨rfl, hlongest⟩
    have htail := hlongest.unique (longestTail_splitTail (body ++ tail))
    have happend := splitTail_append (body ++ tail)
    rw [← htail] at happend
    exact Prod.ext (List.append_cancel_right happend) htail.symm

/-! ## Literals -/

theorem CommentsText.no_quote {s : List Char} (h : CommentsText s) : '\'' ∉ s := by
  induction h with
  | nil => exact List.not_mem_nil
  | cons line hb _ ih => simp [line.no_quote, hb.not_mem, ih, show isBlank '\'' = false by decide]

theorem SpacedText.no_quote {s : List Char} (h : SpacedText s) : '\'' ∉ s := by
  obtain ⟨b, r, hb, hr, rfl⟩ := h
  simp [hb.not_mem, hr.no_quote, show isBlank '\'' = false by decide]

/-- A tail has no quote in it. -/
theorem TailText.no_quote {s : List Char} (h : TailText s) : '\'' ∉ s := by
  have hblank : isBlank '\'' = false := by decide
  cases h with
  | terminated hb hs => simp [hb.not_mem hblank, hs.no_quote]
  | commented hb _ hs => simp [hb.not_mem hblank, hs.no_quote]

theorem LongestTail.no_quote {s tail : List Char} (h : LongestTail s tail) : '\'' ∉ tail := by
  rcases h with ⟨htext, -, -⟩ | ⟨rfl, -⟩
  · exact htext.no_quote
  · exact List.not_mem_nil

/-- Where a place of a statement is, as far as what stands before it says. -/
inductive Region where
  | code
  /-- Behind a dash that a second one makes a comment. -/
  | dash
  | comment
  | literal
  /-- Behind a quote that ends a literal, unless it is doubled. -/
  | quote
  deriving DecidableEq, Repr

/-- The place behind one character more. -/
def Region.next : Region → Char → Region
  | code, c => if c = '\'' then literal else if c = '-' then dash else code
  | dash, c => if c = '\'' then literal else if c = '-' then comment else code
  | comment, c => if c = '\n' then code else comment
  | literal, c => if c = '\'' then quote else literal
  | quote, c => if c = '\'' then literal else if c = '-' then dash else code

/-- The place behind a text at the start of a statement. -/
def regionAfter (s : List Char) : Region := s.foldl Region.next .code

/-- The place between two parts of a statement is in a literal: behind an open quote, or between two
that are one doubled quote. -/
def InLiteral (front back : List Char) : Prop :=
  regionAfter front = .literal ∨ regionAfter front = .quote ∧ back.head? = some '\''

instance (front back : List Char) : Decidable (InLiteral front back) :=
  inferInstanceAs (Decidable (_ ∨ _))

/-- A literal stays open up to the next quote. -/
theorem foldl_next_literal {s : List Char} (h : '\'' ∉ s) :
    s.foldl Region.next .literal = .literal := by
  induction s with
  | nil => rfl
  | cons c s ih =>
    rw [List.mem_cons, not_or] at h
    rw [List.foldl_cons, Region.next, if_neg (Ne.symm h.1)]
    exact ih h.2

/-- A place with no quote behind it is in a literal only if this is never closed. -/
theorem InLiteral.unclosed {front back : List Char} (hback : '\'' ∉ back)
    (h : InLiteral front back) : InLiteral (front ++ back) [] := by
  rcases h with h | ⟨-, h⟩
  · refine .inl ?_
    rw [regionAfter, List.foldl_append, ← regionAfter, h, foldl_next_literal hback]
  · exact absurd (List.mem_of_mem_head? h) hback

/-! ## Where a clause is put -/

/-- **A clause is put before the longest tail.** A statement is its body and its tail, where the
tail is the longest text of the grammar at its end, or nothing if no such text stands there; the
clause goes between the two. The tail has no quotes, and so the place is in no literal if all
literals of the statement are closed, whatever its comments hold. -/
theorem insertBeforeTail_longest (s clause : List Char) : ∃ body tail,
    insertBeforeTail s clause = body ++ clause ++ tail ∧ body ++ tail = s ∧
      LongestTail s tail ∧ '\'' ∉ tail ∧ (¬InLiteral s [] → ¬InLiteral body tail) := by
  have hlongest := longestTail_splitTail s
  have hquote := hlongest.no_quote
  refine ⟨_, _, rfl, splitTail_append s, hlongest, hquote, fun hclosed hplace => hclosed ?_⟩
  have hopen := hplace.unclosed hquote
  rwa [splitTail_append] at hopen

/-- Dashes in a literal with a doubled quote, and a comment with a terminator and dashes. -/
def dashedStatement : List Char := "SELECT '--it''s' ;-- a; -- b\n".toList

theorem insertBeforeTail_longest_dashes :
    insertBeforeTail dashedStatement " LIMIT 5".toList =
        "SELECT '--it''s' LIMIT 5 ;-- a; -- b\n".toList ∧
      ¬InLiteral dashedStatement [] ∧ ∃ body tail, body ++ tail = dashedStatement ∧
        LongestTail dashedStatement tail ∧ ¬InLiteral body tail := by
  have hclosed : ¬InLiteral dashedStatement [] := by decide
  obtain ⟨body, tail, -, happend, hlongest, -, hplace⟩ :=
    insertBeforeTail_longest dashedStatement " LIMIT 5".toList
  exact ⟨by decide, hclosed, body, tail, happend, hlongest, hplace hclosed⟩

end SqlDialect.Query
