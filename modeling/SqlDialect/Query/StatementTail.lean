import SqlDialect.Text.Blank

/-!
# The tail of a statement

What may follow the last clause of a statement: a terminator and line comments, with blanks in
between. A new clause goes before it. A comment runs from `--` to the end of its line, and one with
a single quote in it is not taken for a comment, since the `--` may stand in a literal.

* `TailScan` says of a text, read from its end, which parts of a tail it can be; `spaced_cons`,
  `dash_cons`, `inComment_cons` and `isTail_cons` say it with one more character in front;
* `isTail` holds of a whole tail: blanks and a terminator, then comments; or blanks and at least
  one comment;
* `splitTail` cuts a statement at its longest tail, see `splitTail_append`, `splitTail_snd` and
  `splitTail_of_isTail`;
* `insertBeforeTail` puts a clause before it.
-/

namespace SqlDialect.Query

/-- What a text can be within a tail. -/
structure TailScan where
  /-- The text is a sequence of comments, each with the blanks after it. -/
  comments : Bool
  /-- Blanks, then comments. -/
  spaced : Bool
  /-- The rest of a comment after `--`, then blanks and comments. -/
  inComment : Bool
  /-- The second dash of a comment and what follows it. -/
  dash : Bool
  /-- A whole tail. -/
  whole : Bool
  deriving DecidableEq, Repr

namespace TailScan

/-- The empty text. -/
def empty : TailScan where
  comments := true
  spaced := true
  inComment := true
  dash := false
  whole := false

/-- What a text is with one more character in front. -/
def cons (c : Char) (t : TailScan) : TailScan :=
  let comments := c == '-' && t.dash
  let spaced := comments || (Text.isBlank c && t.spaced)
  { comments
    spaced
    inComment := spaced || (c != '\'' && c != '\n' && t.inComment)
    dash := c == '-' && t.inComment
    whole := comments || (c == ';' && t.spaced) || (Text.isBlank c && t.whole) }

end TailScan

/-- Reads a text from its end. -/
def scanTail (s : List Char) : TailScan := s.foldr TailScan.cons TailScan.empty

/-- The text is a statement tail. -/
def isTail (s : List Char) : Bool := (scanTail s).whole

theorem spaced_cons (c : Char) (s : List Char) : (scanTail (c :: s)).spaced =
    (c == '-' && (scanTail s).dash || Text.isBlank c && (scanTail s).spaced) := rfl

theorem dash_cons (c : Char) (s : List Char) : (scanTail (c :: s)).dash =
    (c == '-' && (scanTail s).inComment) := rfl

theorem inComment_cons (c : Char) (s : List Char) : (scanTail (c :: s)).inComment =
    ((scanTail (c :: s)).spaced || c != '\'' && c != '\n' && (scanTail s).inComment) := rfl

theorem isTail_cons (c : Char) (s : List Char) : isTail (c :: s) =
    (c == '-' && (scanTail s).dash || c == ';' && (scanTail s).spaced ||
      Text.isBlank c && isTail s) := rfl

/-- The split of a text at its longest tail, and what the text is within a tail. -/
def splitScan : List Char → TailScan × List Char × List Char
  | [] => (.empty, [], [])
  | c :: s =>
    let (t, body, tail) := splitScan s
    let t := t.cons c
    if t.whole then (t, [], c :: s) else (t, c :: body, tail)

theorem splitScan_fst (s : List Char) : (splitScan s).1 = scanTail s := by
  induction s with
  | nil => rfl
  | cons c s ih =>
    simp only [splitScan, scanTail, List.foldr_cons]
    rw [ih]
    split <;> rfl

/-- A statement as its body and its tail. -/
def splitTail (s : List Char) : List Char × List Char := (splitScan s).2

/-- Nothing is lost in the split. -/
theorem splitTail_append (s : List Char) : (splitTail s).1 ++ (splitTail s).2 = s := by
  induction s with
  | nil => rfl
  | cons c s ih =>
    simp only [splitTail, splitScan] at ih ⊢
    split
    · rfl
    · simp [ih]

/-- What is split off is a tail, or nothing. -/
theorem splitTail_snd (s : List Char) : (splitTail s).2 = [] ∨ isTail (splitTail s).2 = true := by
  induction s with
  | nil => exact .inl rfl
  | cons c s ih =>
    simp only [splitTail, splitScan] at ih ⊢
    split
    next h =>
      refine .inr ?_
      rw [splitScan_fst] at h
      exact h
    next => exact ih

/-- A tail has no tail in front of it: the split takes the longest one. -/
theorem splitTail_of_isTail {s : List Char} (h : isTail s = true) : splitTail s = ([], s) := by
  cases s with
  | nil => rfl
  | cons c s =>
    have hw : ((splitScan s).1.cons c).whole = true := by
      rw [splitScan_fst]
      exact h
    simp [splitTail, splitScan, hw]

/-- Puts a clause before the tail of a statement. -/
def insertBeforeTail (s clause : List Char) : List Char :=
  (splitTail s).1 ++ clause ++ (splitTail s).2

end SqlDialect.Query
