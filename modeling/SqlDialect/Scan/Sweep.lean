import SqlDialect.Scan.Basic

/-!
# Sweeping a text for a construct

A sweep goes through a text from left to right. Where the scanner reads a construct the sweep goes
on behind it, so constructs never overlap; elsewhere it keeps the character and goes on with the
next one.

* `pieces` is the text cut into kept characters and constructs;
* `hits`, `first?`, `count`, `occurs` are the constructs found, the first, their number, and
  whether there is one;
* `replaceAll` writes something else for each construct and keeps all other text.

Statements: `piecesFrom_of_hit` and `piecesFrom_of_miss` say how a sweep goes on after a construct
and after a kept character; `replaceAll_of_not_occurs` says that a text without the construct stays.
-/

namespace SqlDialect.Scan

variable {α : Type}

/-- A part of a swept text: a kept character, or a construct. -/
inductive Piece (α : Type) where
  | keep (c : Char)
  | hit (value : α)
  deriving DecidableEq, Repr

/-- The construct of a piece, if it is one. -/
def Piece.value? : Piece α → Option α
  | .keep _ => none
  | .hit a => some a

/-- The text of a piece, with constructs written by `write`. -/
def Piece.render (write : α → List Char) : Piece α → List Char
  | .keep c => [c]
  | .hit a => write a

/-- Cuts the text behind `before` into pieces, after passing over `pending` characters that belong
to the construct read last. -/
def piecesFrom (scan : Scanner α) : (pending : Nat) → (before : Option Char) → List Char →
    List (Piece α)
  | _, _, [] => []
  | pending + 1, _, c :: s => piecesFrom scan pending (some c) s
  | 0, before, c :: s =>
    match scan before (c :: s) with
    | some (a, rest) => .hit a :: piecesFrom scan (s.length - rest.length) (some c) s
    | none => .keep c :: piecesFrom scan 0 (some c) s

/-- Passing over characters is starting behind them. -/
theorem piecesFrom_pending (scan : Scanner α) (pending : Nat) (before : Option Char)
    (s : List Char) :
    piecesFrom scan pending before s =
      piecesFrom scan 0 ((s.take pending).getLast?.or before) (s.drop pending) := by
  induction s generalizing pending before with
  | nil => simp [piecesFrom]
  | cons c s ih =>
    cases pending with
    | zero => simp
    | succ k => simp [piecesFrom, ih, List.getLast?_cons]

/-- After a construct the sweep goes on behind it. -/
theorem piecesFrom_of_hit {scan : Scanner α} {before : Option Char} {c : Char}
    {text rest : List Char} {a : α} (h : scan before (c :: text ++ rest) = some (a, rest)) :
    piecesFrom scan 0 before (c :: text ++ rest) =
      .hit a :: piecesFrom scan 0 (c :: text).getLast? rest := by
  rw [List.cons_append] at h ⊢
  rw [piecesFrom, h]
  simp [piecesFrom_pending scan text.length, List.getLast?_cons]

/-- Where there is no construct a character is kept. -/
theorem piecesFrom_of_miss {scan : Scanner α} {before : Option Char} {c : Char} {s : List Char}
    (h : scan before (c :: s) = none) :
    piecesFrom scan 0 before (c :: s) = .keep c :: piecesFrom scan 0 (some c) s := by
  rw [piecesFrom, h]

/-- Pieces without a construct are the text. -/
theorem render_piecesFrom_of_no_hit {scan : Scanner α} {before : Option Char} {s : List Char}
    (write : α → List Char) (h : (piecesFrom scan 0 before s).filterMap Piece.value? = []) :
    (piecesFrom scan 0 before s).flatMap (Piece.render write) = s := by
  induction s generalizing before with
  | nil => rfl
  | cons c s ih =>
    cases hs : scan before (c :: s) with
    | some r => simp [piecesFrom, hs, Piece.value?] at h
    | none =>
      rw [piecesFrom_of_miss hs] at h ⊢
      simpa [Piece.render] using ih (by simpa [Piece.value?] using h)

/-- Cuts a text into kept characters and constructs. -/
def pieces (scan : Scanner α) (s : List Char) : List (Piece α) :=
  piecesFrom scan 0 none s

/-- The constructs found, in order. -/
def hits (scan : Scanner α) (s : List Char) : List α :=
  (pieces scan s).filterMap Piece.value?

/-- The first construct found. -/
def first? (scan : Scanner α) (s : List Char) : Option α :=
  (hits scan s).head?

/-- The number of constructs found. -/
def count (scan : Scanner α) (s : List Char) : Nat :=
  (hits scan s).length

/-- The text has such a construct. -/
def occurs (scan : Scanner α) (s : List Char) : Bool :=
  (first? scan s).isSome

/-- Writes every construct anew and keeps all other text. -/
def replaceAll (scan : Scanner α) (write : α → List Char) (s : List Char) : List Char :=
  (pieces scan s).flatMap (Piece.render write)

theorem not_occurs_iff {scan : Scanner α} {s : List Char} :
    occurs scan s = false ↔ hits scan s = [] := by
  simp [occurs, first?, List.head?_eq_none_iff]

/-- A text without the construct stays as it is. -/
theorem replaceAll_of_not_occurs {scan : Scanner α} {s : List Char} (write : α → List Char)
    (h : occurs scan s = false) : replaceAll scan write s = s :=
  render_piecesFrom_of_no_hit write (not_occurs_iff.1 h)

/-- Applies `f` again and again, `n` times at most, until it no longer changes the text. -/
def settle (f : List Char → List Char) : (n : Nat) → List Char → List Char
  | 0, s => s
  | n + 1, s => if f s = s then s else settle f n (f s)

end SqlDialect.Scan
