/-!
# Repeated steps of a reader

A step reads something at the start of a text and gives it with the rest of the text.

* `many` repeats a step as often as it can;
* `separated` repeats a step with something else in between.
-/

namespace SqlDialect.Scan

variable {α β : Type}

/-- Reads something at the start of a text. -/
abbrev Step (α : Type) := List Char → Option (α × List Char)

/-- Repeats a step, `n` times at most. -/
def manyUpTo (step : Step α) : (n : Nat) → List Char → List α × List Char
  | 0, s => ([], s)
  | n + 1, s =>
    match step s with
    | none => ([], s)
    | some (a, rest) =>
      let (as, rest) := manyUpTo step n rest
      (a :: as, rest)

/-- Repeats a step until it cannot be taken. -/
def many (step : Step α) (s : List Char) : List α × List Char := manyUpTo step s.length s

/-- Reads with one step, then with the other. -/
def after (first : Step β) (second : Step α) : Step α := fun s => do
  let (_, s) ← first s
  second s

/-- Repeats a step with `between` read in between; none at all is fine too. -/
def separated (between : Step β) (step : Step α) (s : List Char) : List α × List Char :=
  match step s with
  | none => ([], s)
  | some (a, s) =>
    let (as, s) := many (after between step) s
    (a :: as, s)

end SqlDialect.Scan
