import SqlDialect.Text.Blank
import SqlDialect.Text.CaseFold
import SqlDialect.Text.Digit
import SqlDialect.Text.Word

/-!
# Reading a construct at one place of a query

A `Scanner` looks at a place of a text: it sees the character before the place and the text after
it, and either reads a construct there or does not. What follows are the steps that scanners are
made of. Each step takes as much as it can; no construct of the queries read here ever needs one
of them to give something back.

* `keyword?`, `symbol?`, `digits?` read a keyword in any letter case, a sign, a run of digits;
* `oneOf?`, `opt?` choose between steps;
* `enclosed?` reads up to a closing sign;
* `bareArgument?` finds an argument among the blanks around it.
-/

namespace SqlDialect.Scan

/-- Reads a construct at a place: from the character before it and the text from there on, the
construct and the rest of the text. -/
abbrev Scanner (α : Type) := Option Char → List Char → Option (α × List Char)

/-- The rest after a keyword, written in any letter case. -/
def keyword? (word : List Char) (s : List Char) : Option (List Char) :=
  Text.dropFolded? word s

/-- The rest after a sign. -/
def symbol? (sign : Char) : List Char → Option (List Char)
  | [] => none
  | c :: s => if c = sign then some s else none

@[simp]
theorem symbol?_eq_some_iff {sign : Char} {s rest : List Char} :
    symbol? sign s = some rest ↔ s = sign :: rest := by
  cases s with
  | nil => simp [symbol?]
  | cons c s =>
    simp only [symbol?, List.cons.injEq]
    split
    next h => simp [h]
    next h => simp [h]

/-- The rest after one of two steps, the first of them if it can be taken. -/
def oneOf? (a b : List Char → Option (List Char)) (s : List Char) : Option (List Char) :=
  (a s).or (b s)

/-- The rest after a step, or the text itself if the step cannot be taken. -/
def opt? (a : List Char → Option (List Char)) (s : List Char) : List Char :=
  (a s).getD s

/-- A run of decimal digits and the rest. -/
def digits? (s : List Char) : Option (List Char × List Char) :=
  match s.takeWhile Text.isDigit with
  | [] => none
  | d :: ds => some (d :: ds, s.dropWhile Text.isDigit)

/-- What stands before the first of the `stops`, and the text from that stop on. -/
def upTo (stops : List Char) (s : List Char) : List Char × List Char :=
  (s.takeWhile fun c => !stops.contains c, s.dropWhile fun c => !stops.contains c)

/-- What stands before a closing sign, which has to be the first of the `stops`, and the rest
after it. -/
def enclosed? (stops : List Char) (closing : Char) (s : List Char) :
    Option (List Char × List Char) := do
  let rest ← symbol? closing (upTo stops s).2
  return ((upTo stops s).1, rest)

/-- What is enclosed holds none of the stops. -/
theorem enclosed?_eq_some_iff {stops : List Char} {closing : Char} (hc : closing ∈ stops)
    {s body rest : List Char} :
    enclosed? stops closing s = some (body, rest) ↔
      s = body ++ closing :: rest ∧ ∀ c ∈ body, c ∉ stops := by
  simp only [enclosed?, upTo, Option.bind_eq_bind, Option.bind_eq_some_iff, symbol?_eq_some_iff,
    Option.pure_def, Option.some.injEq, Prod.mk.injEq]
  constructor
  · rintro ⟨r, hr, rfl, rfl⟩
    refine ⟨?_, fun c hm => ?_⟩
    · rw [← hr]
      exact List.takeWhile_append_dropWhile.symm
    · have h := List.all_eq_true.1 (List.all_takeWhile (l := s)) c hm
      simpa using h
  · rintro ⟨rfl, hb⟩
    refine ⟨rest, ?_, ?_, rfl⟩
    · rw [List.dropWhile_append_of_pos fun c h => by simpa using hb c h]
      simp [hc]
    · rw [List.takeWhile_append_of_pos fun c h => by simpa using hb c h]
      simp [hc]

/-- As `enclosed?`, but something has to stand there. -/
def enclosed1? (stops : List Char) (closing : Char) (s : List Char) :
    Option (List Char × List Char) := do
  let (body, rest) ← enclosed? stops closing s
  if body.isEmpty then none else some (body, rest)

/-- An argument without the blanks around it. Of an argument that is all blank, the last blank
is kept. -/
def bareArgument? (raw : List Char) : Option (List Char) :=
  match Text.trim raw with
  | [] => raw.getLast?.map ([·])
  | c :: s => some (c :: s)

end SqlDialect.Scan
