import SqlDialect.Scan.Basic
import SqlDialect.Scan.Repeat
import SqlDialect.Toml.Basic

/-!
# TOML strings, numbers, truth values and date-times

* `quotedKey?`, `string?` read strings: basic and literal ones, on one line or on several;
* `dateTime?` reads a date, a time, or both with or without an offset;
* `float?`, `integer?`, `boolean?` read the other scalars;
* `scalar?` reads any of them.
-/

namespace SqlDialect.Toml

open Scan

/-- The rest after a given word. -/
def word? : List Char → List Char → Option (List Char)
  | [], s => some s
  | _ :: _, [] => none
  | w :: ws, c :: s => if w = c then word? ws s else none

/-- A space or a tab. -/
def isSpace (c : Char) : Bool := c == ' ' || c == '\t'

/-- The rest after spaces and tabs. -/
def skipSpace (s : List Char) : List Char := s.dropWhile isSpace

/-- The rest after a line end. -/
def newline? : List Char → Option (List Char)
  | '\n' :: s => some s
  | '\r' :: '\n' :: s => some s
  | _ => none

/-- A character that may stand in a comment or a string: no control but the tab. -/
def isPlain (c : Char) : Bool := c == '\t' || (0x20 ≤ c.toNat && c.toNat != 0x7F)

/-! ## Strings -/

/-- The value of a hexadecimal digit. -/
def hexValue? (c : Char) : Option Nat :=
  if '0' ≤ c ∧ c ≤ '9' then some (c.toNat - '0'.toNat)
  else if 'a' ≤ c ∧ c ≤ 'f' then some (c.toNat - 'a'.toNat + 10)
  else if 'A' ≤ c ∧ c ≤ 'F' then some (c.toNat - 'A'.toNat + 10)
  else none

/-- The number written by hexadecimal digits. -/
def hexNumber? (ds : List Char) : Option Nat :=
  ds.foldlM (fun n d => (hexValue? d).map (16 * n + ·)) 0

/-- The character with the code point that the next `n` digits write. -/
def codePoint? (n : Nat) (s : List Char) : Option (Char × List Char) := do
  if s.length < n then none
  let code ← hexNumber? (s.take n)
  if code.isValidChar then some (Char.ofNat code, s.drop n) else none

/-- The character of an escape, from the text after the backslash. -/
def escape? : Step Char
  | 'b' :: s => some ('\x08', s)
  | 't' :: s => some ('\t', s)
  | 'n' :: s => some ('\n', s)
  | 'f' :: s => some ('\x0c', s)
  | 'r' :: s => some ('\r', s)
  | '"' :: s => some ('"', s)
  | '\\' :: s => some ('\\', s)
  | 'u' :: s => codePoint? 4 s
  | 'U' :: s => codePoint? 8 s
  | _ => none

/-- One character of a basic string. -/
def basicChar? : Step Char
  | [] => none
  | '"' :: _ => none
  | '\\' :: s => escape? s
  | c :: s => if isPlain c then some (c, s) else none

/-- A basic string on one line. -/
def basicString? (s : List Char) : Option (List Char × List Char) := do
  let s ← symbol? '"' s
  let (cs, s) := many basicChar? s
  let s ← symbol? '"' s
  return (cs, s)

/-- One character of a literal string. -/
def literalChar? : Step Char
  | [] => none
  | '\'' :: _ => none
  | c :: s => if isPlain c then some (c, s) else none

/-- A literal string on one line. -/
def literalString? (s : List Char) : Option (List Char × List Char) := do
  let s ← symbol? '\'' s
  let (cs, s) := many literalChar? s
  let s ← symbol? '\'' s
  return (cs, s)

/-- The rest after a backslash at the end of a line: all blanks up to the next character. -/
def continuedLine? (s : List Char) : Option (List Char) := do
  let s ← newline? (skipSpace s)
  let (_, s) := many
    (fun s =>
      match s with
      | c :: t => if isSpace c then some ((), t) else (newline? s).map ((), ·)
      | [] => none) s
  return s

/-- One or two quotes inside a string on several lines: fewer than would close it. -/
def innerQuotes? (quote : Char) : Step (List Char)
  | a :: b :: c :: s =>
    if a = quote then
      if b = quote then if c = quote then none else some ([a, b], c :: s)
      else some ([a], b :: c :: s)
    else none
  | [a, b] => if a = quote ∧ b ≠ quote then some ([a], [b]) else none
  | _ => none

/-- A part of a basic string on several lines. -/
def multiBasicPart? : Step (List Char)
  | '\\' :: s =>
    match continuedLine? s with
    | some s => some ([], s)
    | none => (escape? s).map fun (c, s) => ([c], s)
  | '"' :: s => innerQuotes? '"' ('"' :: s)
  | '\n' :: s => some (['\n'], s)
  | '\r' :: '\n' :: s => some (['\n'], s)
  | c :: s => if isPlain c then some ([c], s) else none
  | [] => none

/-- A part of a literal string on several lines. -/
def multiLiteralPart? : Step (List Char)
  | '\'' :: s => innerQuotes? '\'' ('\'' :: s)
  | '\n' :: s => some (['\n'], s)
  | '\r' :: '\n' :: s => some (['\n'], s)
  | c :: s => if isPlain c then some ([c], s) else none
  | [] => none

/-- The end of a string on several lines: three quotes, with up to two more that belong to it. -/
def closeMulti? (quote : Char) (s : List Char) : Option (List Char × List Char) := do
  let run := s.takeWhile (· == quote)
  if run.length < 3 then none
  let n := min run.length 5
  return (List.replicate (n - 3) quote, s.drop n)

/-- A string on several lines. A line end right after the opening quotes does not count. -/
def multiString? (quote : Char) (part : Step (List Char)) (s : List Char) :
    Option (List Char × List Char) := do
  let s ← word? [quote, quote, quote] s
  let (parts, s) := many part ((newline? s).getD s)
  let (last, s) ← closeMulti? quote s
  return (parts.flatten ++ last, s)

/-- A string of any of the four forms. -/
def string? (s : List Char) : Option (List Char × List Char) :=
  if (word? ['"', '"', '"'] s).isSome then multiString? '"' multiBasicPart? s
  else if (word? ['\'', '\'', '\''] s).isSome then multiString? '\'' multiLiteralPart? s
  else (basicString? s).or (literalString? s)

/-! ## Date-times -/

/-- The number written by the next `n` decimal digits. -/
def fixedDigits? (n : Nat) (s : List Char) : Option (Nat × List Char) :=
  let ds := s.take n
  if ds.length = n ∧ ds.all Char.isDigit then
    some (ds.foldl (fun k d => 10 * k + (d.toNat - '0'.toNat)) 0, s.drop n)
  else none

/-- The number written by two digits, if it lies in the range. -/
def twoDigits? (least most : Nat) (s : List Char) : Option (Nat × List Char) := do
  let (n, s) ← fixedDigits? 2 s
  if least ≤ n ∧ n ≤ most then some (n, s) else none

/-- The number of days of a month. -/
def daysIn (year month : Nat) : Nat :=
  if month = 2 then
    if year % 4 = 0 ∧ (year % 100 ≠ 0 ∨ year % 400 = 0) then 29 else 28
  else if [4, 6, 9, 11].contains month then 30 else 31

/-- The rest after a date. -/
def date? (s : List Char) : Option (List Char) := do
  let (year, s) ← fixedDigits? 4 s
  let s ← symbol? '-' s
  let (month, s) ← twoDigits? 1 12 s
  let s ← symbol? '-' s
  let (_, s) ← twoDigits? 1 (daysIn year month) s
  return s

/-- The rest after a fraction of a second; nothing need be there. -/
def secondFraction (s : List Char) : List Char :=
  match s with
  | '.' :: t =>
    match t.takeWhile Char.isDigit with
    | [] => s
    | _ => t.dropWhile Char.isDigit
  | _ => s

/-- The rest after a time. -/
def time? (s : List Char) : Option (List Char) := do
  let (_, s) ← twoDigits? 0 23 s
  let s ← symbol? ':' s
  let (_, s) ← twoDigits? 0 59 s
  let s ← symbol? ':' s
  let (_, s) ← twoDigits? 0 60 s
  return secondFraction s

/-- The rest after an offset from universal time. -/
def offset? : List Char → Option (List Char)
  | c :: s =>
    if c = 'Z' ∨ c = 'z' then some s
    else if c = '+' ∨ c = '-' then do
      let (_, s) ← twoDigits? 0 23 s
      let s ← symbol? ':' s
      let (_, s) ← twoDigits? 0 59 s
      return s
    else none
  | [] => none

/-- The rest after `T` or a space, a time, and perhaps an offset. -/
def timeOfDay? : List Char → Option (List Char)
  | c :: s =>
    if ['T', 't', ' '].contains c then (time? s).map (opt? offset?) else none
  | [] => none

/-- The rest after a date, a time, or both. -/
def dateTimeEnd? (s : List Char) : Option (List Char) :=
  match date? s with
  | some rest => some (opt? timeOfDay? rest)
  | none => time? s

/-- A date-time as it is written. -/
def dateTime? (s : List Char) : Option (Value × List Char) := do
  let rest ← dateTimeEnd? s
  return (.dateTime (String.ofList (s.take (s.length - rest.length))), rest)

/-! ## Numbers and truth values -/

/-- One more digit of a number, perhaps after an underscore. -/
def nextDigit? (isDigit : Char → Bool) : Step Char
  | '_' :: c :: s => if isDigit c then some (c, s) else none
  | c :: s => if isDigit c then some (c, s) else none
  | [] => none

/-- Digits, with single underscores between them. -/
def digitRun? (isDigit : Char → Bool) : Step (List Char)
  | c :: s =>
    if isDigit c then
      let (cs, s) := many (nextDigit? isDigit) s
      some (c :: cs, s)
    else none
  | [] => none

/-- A sign, if there is one: whether it is a minus. -/
def signOf : List Char → Bool × List Char
  | '-' :: s => (true, s)
  | '+' :: s => (false, s)
  | s => (false, s)

/-- The digits of a decimal whole number: a leading zero stands alone. -/
def wholeDigits? : Step (List Char)
  | '0' :: s => some (['0'], s)
  | s => digitRun? Char.isDigit s

/-- The number written by digits in a base. -/
def numberOf (base : Nat) (ds : List Char) : Nat :=
  ds.foldl (fun n d => base * n + (hexValue? d).getD 0) 0

/-- The power of ten of a float. -/
def power? : Step Int
  | c :: s =>
    if c = 'e' ∨ c = 'E' then do
      let (negative, s) := signOf s
      let (ds, s) ← digitRun? Char.isDigit s
      let n : Int := numberOf 10 ds
      return (if negative then -n else n, s)
    else none
  | [] => none

/-- A float with a fraction, a power of ten, or both. One too large to hold is refused, but only
with a positive sign. -/
def decimalFloat? (s : List Char) : Option (Value × List Char) := do
  let (negative, s) := signOf s
  let (whole, s) ← wholeDigits? s
  let (fraction, power, s) ←
    match s with
    | '.' :: s => do
      let (fraction, s) ← digitRun? Char.isDigit s
      let (power, s) := (power? s).getD (0, s)
      some (fraction, power, s)
    | s => do
      let (power, s) ← power? s
      some ([], power, s)
  let d : Decimal := ⟨negative, numberOf 10 (whole ++ fraction), power - fraction.length⟩
  match Binary64.ofDecimal d with
  | .infinite false => none
  | x => some (.float x, s)

/-- An infinity, or no number. -/
def specialFloat? (s : List Char) : Option (Value × List Char) :=
  let (negative, s) := signOf s
  match word? "inf".toList s with
  | some s => some (.float (.infinite negative), s)
  | none => (word? "nan".toList s).map (.float .nan, ·)

/-- A float. -/
def float? (s : List Char) : Option (Value × List Char) := (decimalFloat? s).or (specialFloat? s)

/-- A digit of a base up to sixteen. -/
def isDigitOf (base : Nat) (c : Char) : Bool := (hexValue? c).any fun n => n < base

/-- A whole number in a base, after the mark of the base. It has no sign. -/
def basedInteger? (base : Nat) (s : List Char) : Option (Value × List Char) := do
  let (ds, s) ← digitRun? (isDigitOf base) s
  let n := numberOf base ds
  if n < Nat.pow 2 63 then some (.integer n, s) else none

/-- A whole number in decimal digits. -/
def decimalInteger? (s : List Char) : Option (Value × List Char) := do
  let (negative, s) := signOf s
  let (ds, s) ← wholeDigits? s
  let n := numberOf 10 ds
  if negative then
    if n ≤ Nat.pow 2 63 then some (.integer (-n), s) else none
  else if n < Nat.pow 2 63 then some (.integer n, s) else none

/-- A whole number of 64 bits. -/
def integer? : List Char → Option (Value × List Char)
  | '0' :: 'x' :: s => basedInteger? 16 s
  | '0' :: 'o' :: s => basedInteger? 8 s
  | '0' :: 'b' :: s => basedInteger? 2 s
  | s => decimalInteger? s

/-- A truth value. -/
def boolean? (s : List Char) : Option (Value × List Char) :=
  match word? "true".toList s with
  | some s => some (.boolean true, s)
  | none => (word? "false".toList s).map (.boolean false, ·)

/-- A value that is neither an array nor a table. -/
def scalar? (s : List Char) : Option (Value × List Char) :=
  ((string? s).map fun (cs, s) => (Value.string (String.ofList cs), s)).or <|
    (dateTime? s).or <| (float? s).or <| (integer? s).or (boolean? s)

end SqlDialect.Toml
