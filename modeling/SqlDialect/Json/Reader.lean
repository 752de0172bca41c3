import SqlDialect.Decimal.Scaling
import SqlDialect.Json.Basic
import SqlDialect.Scan.Repeat

/-!
# Reading JSON

`Json.parse?` reads a whole text as one value. Whole numbers of 64 bits stay whole; all other
numbers, `-0` included, become floats. A float is made of the digits that fit into 64 bits, scaled by
the power of ten, so it is not always the one nearest to the number as it is written. Values nested
too deep are refused.
-/

namespace SqlDialect.Json

open Scan

/-- The rest after the blanks of JSON. -/
def skipSpace (s : List Char) : List Char := s.dropWhile fun c => [' ', '\t', '\n', '\r'].contains c

/-- The rest after a sign and the blanks before it. -/
def sign? (c : Char) : Step Unit := fun s =>
  match skipSpace s with
  | [] => none
  | d :: s => if d = c then some ((), s) else none

/-- The rest after a given word. -/
def word? : List Char → List Char → Option (List Char)
  | [], s => some s
  | _ :: _, [] => none
  | w :: ws, c :: s => if w = c then word? ws s else none

/-- The value of a hexadecimal digit. -/
def hexValue? (c : Char) : Option Nat :=
  if '0' ≤ c ∧ c ≤ '9' then some (c.toNat - '0'.toNat)
  else if 'a' ≤ c ∧ c ≤ 'f' then some (c.toNat - 'a'.toNat + 10)
  else if 'A' ≤ c ∧ c ≤ 'F' then some (c.toNat - 'A'.toNat + 10)
  else none

/-- Four hexadecimal digits. -/
def unit? : Step Nat
  | a :: b :: c :: d :: s => do
    let a ← hexValue? a
    let b ← hexValue? b
    let c ← hexValue? c
    let d ← hexValue? d
    return (((a * 16 + b) * 16 + c) * 16 + d, s)
  | _ => none

/-- The character of an escape, from the text after `\u`: one unit, or two of a pair. -/
def codeEscape? : Step Char := fun s => do
  let (high, s) ← unit? s
  if 0xD800 ≤ high ∧ high < 0xDC00 then
    let s ← word? ['\\', 'u'] s
    let (low, s) ← unit? s
    if 0xDC00 ≤ low ∧ low < 0xE000 then
      return (Char.ofNat (0x10000 + (high - 0xD800) * 0x400 + (low - 0xDC00)), s)
    else none
  else if 0xDC00 ≤ high ∧ high < 0xE000 then none
  else return (Char.ofNat high, s)

/-- One character of a string. -/
def stringChar? : Step Char
  | [] => none
  | '"' :: _ => none
  | '\\' :: '"' :: s => some ('"', s)
  | '\\' :: '\\' :: s => some ('\\', s)
  | '\\' :: '/' :: s => some ('/', s)
  | '\\' :: 'b' :: s => some ('\x08', s)
  | '\\' :: 'f' :: s => some ('\x0c', s)
  | '\\' :: 'n' :: s => some ('\n', s)
  | '\\' :: 'r' :: s => some ('\r', s)
  | '\\' :: 't' :: s => some ('\t', s)
  | '\\' :: 'u' :: s => codeEscape? s
  | '\\' :: _ => none
  | c :: s => if c.toNat < 0x20 then none else some (c, s)

/-- A string, blanks before it skipped. -/
def string? : Step String := fun s => do
  let (_, s) ← sign? '"' s
  let (cs, s) := many stringChar? s
  let s ← word? ['"'] s
  return (String.ofList cs, s)

/-- A run of digits, one at least. -/
def digitRun? (s : List Char) : Option (List Char × List Char) :=
  match s.takeWhile Char.isDigit with
  | [] => none
  | ds => some (ds, s.dropWhile Char.isDigit)

/-- The whole number that decimal digits write. -/
def natOfDigits (ds : List Char) : Nat := ds.foldl (fun n d => 10 * n + (d.toNat - '0'.toNat)) 0

/-- The fraction after a point; none if there is no point. -/
def fraction? : List Char → Option (List Char × List Char)
  | '.' :: s => digitRun? s
  | s => some ([], s)

/-- The power of ten; none if it is not written. -/
def power? : List Char → Option (Option Int × List Char)
  | c :: s =>
    if c = 'e' ∨ c = 'E' then
      let (negative, s) :=
        match s with
        | '-' :: s => (true, s)
        | '+' :: s => (false, s)
        | s => (false, s)
      (digitRun? s).map fun (ds, s) =>
        let n : Int := natOfDigits ds
        (some (if negative then -n else n), s)
    else some (none, c :: s)
  | [] => some (none, [])

/-- Adds digits to a number as long as it fits into 64 bits; the others are left over. -/
def takeDigits (n : Nat) : List Char → Nat × List Char
  | [] => (n, [])
  | d :: ds =>
    let next := 10 * n + (d.toNat - '0'.toNat)
    if next < Nat.pow 2 64 then takeDigits next ds else (n, d :: ds)

/-- The float of a number. Digits before the point that do not fit count as zeros; those behind it
are dropped. -/
def floatOf? (negative : Bool) (whole fraction : List Char) (power : Int) : Option Json :=
  let (n, excess) := takeDigits 0 whole
  let (n, dropped) := takeDigits n fraction
  let places : Int := fraction.length - dropped.length
  (Binary64.ofScaled? negative n (power + excess.length - places)).map float

/-- The value of a number: whole if it is written so, is not `-0`, and fits into 64 bits. -/
def numberOf? (negative : Bool) (whole fraction : List Char) (power : Option Int) : Option Json :=
  let n := natOfDigits whole
  let asFloat := floatOf? negative whole fraction (power.getD 0)
  match fraction, power with
  | [], none =>
    if negative then
      if 0 < n ∧ n ≤ Nat.pow 2 63 then some (integer (-n)) else asFloat
    else if n < Nat.pow 2 64 then some (integer n) else asFloat
  | _, _ => asFloat

/-- A number. A leading zero stands alone. -/
def number? (s : List Char) : Option (Json × List Char) := do
  let (negative, s) :=
    match s with
    | '-' :: s => (true, s)
    | s => (false, s)
  let (whole, s) ←
    match s with
    | '0' :: s => some (['0'], s)
    | s => digitRun? s
  let (fraction, s) ← fraction? s
  let (power, s) ← power? s
  let v ← numberOf? negative whole fraction power
  return (v, s)

/-- A member of an object, its value read by `value`. -/
def member? (value : Step Json) : Step (String × Json) := fun s => do
  let (name, s) ← string? s
  let (_, s) ← sign? ':' s
  let (v, s) ← value s
  return ((name, v), s)

/-- A value, nested `depth` deep at most. -/
def value? : (depth : Nat) → Step Json
  | depth, s =>
    match skipSpace s with
    | 'n' :: s => (word? "ull".toList s).map (null, ·)
    | 't' :: s => (word? "rue".toList s).map (bool true, ·)
    | 'f' :: s => (word? "alse".toList s).map (bool false, ·)
    | '"' :: s => (string? ('"' :: s)).map fun (t, s) => (string t, s)
    | c :: s =>
      if c = '[' ∨ c = '\x7b' then
        match depth with
        | 0 => none
        | depth + 1 =>
          if c = '[' then do
            let (vs, s) := separated (sign? ',') (value? depth) s
            let (_, s) ← sign? ']' s
            return (array vs, s)
          else do
            let (ms, s) := separated (sign? ',') (member? (value? depth)) s
            let (_, s) ← sign? '\x7d' s
            return (object (ms.foldl (fun acc (k, v) => insert k v acc) []), s)
      else number? (c :: s)
    | [] => none

/-- The depth to which values are read. -/
def depthLimit : Nat := 127

/-- Reads a whole text as one value. -/
def parse? (text : String) : Option Json := do
  let (v, s) ← value? depthLimit text.toList
  if (skipSpace s).isEmpty then some v else none

end SqlDialect.Json
