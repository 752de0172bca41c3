import SqlDialect.Json.Basic

/-!
# Writing JSON

* `Json.pretty` puts each item and member on a line of its own, two blanks further in;
* `Json.compact` writes a value on one line.

In a string only the double quote, the backslash and the controls are escaped.
-/

namespace SqlDialect.Json

/-- How floats are written: with a power of ten if they are very large or very small. -/
def numberStyle : NumberStyle := ⟨false, fun point => -5 < point && point ≤ 16, true⟩

/-- A character in a string. -/
def escapeChar (c : Char) : List Char :=
  match c with
  | '"' => ['\\', '"']
  | '\\' => ['\\', '\\']
  | '\x08' => ['\\', 'b']
  | '\x0c' => ['\\', 'f']
  | '\n' => ['\\', 'n']
  | '\r' => ['\\', 'r']
  | '\t' => ['\\', 't']
  | c =>
    if c.toNat < 0x20 then
      ['\\', 'u', '0', '0', Nat.digitChar (c.toNat / 16), Nat.digitChar (c.toNat % 16)]
    else [c]

/-- A string with its quotes. -/
def stringText (s : String) : List Char := '"' :: s.toList.flatMap escapeChar ++ ['"']

/-- A line end and the blanks before an item at a given depth. -/
def newLine (depth : Nat) : List Char := '\n' :: List.replicate (2 * depth) ' '

mutual

/-- A value over several lines. -/
def prettyText (depth : Nat) : Json → List Char
  | null => "null".toList
  | bool b => (if b then "true" else "false").toList
  | integer n => (toString n).toList
  | float x => (x.render numberStyle).toList
  | string s => stringText s
  | array [] => "[]".toList
  | array (v :: vs) =>
    '[' :: newLine (depth + 1) ++ prettyText (depth + 1) v ++ prettyItems (depth + 1) vs ++
      newLine depth ++ [']']
  | object [] => ['\x7b', '\x7d']
  | object ((k, v) :: ms) =>
    '\x7b' :: newLine (depth + 1) ++ stringText k ++ ": ".toList ++ prettyText (depth + 1) v ++
      prettyMembers (depth + 1) ms ++ newLine depth ++ ['\x7d']

/-- The items of an array after its first. -/
def prettyItems (depth : Nat) : List Json → List Char
  | [] => []
  | v :: vs => ',' :: newLine depth ++ prettyText depth v ++ prettyItems depth vs

/-- The members of an object after its first. -/
def prettyMembers (depth : Nat) : List (String × Json) → List Char
  | [] => []
  | (k, v) :: ms =>
    ',' :: newLine depth ++ stringText k ++ ": ".toList ++ prettyText depth v ++
      prettyMembers depth ms

end

/-- A value over several lines. -/
def pretty (v : Json) : String := String.ofList (prettyText 0 v)

mutual

/-- A value on one line. -/
def compactText : Json → List Char
  | null => "null".toList
  | bool b => (if b then "true" else "false").toList
  | integer n => (toString n).toList
  | float x => (x.render numberStyle).toList
  | string s => stringText s
  | array [] => "[]".toList
  | array (v :: vs) => '[' :: compactText v ++ compactItems vs ++ [']']
  | object [] => ['\x7b', '\x7d']
  | object ((k, v) :: ms) =>
    '\x7b' :: stringText k ++ ':' :: compactText v ++ compactMembers ms ++ ['\x7d']

/-- The items of an array after its first. -/
def compactItems : List Json → List Char
  | [] => []
  | v :: vs => ',' :: compactText v ++ compactItems vs

/-- The members of an object after its first. -/
def compactMembers : List (String × Json) → List Char
  | [] => []
  | (k, v) :: ms => ',' :: stringText k ++ ':' :: compactText v ++ compactMembers ms

end

/-- A value on one line. -/
def compact (v : Json) : String := String.ofList (compactText v)

end SqlDialect.Json
