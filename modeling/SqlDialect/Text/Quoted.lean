import SqlDialect.Text.Unprintable

/-!
# Quoted text in messages

A text in double quotes, with a backslash before double quotes and backslashes, short codes for
the usual controls, and the code point for every other character that cannot be seen by itself.
-/

namespace SqlDialect.Text

/-- A character by its code point. -/
def codeEscape (c : Char) : List Char :=
  "\\u\x7b".toList ++ (Nat.toDigits 16 c.toNat) ++ "\x7d".toList

/-- A character as it stands in quoted text. -/
def quotedChar (c : Char) : List Char :=
  match c with
  | '\x00' => "\\0".toList
  | '\t' => "\\t".toList
  | '\r' => "\\r".toList
  | '\n' => "\\n".toList
  | '\\' => "\\\\".toList
  | '"' => "\\\"".toList
  | c =>
    if c.toNat < 0x7F ∧ 0x20 ≤ c.toNat then [c]
    else if isExtender c || isFiller c || isUnprintable c then codeEscape c
    else [c]

/-- A text in double quotes. -/
def quoted (s : String) : String :=
  String.ofList ('"' :: s.toList.flatMap quotedChar ++ ['"'])

end SqlDialect.Text
