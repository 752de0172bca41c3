import SqlDialect.Toml.Scalar

/-!
# TOML documents

* `value?` reads a value, arrays and inline tables included;
* `Statement` is a line of a document: an entry or a header;
* `parse?` reads a whole document as the entries of its table.
-/

namespace SqlDialect.Toml

open Scan

/-- A comment, up to the end of its line. -/
def comment? : Step Unit
  | '#' :: s => some ((), s.dropWhile isPlain)
  | _ => none

/-- Blanks, line ends and comments between the items of an array. -/
def gap? : Step Unit
  | '#' :: s => comment? ('#' :: s)
  | c :: s => if isSpace c then some ((), s) else (newline? (c :: s)).map ((), ·)
  | [] => none

/-- The rest after blanks, line ends and comments. -/
def skipGap (s : List Char) : List Char := (many gap? s).2

/-! ## Keys -/

/-- A character of a bare key. -/
def isBareKey (c : Char) : Bool := c.isAlphanum || c == '_' || c == '-'

/-- One part of a key, with the blanks around it. -/
def keyPart? (s : List Char) : Option (String × List Char) := do
  let s := skipSpace s
  let (cs, s) ←
    match s.takeWhile isBareKey with
    | [] => (basicString? s).or (literalString? s)
    | cs => some (cs, s.dropWhile isBareKey)
  return (String.ofList cs, skipSpace s)

/-- The greatest number of parts of a key. -/
def keyLimit : Nat := 80

/-- A dotted key: the path to the table, and the key in it. -/
def key? (s : List Char) : Option ((List String × String) × List Char) := do
  let (parts, s) := separated (fun s => (symbol? '.' s).map ((), ·)) keyPart? s
  let last ← parts.getLast?
  if parts.length < keyLimit then some ((parts.dropLast, last), s) else none

/-! ## Values -/

/-- A key, `=` and a value. -/
def keyValue? (value : Step Value) : Step (List String × String × Value) := fun s => do
  let ((path, key), s) ← key? s
  let s ← symbol? '=' s
  let (v, s) ← value (skipSpace s)
  return ((path, key, v), s)

/-- The items of an array, from the text after its bracket. -/
def arrayItems? (value : Step Value) (s : List Char) : Option (List Value × List Char) := do
  let item : Step Value := fun s => (value (skipGap s)).map fun (v, s) => (v, skipGap s)
  let (vs, s) := separated (fun s => (symbol? ',' s).map ((), ·)) item s
  let s := if vs.isEmpty then s else opt? (symbol? ',') s
  let s ← symbol? ']' (skipGap s)
  return (vs, s)

/-- An inline table, from the text after its brace. -/
def inlineTable? (value : Step Value) (s : List Char) : Option (Value × List Char) := do
  let item : Step (List String × String × Value) := fun s =>
    (keyValue? value s).map fun (e, s) => (e, skipSpace s)
  let (entries, s) := separated (fun s => (symbol? ',' s).map ((), ·)) item s
  let s ← symbol? '\x7d' (skipSpace s)
  let node ← (Node.table .defined []).setKeys? entries
  return (node.toValue, s)

/-- A value with arrays and inline tables nested `depth` deep at most. -/
def value? : (depth : Nat) → Step Value
  | 0, s => scalar? s
  | depth + 1, s =>
    match s with
    | '[' :: s => (arrayItems? (value? depth) s).map fun (vs, s) => (.array vs, s)
    | '\x7b' :: s => inlineTable? (value? depth) s
    | s => scalar? s

/-- The depth to which arrays and inline tables may be nested. -/
def depthLimit : Nat := 79

/-! ## Documents -/

/-- A line of a document. -/
inductive Statement where
  | blank
  | entry (path : List String) (key : String) (v : Value)
  | table (path : List String) (key : String)
  | item (path : List String) (key : String)

/-- The rest after the end of a line: blanks, perhaps a comment, and the line end or the end of
the document. -/
def lineEnd? (s : List Char) : Option (List Char) :=
  let s := skipSpace s
  let s := ((comment? s).map Prod.snd).getD s
  match s with
  | [] => some []
  | s => newline? s

/-- A header in single or double brackets. -/
def header? (s : List Char) : Option (Statement × List Char) :=
  match s with
  | '[' :: '[' :: s => do
    let ((path, key), s) ← key? s
    let s ← word? [']', ']'] s
    return (.item path key, s)
  | '[' :: s => do
    let ((path, key), s) ← key? s
    let s ← symbol? ']' s
    return (.table path key, s)
  | _ => none

/-- A line, with its end. -/
def statement? (s : List Char) : Option (Statement × List Char) :=
  let s := skipSpace s
  match s with
  | [] => none
  | c :: _ =>
    if c = '#' ∨ c = '\n' ∨ c = '\r' then (lineEnd? s).map (.blank, ·)
    else if c = '[' then do
      let (h, s) ← header? s
      let s ← lineEnd? s
      return (h, s)
    else do
      let ((path, key, v), s) ← keyValue? (value? depthLimit) s
      let s ← lineEnd? s
      return (.entry path key v, s)

/-- The entries up to the next header, and the statements from there on. -/
def entriesHere : List Statement → List (List String × String × Value) × List Statement
  | .blank :: rest => entriesHere rest
  | .entry path key v :: rest =>
    let (es, rest) := entriesHere rest
    ((path, key, v) :: es, rest)
  | rest => ([], rest)

/-- Builds a document from its headers and entries. -/
def build? : Node → List Statement → Option Node
  | node, [] => some node
  | node, .table path key :: rest => do
    let node ← node.openTable? path key (entriesHere rest).1
    build? node rest
  | node, .item path key :: rest => do
    let node ← node.openItem? path key (entriesHere rest).1
    build? node rest
  | node, _ :: rest => build? node rest

/-- The text without a byte order mark at its start. -/
def skipMark : List Char → List Char
  | c :: s => if c.toNat = 0xFEFF then s else c :: s
  | [] => []

/-- Reads a document as the entries of its table. -/
def parse? (text : String) : Option (List (String × Value)) := do
  let (statements, s) := many statement? (skipMark text.toList)
  if !(skipSpace s).isEmpty then none
  let root ← (Node.table .defined []).setKeys? (entriesHere statements).1
  match ← build? root statements with
  | .table _ entries => some (Node.entryValues entries)
  | _ => none

end SqlDialect.Toml
