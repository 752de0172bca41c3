import SqlDialect.Decimal.Binary64

/-!
# TOML values and tables

A document is a table. Its statements set values under dotted keys and open tables and arrays of
tables, and no table may be defined twice.

* `Value` is what a document holds in the end, entries in the order in which they were made;
* `Node` is a document while it is built: it also knows how a table came about;
* `Node.alterAt?` goes down a path of keys, `Node.setKey?` sets a value under a dotted key,
  `Node.openTable?` and `Node.openItem?` add a table under a header.
-/

namespace SqlDialect.Toml

/-- A TOML value. -/
inductive Value where
  | string (s : String)
  | integer (n : Int)
  | float (x : Binary64)
  | boolean (b : Bool)
  | dateTime (text : String)
  | array (items : List Value)
  | table (entries : List (String × Value))

/-- How a table came about. -/
inductive Origin where
  /-- By a header of its own, or as an inline table or the document. -/
  | defined
  /-- On the way to the table of a header. -/
  | passed
  /-- On the way of a dotted key. -/
  | dotted
  deriving DecidableEq, Repr

/-- A part of a document while it is built. -/
inductive Node where
  | value (v : Value)
  | table (origin : Origin) (entries : List (String × Node))
  | tables (items : List Node)

namespace Node

mutual

/-- The value that a finished part stands for. -/
def toValue : Node → Value
  | value v => v
  | table _ entries => .table (entryValues entries)
  | tables items => .array (itemValues items)

/-- The values of finished entries. -/
def entryValues : List (String × Node) → List (String × Value)
  | [] => []
  | (k, n) :: entries => (k, toValue n) :: entryValues entries

/-- The values of finished items. -/
def itemValues : List Node → List Value
  | [] => []
  | n :: items => toValue n :: itemValues items

end

/-- Replaces the entry with a given key in its place; a new key goes to the end. -/
def put (key : String) (node : Node) : List (String × Node) → List (String × Node)
  | [] => [(key, node)]
  | (k, n) :: entries =>
    if k = key then (k, node) :: entries else (k, n) :: put key node entries

/-- Changes the table at the end of a path. Missing tables on the way are made; of an array of
tables the last one is meant. A dotted key (`via` is `dotted`) may not go through a table that has a
definition of its own. -/
def alterAt? (via : Origin) (change : Origin → List (String × Node) → Option Node) :
    (path : List String) → Node → Option Node
  | [], table origin entries => change origin entries
  | key :: path, table origin entries =>
    let go (child : Node) : Option Node := do
      let child ← alterAt? via change path child
      return table origin (put key child entries)
    match entries.lookup key with
    | none => go (table via [])
    | some (table .defined es) => if via = .dotted then none else go (table .defined es)
    | some (table o es) => go (table o es)
    | some (tables items) => do
      let last ← items.getLast?
      let last ← alterAt? via change path last
      return table origin (put key (tables (items.dropLast ++ [last])) entries)
    | some (value _) => none
  | _, _ => none

/-- Sets a value under a dotted key. The table that gets it must have been made by dotted keys, or
be the one that the key starts from. -/
def setKey? (path : List String) (key : String) (v : Value) (node : Node) : Option Node :=
  node.alterAt? .dotted
    (fun origin entries =>
      if (origin == .dotted) == path.isEmpty then none
      else if (entries.lookup key).isSome then none
      else some (table origin (entries ++ [(key, value v)])))
    path

/-- Sets several values, in order. -/
def setKeys? (node : Node) (entries : List (List String × String × Value)) : Option Node :=
  entries.foldlM (fun n (path, key, v) => n.setKey? path key v) node

/-- Adds the table of a header with its entries. A table that headers have only passed through may
still be defined: it moves to the end and keeps what it has. -/
def openTable? (path : List String) (key : String)
    (body : List (List String × String × Value)) (node : Node) : Option Node :=
  node.alterAt? .passed
    (fun origin entries => do
      let start ←
        match entries.lookup key with
        | none => some []
        | some (table .passed es) => some es
        | some _ => none
      let filled ← (table .defined start).setKeys? body
      return table origin (entries.filter (fun e => e.1 != key) ++ [(key, filled)]))
    path

/-- Adds an item with its entries to an array of tables. -/
def openItem? (path : List String) (key : String)
    (body : List (List String × String × Value)) (node : Node) : Option Node :=
  node.alterAt? .passed
    (fun origin entries => do
      let items ←
        match entries.lookup key with
        | none => some []
        | some (tables items) => some items
        | some _ => none
      let filled ← (table .defined []).setKeys? body
      return table origin (put key (tables (items ++ [filled])) entries))
    path

end Node

end SqlDialect.Toml
