import SqlDialect.Log.Event
import SqlDialect.Log.Pattern.Parser

/-!
# Directives of a log filter

A directive such as `sqlshift::config=debug` says up to which level the events of a target are
logged. In brackets it may name a span, and fields with or without a value.

* `Directive.fits` tells which events a directive speaks about;
* `Directive.order` compares two directives by how specific they are;
* `Directive.parse?` reads one.
-/

namespace SqlDialect.Log

/-- A directive: events whose target starts with `target` and that have all the fields are logged
up to a level. One that names a span or the value of a field fits no event here. -/
structure Directive where
  target : Option (List Char) := none
  fields : List (List Char) := []
  confined : Bool := false
  level : Level := .trace
  deriving DecidableEq, Repr

namespace Directive

/-- The directive speaks about the event. -/
def fits (d : Directive) (e : Event) : Bool :=
  !d.confined && (d.target.getD []).isPrefixOf e.target.toList &&
    d.fields.all fun f => f == "message".toList || e.fields.any fun (k, _) => k.toList == f

/-- The length of a text in bytes. -/
def byteLength (s : List Char) : Nat := s.foldl (fun n c => n + c.utf8Size) 0

/-- The length of the target; no target is shorter than any. -/
def targetLength (d : Directive) : Nat := (d.target.map fun t => byteLength t + 1).getD 0

/-- How specific two directives are: by the length of their targets, by the number of their fields,
then by the letters of both. -/
def order (a b : Directive) : Ordering :=
  (compare a.targetLength b.targetLength).then <|
  (compare a.fields.length b.fields.length).then <|
  (compare (a.target.getD []) (b.target.getD [])).then <|
  compare a.fields b.fields

/-- A number, with or without a sign, a point and a power of ten. -/
def isDecimal (s : List Char) : Bool :=
  let whole := s.takeWhile Char.isDigit
  let (places, s) := match s.dropWhile Char.isDigit with
    | '.' :: s => (s.takeWhile Char.isDigit, s.dropWhile Char.isDigit)
    | s => ([], s)
  let power := match s with
    | [] => true
    | e :: s =>
      let digits := match s with
        | '+' :: s => s
        | '-' :: s => s
        | s => s
      (e == 'e' || e == 'E') && !digits.isEmpty && digits.all Char.isDigit
  !(whole.isEmpty && places.isEmpty) && power

/-- A number as a field may have it, the infinite ones and that which is none included. -/
def isNumber (s : List Char) : Bool :=
  let s := match s with
    | '+' :: s => s
    | '-' :: s => s
    | s => s
  isDecimal s || ["inf", "infinity", "nan"].any fun w => w.toList == s.map Char.toLower

/-- The value of a field can be compared: it is a number or a pattern. -/
def isValue (s : List Char) : Bool := isNumber s || (Pattern.parse? s).isSome

/-- The parts of a directive that a reader has to tell apart. -/
inductive State where
  | start
  | target
  | span (first : Nat)
  | field (first : Nat)
  | fields
  | close
  | level (first : Nat)
  deriving DecidableEq, Repr

/-- The text behind a number of bytes, if a character starts there. -/
def dropBytes? : Nat → List Char → Option (List Char)
  | 0, s => some s
  | _ + 1, [] => none
  | n + 1, c :: s => if c.utf8Size ≤ n + 1 then dropBytes? (n + 1 - c.utf8Size) s else none

/-- The text of a number of bytes, if a character ends there. -/
def takeBytes? : Nat → List Char → Option (List Char)
  | 0, _ => some []
  | _ + 1, [] => none
  | n + 1, c :: s =>
    if c.utf8Size ≤ n + 1 then (takeBytes? (n + 1 - c.utf8Size) s).map (c :: ·) else none

/-- The text from one position up to another, in bytes. -/
def slice? (s : List Char) (first last : Nat) : Option (List Char) := do
  dropBytes? first (← takeBytes? last s)

/-- Reads a field: its name, and a value up to the next equals sign. A field with a value fits no
event here, but the value has to make sense. -/
def addField? (d : Directive) (field : List Char) : Option Directive :=
  let name := field.takeWhile (· != '=')
  match field.dropWhile (· != '=') with
  | [] => if name.isEmpty then none else some { d with fields := d.fields ++ [name] }
  | _ :: value =>
    if isValue (value.takeWhile (· != '=')) then
      some { d with fields := d.fields ++ [name], confined := true }
    else none

/-- One character of a directive, at a position of `s`. -/
def step? (s : List Char) (d : Directive) (state : State) (i : Nat) (c : Char) :
    Option (Directive × State) :=
  match state with
  | .start =>
    if c = '[' then some (d, .span (i + 1))
    else if ['-', ':', '_'].contains c || Text.isAlphanumeric c then some (d, .target)
    else none
  | .target =>
    if c = '=' then do return ({ d with target := some (← slice? s 0 i) }, .level (i + 1))
    else if c = '[' then do return ({ d with target := some (← slice? s 0 i) }, .span (i + 1))
    else some (d, .target)
  | .span first =>
    if c = ']' then do
      let _ ← slice? s first i
      return ({ d with confined := true }, .close)
    else if c = '\x7b' then do
      let name ← slice? s first i
      return ({ d with confined := d.confined || !name.isEmpty }, .field (i + 1))
    else some (d, .span first)
  | .field first =>
    if c = '\x7d' then do
      return (← addField? d (← slice? s first i), .fields)
    else some (d, .field first)
  | .fields => if c = ']' then some (d, .close) else none
  | .close => if c = '=' then some (d, .level (i + 1)) else none
  | .level first => some (d, .level first)

/-- Goes through the characters of a directive. -/
def readFrom? (s : List Char) (d : Directive) (state : State) :
    (i : Nat) → List Char → Option (Directive × State)
  | _, [] => some (d, state)
  | i, c :: cs => do
    let (d, state) ← step? s d state i c
    readFrom? s d state (i + c.utf8Size) cs

/-- Reads a directive: a level, a target, or a target and a level. A target alone means all levels.
Positions are counted from the first character that is not blank, but taken from the beginning, so
blanks before a directive become part of its target. -/
def parse? (s : List Char) : Option Directive := do
  let (d, state) ← readFrom? s {} .start 0 (Text.trim s)
  match state with
  | .target =>
    match Level.parse? s with
    | some level => some { d with level }
    | none => some { d with target := some s }
  | .level first =>
    match ← dropBytes? first s with
    | [] => some d
    | name => (Level.parse? name).map fun level => { d with level }
  | .close => some d
  | _ => none

end Directive

end SqlDialect.Log
