/-!
# Patterns for the values of fields

A directive may ask that a field has a value of a certain form, given by a regular expression. The
program never compares a value with one, but a filter with a pattern that makes no sense is refused
as a whole, so it has to tell which patterns make sense.

* `Pattern` and `CharSet` are patterns and the sets of characters in them;
* `Pattern.depth` is how far parts are nested;
* `Pattern.check?` follows the switch between characters and bytes through a pattern, and refuses
  what cannot be compared in either.

A pattern stands between an equals sign and a closing brace, so it holds neither of them.
-/

namespace SqlDialect.Log

namespace Pattern

/-- A switch inside a pattern. -/
inductive Flag where
  | ignoreCase
  | multiLine
  | dotAll
  | swapGreed
  | unicode
  | lineEnds
  | verbose
  deriving DecidableEq, Repr

/-- The letter of a switch. -/
def Flag.ofChar? : Char → Option Flag
  | 'i' => some ignoreCase
  | 'm' => some multiLine
  | 's' => some dotAll
  | 'U' => some swapGreed
  | 'u' => some unicode
  | 'R' => some lineEnds
  | 'x' => some verbose
  | _ => none

/-- Switches turned on and off together. -/
structure Flags where
  on : List Flag := []
  off : List Flag := []
  deriving DecidableEq, Repr

namespace Flags

/-- The new position of a switch, if it is turned at all. -/
def setting? (fs : Flags) (f : Flag) : Option Bool :=
  if fs.on.contains f then some true
  else if fs.off.contains f then some false
  else none

/-- Turns one more switch, which may not have been turned yet. -/
def add? (fs : Flags) (negated : Bool) (f : Flag) : Option Flags :=
  if (fs.setting? f).isSome then none
  else if negated then some { fs with off := f :: fs.off }
  else some { fs with on := f :: fs.on }

end Flags

/-- One character: itself, or by the number of a byte. -/
inductive Symbol where
  | char (c : Char)
  | byte (c : Char)
  deriving DecidableEq, Repr

namespace Symbol

/-- The character. -/
def value : Symbol → Char
  | char c => c
  | byte c => c

/-- The symbol is the same as a character and as a byte. -/
def isAscii (s : Symbol) : Bool := s.value.toNat < 0x80

end Symbol

/-- How two sets are combined. -/
inductive SetOp where
  | intersection
  | difference
  | symmetricDifference
  deriving DecidableEq, Repr

namespace SetOp

/-- What a combination says about one member. -/
def apply : SetOp → Bool → Bool → Bool
  | intersection, a, b => a && b
  | difference, a, b => a && !b
  | symmetricDifference, a, b => a != b

end SetOp

end Pattern

open Pattern

/-- A set of characters. -/
inductive CharSet where
  | empty
  | symbol (s : Symbol)
  | range (first last : Symbol)
  /-- A class of ASCII characters by name, such as `[:alpha:]`. -/
  | ascii (negated : Bool) (name : List Char)
  /-- Digits, blanks or word characters; a capital letter stands for all others. -/
  | shorthand (letter : Char)
  /-- A general category by its letter. -/
  | category (letter : Char)
  | bracket (negated : Bool) (inner : CharSet)
  | union (sets : List CharSet)
  | combined (op : SetOp) (left right : CharSet)

namespace CharSet

/-- Several sets as one. -/
def ofItems : List CharSet → CharSet
  | [] => empty
  | [s] => s
  | sets => union sets

/-- The letters of the general categories. -/
def categories : List Char := ['c', 'l', 'm', 'n', 'p', 's', 'z']

mutual

/-- How far a set is nested. -/
def depth : CharSet → Nat
  | bracket _ inner => inner.depth + 1
  | union sets => depthOfAll sets + 1
  | combined _ left right => max left.depth right.depth + 1
  | _ => 0

/-- How far the deepest of several sets is nested. -/
def depthOfAll : List CharSet → Nat
  | [] => 0
  | s :: sets => max s.depth (depthOfAll sets)

end

mutual

/-- Every category in the set exists. -/
def wellNamed : CharSet → Bool
  | category letter => categories.contains letter.toLower
  | bracket _ inner => inner.wellNamed
  | union sets => allWellNamed sets
  | combined _ left right => left.wellNamed && right.wellNamed
  | _ => true

/-- Every category in the sets exists. -/
def allWellNamed : List CharSet → Bool
  | [] => true
  | s :: sets => s.wellNamed && allWellNamed sets

end

mutual

/-- Whether a set of bytes has members beyond ASCII; it has either all of them or none. Characters
beyond ASCII and categories are no sets of bytes, and a bracket may not reach beyond ASCII, since
such bytes are only parts of characters. -/
def beyondAscii? : CharSet → Option Bool
  | empty => some false
  | symbol s => if s.isAscii then some false else none
  | range first last => if first.isAscii && last.isAscii then some false else none
  | ascii negated _ => some negated
  | shorthand letter => if letter.isUpper then none else some false
  | category _ => none
  | bracket negated inner => do
    let beyond ← inner.beyondAscii?
    if beyond != negated then none else some false
  | union sets => anyBeyondAscii? sets
  | combined op left right => return op.apply (← left.beyondAscii?) (← right.beyondAscii?)

/-- Whether one of several sets of bytes has members beyond ASCII. -/
def anyBeyondAscii? : List CharSet → Option Bool
  | [] => some false
  | s :: sets => return (← s.beyondAscii?) || (← anyBeyondAscii? sets)

end

/-- The set makes sense, for characters or for bytes. -/
def isSound (s : CharSet) (unicode : Bool) : Bool :=
  if unicode then s.wellNamed else s.beyondAscii? == some false

end CharSet

/-- A regular expression. -/
inductive Pattern where
  | empty
  | symbol (s : Symbol)
  | dot
  /-- A place at the end of a line or of the text. -/
  | anchor
  /-- A place next to a word, or not next to one. -/
  | wordEdge
  | oneOf (set : CharSet)
  | switch (flags : Flags)
  | iterate (p : Pattern)
  | group (flags : Flags) (p : Pattern)
  | choice (ps : List Pattern)
  | sequence (ps : List Pattern)

namespace Pattern

/-- Parts one after the other. -/
def ofItems : List Pattern → Pattern
  | [] => empty
  | [p] => p
  | ps => sequence ps

/-- One of several branches. -/
def ofBranches : List Pattern → Pattern
  | [] => empty
  | [p] => p
  | ps => choice ps

/-- A sign of repetition may follow. -/
def isRepeatable : Pattern → Bool
  | empty => false
  | switch _ => false
  | _ => true

mutual

/-- How far a pattern is nested. -/
def depth : Pattern → Nat
  | oneOf set => set.depth
  | iterate p => p.depth + 1
  | group _ p => p.depth + 1
  | choice ps => depthOfAll ps + 1
  | sequence ps => depthOfAll ps + 1
  | _ => 0

/-- How far the deepest of several patterns is nested. -/
def depthOfAll : List Pattern → Nat
  | [] => 0
  | p :: ps => max p.depth (depthOfAll ps)

end

mutual

/-- Whether characters or bytes are compared behind a pattern, if it makes sense at all. The edge of
a word is known for bytes only; a dot stands for a character only. -/
def check? (unicode : Bool) : Pattern → Option Bool
  | empty => some unicode
  | symbol (.char _) => some unicode
  | symbol (.byte c) => if unicode || c.toNat < 0x80 then some unicode else none
  | dot => if unicode then some unicode else none
  | anchor => some unicode
  | wordEdge => if unicode then none else some unicode
  | oneOf set => if set.isSound unicode then some unicode else none
  | switch flags => some ((flags.setting? .unicode).getD unicode)
  | iterate p => p.check? unicode
  | group flags p => do
    let _ ← p.check? ((flags.setting? .unicode).getD unicode)
    return unicode
  | choice ps => checkAll? unicode ps
  | sequence ps => checkAll? unicode ps

/-- As `check?`, through several patterns. -/
def checkAll? (unicode : Bool) : List Pattern → Option Bool
  | [] => some unicode
  | p :: ps => do checkAll? (← p.check? unicode) ps

end

/-- The deepest nesting allowed. -/
def maxDepth : Nat := 250

/-- The pattern makes sense: it is not nested too far, and each part can be compared. -/
def isSound (p : Pattern) : Bool := p.depth ≤ maxDepth && (p.check? true).isSome

end Pattern

end SqlDialect.Log
