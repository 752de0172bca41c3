import SqlDialect.Log.Pattern
import SqlDialect.Text.Alphanumeric
import SqlDialect.Text.Blank

/-!
# Reading patterns

`Pattern.parse?` reads a regular expression and refuses one that makes no sense. A count or a name
in braces is never complete, since a closing brace cannot occur in a pattern.

The steps follow the parts of a pattern: `escape?` behind a backslash, `groupHead?` behind an
opening parenthesis, `setBody?` between brackets, `branches?` for the whole. Each takes at least
one character before it calls itself, so the length of the text is enough fuel.
-/

namespace SqlDialect.Log.Pattern

/-- The text from its first character that is neither blank nor part of a comment. -/
def skipComments (inComment : Bool) : List Char → List Char
  | [] => []
  | c :: s =>
    if inComment then skipComments (c != '\n') s
    else if Text.isBlank c then skipComments false s
    else if c = '#' then skipComments true s
    else c :: s

/-- Blanks and comments are skipped when the pattern is verbose. -/
def skip (verbose : Bool) (s : List Char) : List Char :=
  if verbose then skipComments false s else s

/-- The first character that is neither blank nor the first sign of a comment. -/
def peekComments (inComment : Bool) : List Char → Option Char
  | [] => none
  | c :: s =>
    if Text.isBlank c then peekComments inComment s
    else if c = '#' && !inComment then peekComments true s
    else some c

/-- The next character, behind blanks if the pattern is verbose. -/
def peek (verbose : Bool) (s : List Char) : Option Char :=
  if verbose then (peekComments false s).or s.head? else s.head?

/-- The value of a hexadecimal digit. -/
def hexDigit? (c : Char) : Option Nat :=
  if c.isDigit then some (c.toNat - '0'.toNat)
  else if 'a' ≤ c && c ≤ 'f' then some (c.toNat - 'a'.toNat + 10)
  else if 'A' ≤ c && c ≤ 'F' then some (c.toNat - 'A'.toNat + 10)
  else none

/-- Reads a number of hexadecimal digits. -/
def hexNumber? (verbose : Bool) : (digits value : Nat) → List Char → Option (Nat × List Char)
  | 0, value, s => some (value, s)
  | _ + 1, _, [] => none
  | digits + 1, value, c :: s => do
    let d ← hexDigit? c
    hexNumber? verbose digits (16 * value + d) (skip verbose s)

/-- How many digits follow a letter that starts a code point. -/
def hexLength? : Char → Option Nat
  | 'x' => some 2
  | 'u' => some 4
  | 'U' => some 8
  | _ => none

/-- The control that a letter stands for. -/
def control? : Char → Option Char
  | 'a' => some '\x07'
  | 'f' => some '\x0c'
  | 't' => some '\t'
  | 'n' => some '\n'
  | 'r' => some '\r'
  | 'v' => some '\x0b'
  | _ => none

/-- Behind a backslash the character stands for itself. -/
def isEscapable (c : Char) : Bool :=
  c.toNat < 0x80 && !c.isAlphanum && c != '<' && c != '>'

/-- Reads a character by its code point. -/
def codePoint? (verbose : Bool) (letter : Char) (digits : Nat) (s : List Char) :
    Option (Pattern × List Char) := do
  let (n, s) ← hexNumber? verbose digits 0 (skip verbose s)
  if n.isValidChar then
    let c := Char.ofNat n
    return (.symbol (if letter = 'x' then .byte c else .char c), s)
  else none

/-- Reads a category behind its backslash and `p`. -/
def category? (verbose : Bool) (s : List Char) : Option (Pattern × List Char) :=
  match skip verbose s with
  | [] => none
  | c :: s =>
    if c = '\\' || c = '\x7b' then none
    else some (.oneOf (.category c), skip verbose s)

/-- Reads what follows a backslash. -/
def escape? (verbose : Bool) : List Char → Option (Pattern × List Char)
  | [] => none
  | c :: s =>
    match hexLength? c, control? c with
    | some digits, _ => codePoint? verbose c digits s
    | none, some ctrl => some (.symbol (.char ctrl), s)
    | none, none =>
      if c = 'p' || c = 'P' then category? verbose s
      else if ['d', 's', 'w', 'D', 'S', 'W'].contains c then some (.oneOf (.shorthand c), s)
      else if c = 'A' || c = 'z' then some (.anchor, s)
      else if ['b', 'B', '<', '>'].contains c then some (.wordEdge, s)
      else if isEscapable c then some (.symbol (.char c), s)
      else none

/-- The names of the classes of ASCII characters. -/
def asciiNames : List (List Char) :=
  ["alnum", "alpha", "ascii", "blank", "cntrl", "digit", "graph", "lower", "print", "punct",
   "space", "upper", "word", "xdigit"].map String.toList

/-- Reads a class by its name, behind the opening bracket. -/
def asciiClass? : List Char → Option (CharSet × List Char)
  | ':' :: s =>
    let (negated, s) := match s with
      | '^' :: s => (true, s)
      | s => (false, s)
    let name := s.takeWhile (· != ':')
    match s.dropWhile (· != ':') with
    | ':' :: ']' :: s => if asciiNames.contains name then some (.ascii negated name, s) else none
    | _ => none
  | _ => none

/-- One member of a set, or what stands for several. -/
def member? (verbose : Bool) : List Char → Option (CharSet × List Char)
  | [] => none
  | '\\' :: s =>
    match escape? verbose s with
    | some (.symbol c, s) => some (.symbol c, s)
    | some (.oneOf set, s) => some (set, s)
    | _ => none
  | c :: s => some (.symbol (.char c), s)

/-- Reads a member of a set or a range of them. A minus sign at the end of the set, or before
another one, makes no range. -/
def range? (verbose : Bool) (s : List Char) : Option (CharSet × List Char) := do
  let (first, s) ← member? verbose s
  match skip verbose s with
  | [] => none
  | c :: s =>
    if c != '-' || peek verbose s == some ']' || peek verbose s == some '-' then
      return (first, c :: s)
    let (last, s) ← member? verbose (skip verbose s)
    match first, last with
    | .symbol a, .symbol b =>
      if a.value ≤ b.value then return (.range a b, s) else none
    | _, _ => none

/-- Reads a sign that combines two sets. -/
def setOp? : List Char → Option (SetOp × List Char)
  | '&' :: '&' :: s => some (.intersection, s)
  | '-' :: '-' :: s => some (.difference, s)
  | '~' :: '~' :: s => some (.symmetricDifference, s)
  | _ => none

/-- Combines a set with the one before it. -/
def combine (left : Option (SetOp × CharSet)) (set : CharSet) : CharSet :=
  match left with
  | none => set
  | some (op, before) => .combined op before set

/-- A caret behind an opening bracket turns the set around. -/
def negation (verbose : Bool) (s : List Char) : Bool × List Char :=
  match skip verbose s with
  | '^' :: s => (true, s)
  | s => (false, s)

/-- Reads a set up to its closing bracket. While `leading` holds, minus signs stand for themselves,
and so does a closing bracket before anything else. -/
def setBody? (verbose : Bool) : (fuel : Nat) → (leading : Bool) →
    (left : Option (SetOp × CharSet)) → (items : List CharSet) → List Char →
    Option (CharSet × List Char)
  | 0, _, _, _, _ => none
  | fuel + 1, leading, left, items, s =>
    match skip verbose s with
    | [] => none
    | c :: s =>
      if leading && c = '-' then
        setBody? verbose fuel true left (.symbol (.char c) :: items) s
      else if leading && c = ']' && items.isEmpty then
        setBody? verbose fuel false left [.symbol (.char c)] s
      else if c = ']' then some (combine left (.ofItems items), s)
      else if c = '[' then
        match asciiClass? s with
        | some (set, s) => setBody? verbose fuel false left (set :: items) s
        | none => do
          let (negated, s) := negation verbose s
          let (inner, s) ← setBody? verbose fuel true none [] s
          setBody? verbose fuel false left (.bracket negated inner :: items) s
      else
        match setOp? (c :: s) with
        | some (op, s) =>
          setBody? verbose fuel false (some (op, combine left (.ofItems items))) [] s
        | none => do
          let (set, s) ← range? verbose (c :: s)
          setBody? verbose fuel false left (set :: items) s

/-- Reads a set behind its opening bracket. -/
def bracket? (verbose : Bool) (s : List Char) : Option (CharSet × List Char) := do
  let (negated, s) := negation verbose s
  let (inner, s) ← setBody? verbose (s.length + 1) true none [] s
  return (.bracket negated inner, s)

/-- A place in a pattern: what is left to read, and what the part before it has settled. -/
structure Place where
  rest : List Char
  verbose : Bool := false
  names : List (List Char) := []

/-- The place without the blanks and comments that can be skipped there. -/
def Place.skipped (p : Place) : Place := { p with rest := skip p.verbose p.rest }

/-- What an opening parenthesis starts. -/
inductive Head where
  /-- Switches up to the end of the group around them. -/
  | switch (flags : Flags)
  /-- A group of its own. -/
  | group (flags : Flags)

/-- The name of a group. -/
def isName : List Char → Bool
  | [] => false
  | c :: cs =>
    (c == '_' || Text.isAlphabetic c) &&
      cs.all fun c => ['_', '.', '[', ']'].contains c || Text.isAlphanumeric c

/-- Reads the name of a group, up to its closing angle. No two groups have the same name. -/
def named? (p : Place) (s : List Char) : Option (Head × Place) :=
  let name := s.takeWhile (· != '>')
  match s.dropWhile (· != '>') with
  | [] => none
  | _ :: s =>
    if isName name && !p.names.contains name then
      some (.group {}, { p with rest := s, names := name :: p.names })
    else none

/-- Reads switches up to the colon or parenthesis behind them. One minus sign may stand before those
to be turned off, and there must be some. -/
def flags? (flags : Flags) (negated dangling : Bool) : List Char →
    Option (Flags × Char × List Char)
  | [] => none
  | c :: s =>
    if c = ':' || c = ')' then
      if dangling then none else some (flags, c, s)
    else if c = '-' then
      if negated then none else flags? flags true true s
    else do
      let f ← Flag.ofChar? c
      flags? (← flags.add? negated f) negated false s

/-- Reads what follows an opening parenthesis. Looking ahead or behind is not possible. -/
def groupHead? (p : Place) : Option (Head × Place) :=
  match skip p.verbose p.rest with
  | '?' :: '=' :: _ => none
  | '?' :: '!' :: _ => none
  | '?' :: '<' :: '=' :: _ => none
  | '?' :: '<' :: '!' :: _ => none
  | '?' :: 'P' :: '<' :: s => named? p s
  | '?' :: '<' :: s => named? p s
  | '?' :: s => do
    let (flags, closing, s) ← flags? {} false false s
    if closing = ':' then return (.group flags, { p with rest := s })
    else if flags = {} then none
    else return (.switch flags, { p with rest := s })
  | s => some (.group {}, { p with rest := s })

/-- A question mark behind a sign of repetition belongs to it. -/
def dropLazy : List Char → List Char
  | '?' :: s => s
  | s => s

/-- Reads one part that is neither a group nor a repetition. -/
def single? (verbose : Bool) : List Char → Option (Pattern × List Char)
  | [] => none
  | c :: s =>
    if c = '[' then (bracket? verbose s).map fun (set, s) => (.oneOf set, s)
    else if c = '\\' then escape? verbose s
    else if c = '\x7b' then none
    else if c = '.' then some (.dot, s)
    else if c = '^' || c = '$' then some (.anchor, s)
    else some (.symbol (.char c), s)

/-- Reads a pattern up to a parenthesis that closes it, or to the end. The branches and the parts of
the last branch so far come in reverse. -/
def branches? : (fuel : Nat) → Place → (branches items : List Pattern) → Option (Pattern × Place)
  | 0, _, _, _ => none
  | fuel + 1, p, branches, items =>
    let p := p.skipped
    let done := ofBranches (ofItems items.reverse :: branches).reverse
    match p.rest with
    | [] => some (done, p)
    | c :: s =>
      if c = ')' then some (done, p)
      else if c = '|' then
        branches? fuel { p with rest := s } (ofItems items.reverse :: branches) []
      else if c = '(' then do
        let (head, q) ← groupHead? { p with rest := s }
        match head with
        | .switch flags =>
          branches? fuel { q with verbose := (flags.setting? .verbose).getD p.verbose } branches
            (.switch flags :: items)
        | .group flags =>
          let (inner, q) ← branches? fuel
            { q with verbose := (flags.setting? .verbose).getD p.verbose } [] []
          match q.rest with
          | ')' :: s =>
            branches? fuel { q with rest := s, verbose := p.verbose } branches
              (.group flags inner :: items)
          | _ => none
      else if c = '*' || c = '+' || c = '?' then
        match items with
        | last :: before =>
          if last.isRepeatable then
            branches? fuel { p with rest := dropLazy s } branches (.iterate last :: before)
          else none
        | [] => none
      else do
        let (item, s) ← single? p.verbose (c :: s)
        branches? fuel { p with rest := s } branches (item :: items)

/-- Reads a pattern that makes sense. -/
def parse? (s : List Char) : Option Pattern := do
  let (p, q) ← branches? (s.length + 1) { rest := s } [] []
  if q.rest.isEmpty && p.isSound then return p else none

end SqlDialect.Log.Pattern
