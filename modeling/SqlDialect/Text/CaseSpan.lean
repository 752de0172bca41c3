/-!
# Runs of letters with a common case mapping
-/

namespace SqlDialect.Text

/-- Every `stride`-th code point from `first` to `last`; `first` is sent to `target`, the others
are moved by the same distance. -/
structure CaseSpan where
  first : Nat
  last : Nat
  stride : Nat
  target : Nat
  deriving DecidableEq, Repr

namespace CaseSpan

/-- The code point belongs to the run. -/
def covers (s : CaseSpan) (n : Nat) : Bool :=
  s.first ≤ n && n ≤ s.last && (n - s.first) % s.stride == 0

/-- The image of a character under the first run that covers it; the character itself if none
does. -/
def apply (spans : List CaseSpan) (c : Char) : Char :=
  match spans.find? (·.covers c.toNat) with
  | some s => Char.ofNat (s.target + (c.toNat - s.first))
  | none => c

end CaseSpan

end SqlDialect.Text
