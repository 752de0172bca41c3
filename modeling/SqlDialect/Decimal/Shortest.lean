import SqlDialect.Decimal.Binary64

/-!
# The shortest decimal of a float

A float is written with the fewest digits that read back as the same float; of two such decimals
the nearer one is taken. `NumberStyle` says which one to take when both are equally near, when the
power of ten is written out, and how.

* `Binary64.shortest?` gives the decimal;
* `Binary64.render` writes it.
-/

namespace SqlDialect

/-- How floats are written. -/
structure NumberStyle where
  /-- Of two decimals equally near, the upper one is taken, not the even one. -/
  halfUp : Bool
  /-- When a decimal is written without a power of ten, by the place of its point: the number of
  digits before the point, or of zeros behind it if negative. -/
  positional : Int → Bool
  /-- A power of ten that is not negative has a plus sign. -/
  plusSign : Bool

namespace Binary64

/-- The decimals of a grid next to a positive float that read back as it, the nearer one first.
The grid has steps of ten to the `p`. -/
def onGrid (halfUp : Bool) (m : Nat) (e p : Int) : List Nat :=
  let (up2, down2) := powRatio 2 (e - 2)
  let (up10, down10) := powRatio 10 p
  let unit := up2 * down10
  let value := 4 * m * unit
  let least := (if m = Nat.pow 2 52 ∧ minExponent < e then 4 * m - 1 else 4 * m - 2) * unit
  let most := (4 * m + 2) * unit
  let step := up10 * down2
  let n := value / step
  let reads (k : Nat) : Bool :=
    if m % 2 = 0 then least ≤ k * step && k * step ≤ most
    else least < k * step && k * step < most
  let twice := 2 * (value % step)
  let below := twice < step || (twice == step && !halfUp && n % 2 == 0)
  let order := if below then [n, n + 1] else [n + 1, n]
  order.filter reads

/-- The decimal on the first grid that has one, from steps of ten to the `p` downwards. -/
def coarsest? (halfUp : Bool) (m : Nat) (e : Int) : (tries : Nat) → (p : Int) → Option (Nat × Int)
  | 0, _ => none
  | tries + 1, p =>
    match onGrid halfUp m e p with
    | n :: _ => some (n, p)
    | [] => coarsest? halfUp m e tries (p - 1)

/-- The shortest decimal that reads back as a finite float. -/
def shortest? (halfUp : Bool) : Binary64 → Option Decimal
  | finite negative 0 _ => some ⟨negative, 0, 0⟩
  | finite negative m e => (coarsest? halfUp m e 700 310).map fun (n, p) => ⟨negative, n, p⟩
  | infinite _ => none
  | nan => none

end Binary64

namespace Decimal

/-- The digits with the point in its place; one digit at least on either side. -/
def positionalText (digits : String) (exponent : Int) : String :=
  let point := (digits.length : Int) + exponent
  if 0 ≤ exponent then digits ++ String.ofList (List.replicate exponent.toNat '0') ++ ".0"
  else if 0 < point then
    String.ofList (digits.toList.take point.toNat) ++ "." ++
      String.ofList (digits.toList.drop point.toNat)
  else "0." ++ String.ofList (List.replicate (-point).toNat '0') ++ digits

/-- A power of ten as it stands behind the digits. -/
def powerText (plusSign : Bool) (power : Int) : String :=
  if plusSign && 0 ≤ power then s!"+{power}" else toString power

/-- The digits with the point behind the first one, and the power of ten. -/
def scientificText (plusSign : Bool) (digits : String) (exponent : Int) : String :=
  let power := powerText plusSign ((digits.length : Int) + exponent - 1)
  match digits.toList with
  | [] => ""
  | [d] => s!"{d}e{power}"
  | d :: ds =>
    let rest := String.ofList ds
    s!"{d}.{rest}e{power}"

/-- A decimal in a given style. -/
def render (style : NumberStyle) (d : Decimal) : String :=
  let digits := toString d.digits
  let sign := if d.negative then "-" else ""
  if d.digits = 0 then sign ++ "0.0"
  else if style.positional ((digits.length : Int) + d.exponent) then
    sign ++ positionalText digits d.exponent
  else sign ++ scientificText style.plusSign digits d.exponent

end Decimal

/-- A float in a given style. -/
def Binary64.render (style : NumberStyle) (x : Binary64) : String :=
  match x, x.shortest? style.halfUp with
  | _, some d => d.render style
  | .infinite true, none => "-inf"
  | .infinite false, none => "inf"
  | _, none => "NaN"

end SqlDialect
