import SqlDialect.Decimal.Binary64

/-!
# Floats scaled by powers of ten

A whole number times a power of ten can be taken as a float in steps: the number becomes a float, the
power becomes a float, and their product or quotient is rounded once more. The result may differ in
its last digits from the float nearest to the decimal: 45 times the float of 10 to the 23 is not the
float nearest to 45 times 10 to the 23.

* `Binary64.scale` is one such step;
* `Binary64.ofScaled?` takes as many steps as the power needs, and refuses what is too large.
-/

namespace SqlDialect.Binary64

/-- The float nearest to a quotient, which may be zero. -/
def nearest (negative : Bool) (num den : Nat) : Binary64 :=
  if num = 0 then .finite negative 0 minExponent else ofRatio negative num den

/-- The float is zero. -/
def isZero : Binary64 → Bool
  | finite _ 0 _ => true
  | _ => false

/-- The greatest power of ten that is finite as a float. -/
def maxPower : Nat := 308

/-- The float of ten to the `power`. -/
def tenTo (power : Nat) : Binary64 := ofDecimal ⟨false, 1, power⟩

/-- A float multiplied by a power of ten or, if the power is negative, divided by one. The power is at
most `maxPower` either way. -/
def scale (x : Binary64) (power : Int) : Binary64 :=
  match x, tenTo power.natAbs with
  | finite negative m e, finite _ m' e' =>
    if power < 0 then
      let (up, down) := powRatio 2 (e - e')
      nearest negative (m * up) (m' * down)
    else
      let (up, down) := powRatio 2 (e + e')
      nearest negative (m * m' * up) down
  | x, _ => x

/-- A float times a power of ten. A power beyond `maxPower` is too large, except for zero; one below
is taken in steps of `maxPower`. -/
def scaled? : (steps : Nat) → Binary64 → (power : Int) → Option Binary64
  | steps, x, power =>
    if power.natAbs ≤ maxPower then
      match x.scale power with
      | infinite _ => none
      | y => some y
    else if x.isZero then some x
    else if 0 < power then none
    else
      match steps with
      | 0 => none
      | steps + 1 => scaled? steps (x.scale (-maxPower)) (power + maxPower)

/-- A number of 64 bits times a power of ten. Two steps bring any such number down to zero. -/
def ofScaled? (negative : Bool) (n : Nat) (power : Int) : Option Binary64 :=
  scaled? 2 (nearest negative n 1) power

end SqlDialect.Binary64
