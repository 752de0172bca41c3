/-!
# Decimals and the numbers they stand for

A decimal is read as the nearest number of 53 binary digits, as a float of 64 bits holds it.

* `Decimal` is a number as it is written;
* `Binary64` is a float: a whole number times a power of two, or not finite;
* `Binary64.ofDecimal` rounds to the nearest, a half to the even neighbour.
-/

namespace SqlDialect

/-- A sign, a whole number and a power of ten. -/
structure Decimal where
  negative : Bool
  digits : Nat
  exponent : Int
  deriving DecidableEq, Repr

/-- A float: `mantissa` times two to the `exponent`, an infinity, or no number. -/
inductive Binary64 where
  | finite (negative : Bool) (mantissa : Nat) (exponent : Int)
  | infinite (negative : Bool)
  | nan
  deriving DecidableEq, Repr

/-- The whole number nearest to a quotient; a half goes to the even neighbour. -/
def roundDiv (num den : Nat) : Nat :=
  let q := num / den
  let r := num % den
  if 2 * r < den then q else if den < 2 * r then q + 1 else q + q % 2

/-- A power with a whole exponent, as the factor on either side of a quotient. -/
def powRatio (base : Nat) (e : Int) : Nat × Nat := 
  (Nat.pow base e.toNat, Nat.pow base (-e).toNat)

namespace Binary64

/-- The least exponent. -/
def minExponent : Int := -1074

/-- The greatest exponent. -/
def maxExponent : Int := 971

/-- The exponent with which a positive quotient has 53 binary digits, or the least one. -/
def exponentFor (num den : Nat) : Int :=
  let e := max ((num.log2 : Int) - den.log2 - 52) minExponent
  let (up, down) := powRatio 2 e
  if num * down / (den * up) < Nat.pow 2 52 then max (e - 1) minExponent else e

/-- The float nearest to a positive quotient. -/
def ofRatio (negative : Bool) (num den : Nat) : Binary64 :=
  let e := exponentFor num den
  let (up, down) := powRatio 2 e
  let m := roundDiv (num * down) (den * up)
  let (m, e) := if m = Nat.pow 2 53 then (Nat.pow 2 52, e + 1) else (m, e)
  if maxExponent < e then .infinite negative else .finite negative m e

/-- The float nearest to a decimal. -/
def ofDecimal (d : Decimal) : Binary64 :=
  let size := d.exponent + (Nat.toDigits 10 d.digits).length
  if d.digits = 0 ∨ size < -400 then .finite d.negative 0 minExponent
  else if 400 < size then .infinite d.negative
  else
    let (up, down) := powRatio 10 d.exponent
    ofRatio d.negative (d.digits * up) down

end Binary64

end SqlDialect
