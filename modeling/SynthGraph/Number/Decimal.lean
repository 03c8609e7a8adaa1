import SynthGraph.Number.Datum

/-!
# Decimal numbers

A decimal number is a sign, a whole number of digits and a power of ten.  This file turns one into
the nearest datum of a format, and rounds a datum to a number of decimal places, both through exact
integer arithmetic.
-/

namespace SynthGraph

-- Powers are those of the core library, also where a larger library brings its own.
attribute [local instance (2000)] instPowNat

/-- The decimal number `± digits · 10 ^ exponent`. -/
structure Decimal where
  negative : Bool
  digits : Nat
  exponent : Int
  deriving DecidableEq, Repr

namespace Decimal

/-- A bound on the number of digits of `n` that needs no division: `n` is below ten to it. -/
def digitBound (n : Nat) : Nat :=
  n.log2 / 3 + 1

/-- The datum of `F` nearest to a decimal number.  Ten to the least exponent is beyond every finite
number of the format, and its inverse is below half of the least positive one, so powers of ten that
are larger than that are never computed. -/
def toDatum (F : FloatFormat) (x : Decimal) : FloatDatum F :=
  if x.digits = 0 then .zero x.negative
  else if (F.leastExponent : Int) < x.exponent then .infinity x.negative
  else if x.exponent + digitBound x.digits < -(F.leastExponent : Int) then .zero x.negative
  else
    .ofQuotient x.negative (x.digits * 10 ^ x.exponent.toNat * 2 ^ F.leastExponent)
      (10 ^ (-x.exponent).toNat)

/-- The whole number `n` as a decimal number. -/
def ofInt (n : Int) : Decimal :=
  ⟨decide (n < 0), n.natAbs, 0⟩

end Decimal

namespace FloatDatum

variable {F : FloatFormat}

/-- The datum nearest to a whole number. -/
def ofInt (n : Int) : FloatDatum F :=
  (Decimal.ofInt n).toDatum F

/-- A magnitude to the nearest multiple of ten to the minus `places`, as that multiple's count. -/
def placesCount (F : FloatFormat) (places code : Nat) : Nat :=
  roundDiv (F.units code * 10 ^ places) (2 ^ F.leastExponent)

/-- The datum nearest to the decimal with `places` decimal places that is nearest to `x`.  The
decimal is found from the exact value of `x`, an exact tie going to the even last digit; signs and
infinities stay. -/
def roundPlaces (places : Nat) : FloatDatum F → FloatDatum F
  | nan negative => nan negative
  | signed negative c =>
    if c.val = F.infinity then .infinity negative
    else .ofQuotient negative (placesCount F places c * 2 ^ F.leastExponent) (10 ^ places)

end FloatDatum

end SynthGraph
