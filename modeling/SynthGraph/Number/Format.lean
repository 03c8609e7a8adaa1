import SynthGraph.Number.Rounding

/-!
# Binary floating-point formats

A magnitude of a binary format is a natural number, its *code*: the exponent field followed by the
fraction bits.  Codes are ordered as the numbers they stand for, the code after the last finite one
is infinity, and a carry out of the fraction raises the exponent by itself.  This file reads a code
as a multiple of the least positive number of its format and finds the code nearest to a quotient.
-/

namespace SynthGraph

/-- A binary floating-point format. -/
structure FloatFormat where
  /-- How many bits follow the leading one of a significand. -/
  fractionBits : Nat
  /-- The code of infinity, which is one more than the code of the greatest finite number. -/
  infinity : Nat
  /-- The least positive number of the format is two to the minus this power. -/
  leastExponent : Nat
  /-- The width of a number in bytes, its sign included. -/
  width : Nat
  deriving DecidableEq, Repr

namespace FloatFormat

-- Powers are those of the core library, also where a larger library brings its own.
attribute [local instance (2000)] instPowNat

/-- Single precision: four bytes, twenty-three fraction bits. -/
abbrev binary32 : FloatFormat := ⟨23, 0x7F800000, 149, 4⟩

/-- Double precision: eight bytes, fifty-two fraction bits. -/
abbrev binary64 : FloatFormat := ⟨52, 0x7FF0000000000000, 1074, 8⟩

variable (F : FloatFormat)

/-- The number with code `c`, counted in the least positive number of the format.  Codes without an
exponent are the subnormal numbers; the others have a hidden leading bit. -/
def units (c : Nat) : Nat :=
  if c / 2 ^ F.fractionBits = 0 then c
  else (2 ^ F.fractionBits + c % 2 ^ F.fractionBits) * 2 ^ (c / 2 ^ F.fractionBits - 1)

/-- How many low bits of a number of `n / d` units do not fit the significand. -/
def excessBits (n d : Nat) : Nat :=
  (n / d).log2 - F.fractionBits

/-- The code nearest to `n / d` units, a half going to the even code, and infinity for whatever lies
beyond the finite numbers. -/
def nearest (n d : Nat) : Nat :=
  min F.infinity
    (F.excessBits n d * 2 ^ F.fractionBits + roundDiv n (d * 2 ^ F.excessBits n d))

/-- No quotient is rounded beyond infinity. -/
theorem nearest_lt (n d : Nat) : F.nearest n d < F.infinity + 1 :=
  Nat.lt_succ_of_le (Nat.min_le_left _ _)

/-- Subnormal codes count themselves. -/
theorem units_of_lt {c : Nat} (h : c < 2 ^ F.fractionBits) : F.units c = c := by
  simp [units, Nat.div_eq_of_lt h]

@[simp]
theorem units_zero : F.units 0 = 0 := by
  simp [units]

end FloatFormat

end SynthGraph
