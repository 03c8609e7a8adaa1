import SynthGraph.Number.Format

/-!
# Floating-point data

A datum of a format has a sign and is a number, an infinity among them, or not a number.  The file
adds the numeric order, in which the two zeros are equal and what is not a number has no place, the
conversion between formats, and the bits.
-/

namespace SynthGraph

-- Powers are those of the core library, also where a larger library brings its own.
attribute [local instance (2000)] instPowNat

/-- A datum of the format `F`: a sign, and the code of a magnitude unless it is not a number. -/
inductive FloatDatum (F : FloatFormat) where
  | nan (negative : Bool)
  | signed (negative : Bool) (code : Fin (F.infinity + 1))
  deriving DecidableEq

/-- Single-precision data. -/
abbrev Binary32 := FloatDatum .binary32

/-- Double-precision data. -/
abbrev Binary64 := FloatDatum .binary64

namespace FloatDatum

variable {F : FloatFormat}

/-- The zero of a sign. -/
def zero (negative : Bool) : FloatDatum F :=
  .signed negative ⟨0, Nat.succ_pos _⟩

/-- The infinity of a sign. -/
def infinity (negative : Bool) : FloatDatum F :=
  .signed negative ⟨F.infinity, Nat.lt_succ_self _⟩

/-- The datum of a sign nearest to a quotient of units. -/
def ofQuotient (negative : Bool) (n d : Nat) : FloatDatum F :=
  .signed negative ⟨F.nearest n d, F.nearest_lt n d⟩

instance : Inhabited (FloatDatum F) := ⟨zero false⟩

/-- A datum is finite when it is a number below infinity. -/
def isFinite : FloatDatum F → Bool
  | nan _ => false
  | signed _ c => decide (c.val < F.infinity)

/-! ### Order -/

/-- The place of a datum in the numeric order: both zeros stand at `0`, and what is not a number
stands nowhere. -/
def rank? : FloatDatum F → Option Int
  | nan _ => none
  | signed true c => some (-(c.val : Int))
  | signed false c => some (c.val : Int)

/-- Numeric `a > b`, false as soon as one of the two is not a number. -/
def exceeds (a b : FloatDatum F) : Bool :=
  match a.rank?, b.rank? with
  | some x, some y => decide (y < x)
  | _, _ => false

/-- The same number, the two zeros being one; all that is not a number counts as one as well. -/
def sameNumber (a b : FloatDatum F) : Bool :=
  a.rank? == b.rank?

/-! ### Conversion between formats -/

/-- The nearest datum of another format.  A finite number too great for it becomes infinite. -/
def convert (G : FloatFormat) : FloatDatum F → FloatDatum G
  | nan negative => .nan negative
  | signed negative c =>
    if c.val = F.infinity then .infinity negative
    else .ofQuotient negative (F.units c * 2 ^ G.leastExponent) (2 ^ F.leastExponent)

/-- Single precision, or nothing for a finite number that would become infinite. -/
def narrow? (x : Binary64) : Option Binary32 :=
  let narrowed := x.convert .binary32
  if x.isFinite && !narrowed.isFinite then none else some narrowed

/-- The double-precision datum of the same value. -/
def widen (x : Binary32) : Binary64 :=
  x.convert .binary64

/-! ### Bits -/

/-- The bit of a sign. -/
def signBit (F : FloatFormat) (negative : Bool) : Nat :=
  if negative then 2 ^ (8 * F.width - 1) else 0

/-- The bits of a datum: the sign above the code.  What is not a number is written as infinity with
the highest fraction bit set. -/
def bits : FloatDatum F → Nat
  | nan negative => signBit F negative + (F.infinity + 2 ^ (F.fractionBits - 1))
  | signed negative c => signBit F negative + c.val

end FloatDatum

end SynthGraph
