import SynthGraph.Binary.BigEndian

/-!
# Signed integers of a width

The three widths of signed integers in a definition file, their ranges, and their bytes in two's
complement.
-/

namespace SynthGraph

/-- The width of a signed integer. -/
inductive IntWidth where
  | int8
  | int16
  | int32
  deriving DecidableEq, Repr

namespace IntWidth

/-- The number of bytes. -/
def bytes : IntWidth → Nat
  | int8 => 1
  | int16 => 2
  | int32 => 4

/-- The number after the greatest one. -/
def bound : IntWidth → Int
  | int8 => 128
  | int16 => 32768
  | int32 => 2147483648

/-- The letter that names the width in messages. -/
def letter : IntWidth → String
  | int8 => "b"
  | int16 => "h"
  | int32 => "i"

/-- The integer has this width. -/
def fits (w : IntWidth) (v : Int) : Bool :=
  decide (-w.bound ≤ v ∧ v < w.bound)

/-- The bytes of an integer in two's complement. -/
def encode (w : IntWidth) (v : Int) : List UInt8 :=
  bigEndian w.bytes (v % (2 * w.bound)).toNat

@[simp]
theorem length_encode (w : IntWidth) (v : Int) : (w.encode v).length = w.bytes := by
  simp [encode]

end IntWidth

end SynthGraph
