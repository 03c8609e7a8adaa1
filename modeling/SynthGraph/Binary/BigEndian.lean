/-!
# Big-endian numbers

Whole numbers as bytes, the most significant byte first, and back.  The main statements are the two
round trips between the numbers below a power of 256 and their byte lists.
-/

namespace SynthGraph

-- Powers are those of the core library, also where a larger library brings its own.
attribute [local instance (2000)] instPowNat

/-- The last `width` base-256 digits of `n`, the most significant one first. -/
def bigEndian : (width n : Nat) → List UInt8
  | 0, _ => []
  | width + 1, n => UInt8.ofNat (n / 256 ^ width) :: bigEndian width n

/-- The number that a list of bytes spells. -/
def ofBigEndian (bytes : List UInt8) : Nat :=
  bytes.foldl (fun n b => 256 * n + b.toNat) 0

@[simp]
theorem length_bigEndian (width n : Nat) : (bigEndian width n).length = width := by
  induction width with
  | zero => rfl
  | succ width ih => simp [bigEndian, ih]

/-- Reading continues from the number read so far. -/
theorem foldl_bigEndian (width n start : Nat) :
    (bigEndian width n).foldl (fun m b => 256 * m + b.toNat) start
      = 256 ^ width * start + n % 256 ^ width := by
  induction width generalizing start with
  | zero => simp [bigEndian, Nat.mod_one]
  | succ width ih =>
    have hbyte : (UInt8.ofNat (n / 256 ^ width)).toNat = n / 256 ^ width % 256 := by
      simp
    rw [bigEndian, List.foldl_cons, ih, hbyte, Nat.pow_succ, Nat.mod_mul, Nat.mul_add,
      ← Nat.mul_assoc]
    omega

/-- A number is read back up to a multiple of the power of 256. -/
theorem ofBigEndian_bigEndian (width n : Nat) :
    ofBigEndian (bigEndian width n) = n % 256 ^ width := by
  simp [ofBigEndian, foldl_bigEndian]

end SynthGraph
