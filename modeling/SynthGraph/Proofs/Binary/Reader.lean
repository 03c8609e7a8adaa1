import Mathlib.Tactic.Common
import SynthGraph.Proofs.Binary.Written

/-!
# Reading fields back

A reader takes bytes from the front and fails when there are too few of them.  This file gives the
readers of the fields of a definition file, and `Reads`, which says that a reader takes exactly
some bytes for a value, whatever follows them.  The bytes of a legal field are read back as its
value, and counted lists are read back when their elements are.
-/

namespace SynthGraph

-- Powers are those of the core library, also where a larger library brings its own.
attribute [local instance (2000)] instPowNat

/-- The datum of bits, which are the sign above the code of the magnitude.  Codes above infinity are
not numbers. -/
def FloatDatum.ofBits (F : FloatFormat) (n : Nat) : FloatDatum F :=
  let negative := decide (2 ^ (8 * F.width - 1) ≤ n)
  if h : n % 2 ^ (8 * F.width - 1) < F.infinity + 1 then
    .signed negative ⟨n % 2 ^ (8 * F.width - 1), h⟩
  else .nan negative

/-- A reader of values from the front of a list of bytes. -/
abbrev ByteReader := StateT (List UInt8) Option

namespace ByteReader

variable {α β : Type}

/-- The next bytes. -/
def take (n : Nat) : ByteReader (List UInt8) := fun bytes =>
  if n ≤ bytes.length then some (bytes.take n, bytes.drop n) else none

/-- A number without a sign. -/
def unsigned (n : Nat) : ByteReader Nat := do
  let bytes ← take n
  return ofBigEndian bytes

/-- A number in two's complement. -/
def signed (w : IntWidth) : ByteReader Int := do
  let n ← unsigned w.bytes
  return if (n : Int) < w.bound then n else n - 2 * w.bound

/-- A number in single precision. -/
def single : ByteReader Binary32 := do
  let n ← unsigned FloatFormat.binary32.width
  return .ofBits .binary32 n

/-- An ASCII text behind its length. -/
def text : ByteReader String := do
  let length ← unsigned 1
  let bytes ← take length
  if bytes.all (·.toNat < 128) then return String.ofList (bytes.map fun b => Char.ofNat b.toNat)
  else failure

/-- A number of values, one after the other. -/
def repeated (r : ByteReader α) : Nat → ByteReader (List α)
  | 0 => return []
  | n + 1 => do
    let a ← r
    let as ← repeated r n
    return a :: as

/-- A list of values behind its length.  A negative length counts nothing. -/
def counted (r : ByteReader α) : ByteReader (List α) := do
  let n ← signed .int32
  repeated r n.toNat

/-! ### What a reader takes -/

/-- The reader takes exactly these bytes for the value, whatever follows them. -/
def Reads (r : ByteReader α) (bytes : List UInt8) (a : α) : Prop :=
  ∀ rest, r (bytes ++ rest) = some (a, rest)

/-- Returning a value takes no bytes. -/
lemma Reads.pure (a : α) : Reads (pure a : ByteReader α) [] a := fun _ => rfl

/-- A sequence takes the bytes of its parts. -/
lemma Reads.bind {r : ByteReader α} {f : α → ByteReader β} {bytes more : List UInt8} {a : α} {b : β}
    (hr : Reads r bytes a) (hf : Reads (f a) more b) : Reads (r >>= f) (bytes ++ more) b := by
  intro rest
  have hunfold : ∀ input, (r >>= f) input = (r input).bind fun result => f result.1 result.2 :=
    fun _ => rfl
  rw [hunfold, List.append_assoc, hr, Option.bind_some]
  exact hf rest

/-- Computing with the value that was read takes no more bytes. -/
lemma Reads.map {r : ByteReader α} {bytes : List UInt8} {a : α} (f : α → β) (hr : Reads r bytes a) :
    Reads (r >>= fun a => Pure.pure (f a)) bytes (f a) := by
  have hbind := hr.bind (f := fun a => Pure.pure (f a)) (Reads.pure (f a))
  rwa [List.append_nil] at hbind

/-- As many bytes as are asked for are taken. -/
lemma reads_take {bytes : List UInt8} {n : Nat} (hn : bytes.length = n) :
    Reads (take n) bytes bytes := by
  subst hn
  intro rest
  simp [take]

/-- Values are read one after the other. -/
lemma reads_repeated {γ : Type} {r : ByteReader α} {encode : γ → List UInt8} {value : γ → α}
    {xs : List γ} (h : ∀ x ∈ xs, Reads r (encode x) (value x)) :
    Reads (repeated r xs.length) (xs.flatMap encode) (xs.map value) := by
  induction xs with
  | nil => exact .pure []
  | cons x xs ih =>
    rw [List.forall_mem_cons] at h
    exact h.1.bind ((ih h.2).map (value x :: ·))

/-! ### Reading fields -/

/-- A number is read back from its big-endian bytes. -/
lemma reads_unsigned {width n : Nat} (hn : n < 256 ^ width) :
    Reads (unsigned width) (bigEndian width n) n := by
  have hread := (reads_take (length_bigEndian width n)).map ofBigEndian
  rwa [ofBigEndian_bigEndian, Nat.mod_eq_of_lt hn] at hread

/-- An integer of a width is read back from its bytes. -/
lemma reads_signed {w : IntWidth} {v : Int} (hv : w.fits v = true) :
    Reads (signed w) (w.encode v) v := by
  have hrange : -w.bound ≤ v ∧ v < w.bound := of_decide_eq_true hv
  have hpower : (256 ^ w.bytes : Nat) = 2 * w.bound := by cases w <;> rfl
  have hpos : 0 < w.bound := by cases w <;> decide
  have hnonneg : 0 ≤ v % (2 * w.bound) := Int.emod_nonneg _ (by omega)
  have hlt : v % (2 * w.bound) < 2 * w.bound := Int.emod_lt_of_pos _ (by omega)
  have hwidth : (v % (2 * w.bound)).toNat < 256 ^ w.bytes := by omega
  have hread := (reads_unsigned hwidth).map fun n : Nat =>
    if (n : Int) < w.bound then (n : Int) else n - 2 * w.bound
  have hvalue : (if ((v % (2 * w.bound)).toNat : Int) < w.bound
      then ((v % (2 * w.bound)).toNat : Int) else (v % (2 * w.bound)).toNat - 2 * w.bound) = v := by
    rw [Int.toNat_of_nonneg hnonneg]
    by_cases hneg : v < 0
    · have hmod : v % (2 * w.bound) = v + 2 * w.bound := by
        rw [← Int.add_emod_right, Int.emod_eq_of_lt (by omega) (by omega)]
      rw [hmod, if_neg (by omega)]
      omega
    · rw [Int.emod_eq_of_lt (by omega) (by omega), if_pos hrange.2]
  rwa [hvalue] at hread

/-- The bits of a datum are the bit of the sign and fewer than thirty-two bits of magnitude. -/
lemma bits_binary32 (negative : Bool) {magnitude : Nat} (hm : magnitude < 2147483648) :
    FloatDatum.signBit .binary32 negative + magnitude < 256 ^ FloatFormat.binary32.width ∧
      (FloatDatum.signBit .binary32 negative + magnitude) % 2147483648 = magnitude ∧
      decide (2147483648 ≤ FloatDatum.signBit .binary32 negative + magnitude) = negative := by
  have hwidth : (256 : Nat) ^ FloatFormat.binary32.width = 4294967296 := by decide
  have hsign : FloatDatum.signBit .binary32 negative = if negative then 2147483648 else 0 := rfl
  rw [hwidth, hsign]
  cases negative with
  | false =>
    refine ⟨?_, ?_, decide_eq_false ?_⟩ <;> simp only [Bool.false_eq_true, if_false] <;> omega
  | true => refine ⟨?_, ?_, decide_eq_true ?_⟩ <;> simp only [if_true] <;> omega

/-- The bits of a datum give the datum back. -/
lemma ofBits_bits (x : Binary32) :
    x.bits < 256 ^ FloatFormat.binary32.width ∧ FloatDatum.ofBits .binary32 x.bits = x := by
  have hpower : (2 : Nat) ^ (8 * FloatFormat.binary32.width - 1) = 2147483648 := by decide
  cases x with
  | nan negative =>
    have hmagnitude : FloatFormat.binary32.infinity + 2 ^ (FloatFormat.binary32.fractionBits - 1) <
        2147483648 := by decide
    obtain ⟨hbound, hmod, hnegative⟩ := bits_binary32 negative hmagnitude
    refine ⟨hbound, ?_⟩
    simp only [FloatDatum.ofBits, FloatDatum.bits, hpower, hmod, hnegative]
    rw [dif_neg (by decide)]
  | signed negative c =>
    have hmagnitude : c.val < 2147483648 := Nat.lt_trans c.isLt (by decide)
    obtain ⟨hbound, hmod, hnegative⟩ := bits_binary32 negative hmagnitude
    refine ⟨hbound, ?_⟩
    simp only [FloatDatum.ofBits, FloatDatum.bits, hpower, hmod, hnegative]
    rw [dif_pos c.isLt]

/-- A datum of single precision is read back from its bytes. -/
lemma reads_single (x : Binary32) : Reads single (Field.singleBytes x) x := by
  obtain ⟨hbound, hvalue⟩ := ofBits_bits x
  have hread := (reads_unsigned hbound).map (FloatDatum.ofBits .binary32)
  rwa [hvalue] at hread

/-- The bytes of an ASCII text are below one hundred and twenty-eight and spell its characters. -/
lemma asciiBytes_spell {s : String} (hs : isAscii s = true) :
    (asciiBytes s).all (·.toNat < 128) = true ∧
      String.ofList ((asciiBytes s).map fun b => Char.ofNat b.toNat) = s := by
  have hascii : ∀ c ∈ s.toList, c.toNat < 128 := by simpa [isAscii] using hs
  have hbyte : ∀ c ∈ s.toList, (UInt8.ofNat c.toNat).toNat = c.toNat := by
    intro c hc
    have hlt := hascii c hc
    rw [UInt8.toNat_ofNat']
    omega
  constructor
  · rw [asciiBytes, List.all_map, List.all_eq_true]
    intro c hc
    simpa [hbyte c hc] using hascii c hc
  · have hchars : (asciiBytes s).map (fun b => Char.ofNat b.toNat) = s.toList := by
      rw [asciiBytes, List.map_map]
      refine (List.map_congr_left fun c hc => ?_).trans (List.map_id _)
      simp [hbyte c hc]
    rw [hchars, String.ofList_toList]

/-- A short name is read back from its bytes. -/
lemma reads_text {s : String} (hs : IsShortName s) :
    Reads text (UInt8.ofNat s.length :: asciiBytes s) s := by
  obtain ⟨hall, hspell⟩ := asciiBytes_spell hs.1
  have hone : s.length < 256 ^ 1 := Nat.lt_succ_of_le hs.2
  have hlength : Reads (unsigned 1) [UInt8.ofNat s.length] s.length := by
    simpa [bigEndian] using reads_unsigned hone
  rw [← List.singleton_append, ← List.append_nil (asciiBytes s)]
  refine hlength.bind ?_
  refine (reads_take (length_asciiBytes s)).bind ?_
  rw [hall, if_pos rfl, hspell]
  exact .pure s

end ByteReader

end SynthGraph
