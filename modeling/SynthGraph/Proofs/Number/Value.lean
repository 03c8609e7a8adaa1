import Mathlib.Algebra.Order.Field.Basic
import Mathlib.Data.Rat.Cast.Order
import Mathlib.Tactic.FieldSimp
import Mathlib.Tactic.Linarith
import Mathlib.Tactic.Positivity
import Mathlib.Tactic.Ring
import SynthGraph.Proofs.Number.Order

/-!
# Exact values

A finite datum has an exact value, which is a rational number.  The numeric order of finite data is
the order of their values, and a quotient is rounded to a datum whose value is as near to it as the
value of any datum of the format.
-/

namespace SynthGraph

-- Powers are those of the core library, also where a larger library brings its own.
attribute [local instance (2000)] instPowNat

namespace FloatFormat

variable (F : FloatFormat)

/-- The magnitude with a code. -/
def magnitude (c : Nat) : ℚ := F.units c / 2 ^ F.leastExponent

/-- Magnitudes are not negative. -/
lemma magnitude_nonneg (c : Nat) : 0 ≤ F.magnitude c := by
  rw [magnitude]
  positivity

@[simp] lemma magnitude_zero : F.magnitude 0 = 0 := by
  simp [magnitude]

/-- Finite codes are ordered as their magnitudes. -/
lemma magnitude_le_magnitude_iff {c : Nat} (hc : c < F.infinity) (c' : Nat) :
    F.magnitude c ≤ F.magnitude c' ↔ c ≤ c' := by
  have hpos : (0 : ℚ) < 2 ^ F.leastExponent := by positivity
  rw [magnitude, magnitude, div_le_div_iff_of_pos_right hpos, Nat.cast_le]
  refine ⟨fun hunits => ?_, fun hcodes => F.units_mono hcodes⟩
  by_contra hlt
  exact absurd (F.units_lt_units (Nat.not_le.mp hlt) hc) (Nat.not_lt.mpr hunits)

/-- The distance of a magnitude from a quotient, as one of whole numbers. -/
lemma abs_magnitude_sub {n d : Nat} (hd : 0 < d) (c : Nat) :
    |F.magnitude c - n / d / 2 ^ F.leastExponent| =
      ((((F.units c * d : Nat) : Int) - n).natAbs : ℚ) / (d * 2 ^ F.leastExponent) := by
  have hscale : (0 : ℚ) < d * 2 ^ F.leastExponent := by positivity
  have hd' : (d : ℚ) ≠ 0 := by positivity
  have hdifference : F.magnitude c - n / d / 2 ^ F.leastExponent =
      ((F.units c * d : Nat) - n : Int) / (d * 2 ^ F.leastExponent) := by
    rw [magnitude]
    push_cast
    field_simp
  rw [hdifference, abs_div, abs_of_pos hscale, Nat.cast_natAbs, Int.cast_abs]

/-- No magnitude is nearer to a quotient than the one to which it is rounded. -/
lemma abs_magnitude_nearest_sub_le {n d : Nat} (hd : 0 < d) (hfinite : F.nearest n d < F.infinity)
    (c : Nat) : |F.magnitude (F.nearest n d) - n / d / 2 ^ F.leastExponent| ≤
      |F.magnitude c - n / d / 2 ^ F.leastExponent| := by
  have hscale : (0 : ℚ) < d * 2 ^ F.leastExponent := by positivity
  rw [F.abs_magnitude_sub hd, F.abs_magnitude_sub hd, div_le_div_iff_of_pos_right hscale,
    Nat.cast_le]
  exact F.natAbs_units_nearest_sub_le hd hfinite c

end FloatFormat

namespace FloatDatum

variable {F : FloatFormat} {a b : FloatDatum F} {x y : ℚ}

/-- The factor that a sign stands for. -/
def factor (negative : Bool) : ℚ := if negative then -1 else 1

@[simp] lemma factor_true : factor true = -1 := rfl

@[simp] lemma factor_false : factor false = 1 := rfl

/-- A sign does not change the absolute value. -/
@[simp] lemma abs_factor_mul (negative : Bool) (x : ℚ) : |factor negative * x| = |x| := by
  cases negative <;> simp

/-- The exact value of a finite datum. -/
def value? : FloatDatum F → Option ℚ
  | nan _ => none
  | signed negative c =>
    if c.val = F.infinity then none else some (factor negative * F.magnitude c)

/-- What has a value is finite, and its value is its magnitude with its sign. -/
lemma value?_eq_some_iff : a.value? = some x ↔
    ∃ negative c, c.val < F.infinity ∧ a = signed negative c ∧
      x = factor negative * F.magnitude c := by
  cases a with
  | nan negative => simp [value?]
  | signed negative c =>
    have hle : c.val ≤ F.infinity := Nat.le_of_lt_succ c.isLt
    rw [value?]
    by_cases hc : c.val = F.infinity
    · rw [if_pos hc]
      refine ⟨fun h => (by cases h), ?_⟩
      rintro ⟨negative', c', hc', hdatum, -⟩
      obtain ⟨-, rfl⟩ := signed.inj hdatum
      omega
    · rw [if_neg hc, Option.some.injEq]
      constructor
      · rintro rfl
        exact ⟨negative, c, by omega, rfl, rfl⟩
      · rintro ⟨negative', c', -, hdatum, rfl⟩
        obtain ⟨rfl, rfl⟩ := signed.inj hdatum
        rfl

/-- The value of what is finite. -/
lemma value?_signed {negative : Bool} {c : Fin (F.infinity + 1)} (hc : c.val < F.infinity) :
    (signed negative c).value? = some (factor negative * F.magnitude c) :=
  value?_eq_some_iff.mpr ⟨negative, c, hc, rfl, rfl⟩

/-- Finite data are those that have a value. -/
lemma isFinite_iff_exists_value? : a.isFinite = true ↔ ∃ x, a.value? = some x := by
  constructor
  · intro h
    cases a with
    | nan negative => cases h
    | signed negative c =>
      exact ⟨_, value?_signed (by simpa [isFinite] using h)⟩
  · rintro ⟨x, hx⟩
    obtain ⟨negative, c, hc, rfl, -⟩ := value?_eq_some_iff.mp hx
    simpa [isFinite] using hc

/-- A finite datum is a number. -/
lemma exists_rank?_of_value? (ha : a.value? = some x) : ∃ i, a.rank? = some i := by
  obtain ⟨negative, c, -, rfl, -⟩ := value?_eq_some_iff.mp ha
  exact ⟨_, rank?_signed negative c⟩

/-- The numeric order of finite data is that of their values. -/
theorem atMost_iff_le (ha : a.value? = some x) (hb : b.value? = some y) : a.AtMost b ↔ x ≤ y := by
  obtain ⟨s, c, hc, rfl, rfl⟩ := value?_eq_some_iff.mp ha
  obtain ⟨t, c', hc', rfl, rfl⟩ := value?_eq_some_iff.mp hb
  have horder : (signed s c : FloatDatum F).AtMost (signed t c') ↔
      (if s then -(c.val : Int) else c.val) ≤ (if t then -(c'.val : Int) else c'.val) := by
    simp [AtMost, rank?_signed]
  have hnonneg := F.magnitude_nonneg c
  have hnonneg' := F.magnitude_nonneg c'
  rw [horder]
  -- Magnitudes of one sign are compared; of different signs only zeros are in question.
  cases s <;> cases t <;>
    simp only [Bool.false_eq_true, if_true, if_false, factor_true, factor_false, neg_mul, one_mul]
  · rw [F.magnitude_le_magnitude_iff hc]
    omega
  · have hzero := F.magnitude_le_magnitude_iff hc 0
    have hzero' := F.magnitude_le_magnitude_iff hc' 0
    rw [F.magnitude_zero] at hzero hzero'
    constructor
    · intro hcodes
      have hle := hzero.mpr (by omega)
      have hle' := hzero'.mpr (by omega)
      linarith
    · intro hvalues
      have hle := hzero.mp (by linarith)
      have hle' := hzero'.mp (by linarith)
      omega
  · exact ⟨fun _ => by linarith, fun _ => by omega⟩
  · have hcodes := F.magnitude_le_magnitude_iff hc' c
    rw [neg_le_neg_iff, neg_le_neg_iff, hcodes]
    omega

/-- Finite data are the same number when their values are equal. -/
lemma sameNumber_iff_eq (ha : a.value? = some x) (hb : b.value? = some y) :
    a.sameNumber b = true ↔ x = y := by
  obtain ⟨i, hi⟩ := exists_rank?_of_value? ha
  obtain ⟨j, hj⟩ := exists_rank?_of_value? hb
  have hab := atMost_iff_le ha hb
  have hba := atMost_iff_le hb ha
  rw [sameNumber, beq_iff_eq]
  constructor
  · intro hrank
    rw [hi, hj, Option.some.injEq] at hrank
    exact le_antisymm (hab.mp ⟨i, j, hi, hj, hrank.le⟩) (hba.mp ⟨j, i, hj, hi, hrank.ge⟩)
  · intro heq
    exact (hab.mpr heq.le).rank?_eq (hba.mpr heq.ge)

/-- No value of the format is nearer to a quotient, with a sign, than the one to which it is
rounded. -/
theorem abs_value_nearest_sub_le {n d : Nat} (hd : 0 < d) (hfinite : F.nearest n d < F.infinity)
    (negative : Bool) (hb : b.value? = some y) :
    |factor negative * F.magnitude (F.nearest n d) -
        factor negative * (n / d / 2 ^ F.leastExponent)| ≤
      |y - factor negative * (n / d / 2 ^ F.leastExponent)| := by
  obtain ⟨s, c, -, -, rfl⟩ := value?_eq_some_iff.mp hb
  have hnearest := F.abs_magnitude_nearest_sub_le hd hfinite c
  have hzero := F.abs_magnitude_nearest_sub_le hd hfinite 0
  have hnonneg := F.magnitude_nonneg c
  have hquotient : (0 : ℚ) ≤ n / d / 2 ^ F.leastExponent := by positivity
  generalize (n / d / 2 ^ F.leastExponent : ℚ) = t at *
  rw [F.magnitude_zero, zero_sub, abs_neg, abs_of_nonneg hquotient] at hzero
  -- With the other sign a value is further away than zero is.
  cases negative <;> cases s <;>
    simp only [factor_true, factor_false, one_mul, neg_mul, sub_neg_eq_add, neg_add_eq_sub]
  · exact hnearest
  · refine hzero.trans ?_
    rw [abs_sub_comm, sub_neg_eq_add, abs_of_nonneg (by linarith)]
    linarith
  · rw [abs_sub_comm]
    refine hzero.trans ?_
    rw [abs_of_nonneg (by linarith)]
    linarith
  · rw [abs_sub_comm, abs_sub_comm t]
    exact hnearest

/-- Whole numbers of sixty-four bits are finite in double precision. -/
lemma isFinite_ofInt {n : Int} (hlow : -9223372036854775808 ≤ n) (hhigh : n < 9223372036854775808) :
    (ofInt n : Binary64).isFinite = true := by
  by_cases hzero : n.natAbs = 0
  · have hdatum : (ofInt n : Binary64) = zero (decide (n < 0)) := if_pos hzero
    rw [hdatum]
    rfl
  · have hdatum : (ofInt n : Binary64) = ofQuotient (decide (n < 0))
        (n.natAbs * 10 ^ 0 * 2 ^ FloatFormat.binary64.leastExponent) (10 ^ 0) := by
      have hscale : ¬((1074 : Nat) : Int) < 0 := by decide
      have hdigits : ¬(0 : Int) + Decimal.digitBound n.natAbs < -(1074 : Nat) := by omega
      exact (if_neg hzero).trans ((if_neg hscale).trans (if_neg hdigits))
    have hmono := FloatFormat.binary64.nearest_mono Nat.one_pos
      (show n.natAbs * 10 ^ 0 * 2 ^ FloatFormat.binary64.leastExponent ≤
          9223372036854775808 * 10 ^ 0 * 2 ^ FloatFormat.binary64.leastExponent from
        Nat.mul_le_mul_right _ (Nat.mul_le_mul_right _ (by omega)))
    have hbound : FloatFormat.binary64.nearest
        (9223372036854775808 * 10 ^ 0 * 2 ^ FloatFormat.binary64.leastExponent) 1 <
          FloatFormat.binary64.infinity := by decide +kernel
    rw [hdatum]
    exact decide_eq_true (Nat.lt_of_le_of_lt hmono hbound)

end FloatDatum

end SynthGraph
