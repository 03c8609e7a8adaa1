import Mathlib.Tactic.Common
import SynthGraph.Number.Datum

/-!
# Exact conversions

A quotient that is a number of a format is rounded to the code of that number.  Every significand
below twice the leading bit is a number of the format at every exponent that its infinity leaves
room for, so single precision embeds into double precision, and narrowing a widened number gives it
back.
-/

namespace SynthGraph

-- Powers are those of the core library, also where a larger library brings its own.
attribute [local instance (2000)] instPowNat

namespace FloatFormat

variable (F : FloatFormat)

/-! ### Significands and exponents -/

/-- A number with an exponent, in units: the hidden bit and the fraction, shifted. -/
lemma units_of_exponent {e r : Nat} (hr : r < 2 ^ F.fractionBits) :
    F.units ((e + 1) * 2 ^ F.fractionBits + r) = (2 ^ F.fractionBits + r) * 2 ^ e := by
  have hpos : 0 < 2 ^ F.fractionBits := Nat.two_pow_pos _
  have hdiv : ((e + 1) * 2 ^ F.fractionBits + r) / 2 ^ F.fractionBits = e + 1 := by
    rw [Nat.mul_comm, Nat.mul_add_div hpos, Nat.div_eq_of_lt hr, Nat.add_zero]
  have hmod : ((e + 1) * 2 ^ F.fractionBits + r) % 2 ^ F.fractionBits = r := by
    rw [Nat.mul_comm, Nat.mul_add_mod, Nat.mod_eq_of_lt hr]
  rw [units, hdiv, hmod, if_neg (Nat.succ_ne_zero e), Nat.add_sub_cancel]

/-- A code is that of a subnormal number, or it has an exponent and a fraction. -/
lemma code_cases (c : Nat) :
    c < 2 ^ F.fractionBits ∨
      ∃ e r, r < 2 ^ F.fractionBits ∧ c = (e + 1) * 2 ^ F.fractionBits + r := by
  have hpos : 0 < 2 ^ F.fractionBits := Nat.two_pow_pos _
  rcases Nat.lt_or_ge c (2 ^ F.fractionBits) with hlt | hge
  · exact .inl hlt
  · have hquotient : 0 < c / 2 ^ F.fractionBits := Nat.div_pos hge hpos
    obtain ⟨e, he⟩ := Nat.exists_eq_succ_of_ne_zero (Nat.ne_of_gt hquotient)
    refine .inr ⟨e, c % 2 ^ F.fractionBits, Nat.mod_lt _ hpos, ?_⟩
    rw [← Nat.succ_eq_add_one, ← he, Nat.mul_comm]
    exact (Nat.div_add_mod _ _).symm

/-- Every code stands for a significand of the format at some exponent. -/
lemma exists_significand (c : Nat) :
    ∃ m e, m < 2 * 2 ^ F.fractionBits ∧ e * 2 ^ F.fractionBits ≤ c ∧ F.units c = m * 2 ^ e := by
  rcases F.code_cases c with hlt | ⟨e, r, hr, rfl⟩
  · exact ⟨c, 0, by omega, by omega, by rw [F.units_of_lt hlt]; simp⟩
  · refine ⟨2 ^ F.fractionBits + r, e, by omega, ?_, F.units_of_exponent hr⟩
    rw [Nat.add_mul]
    omega

/-- Every significand of the format at an exponent is a number with a code that is not much greater
than the exponent field. -/
lemma exists_code {m : Nat} (hm : m < 2 * 2 ^ F.fractionBits) (e : Nat) :
    ∃ c, c < (e + 2) * 2 ^ F.fractionBits ∧ F.units c = m * 2 ^ e := by
  induction e generalizing m with
  | zero =>
    rcases Nat.lt_or_ge m (2 ^ F.fractionBits) with hlt | hge
    · exact ⟨m, by omega, by rw [F.units_of_lt hlt]; simp⟩
    · refine ⟨m, by omega, ?_⟩
      have hunits := F.units_of_exponent (e := 0) (r := m - 2 ^ F.fractionBits) (by omega)
      rw [Nat.zero_add, Nat.one_mul, Nat.add_sub_cancel' hge] at hunits
      exact hunits
  | succ e ih =>
    rcases Nat.lt_or_ge m (2 ^ F.fractionBits) with hlt | hge
    · obtain ⟨c, hc, hunits⟩ := ih (m := 2 * m) (by omega)
      refine ⟨c, ?_, ?_⟩
      · rw [Nat.add_mul] at hc ⊢
        rw [Nat.add_mul]
        omega
      · rw [hunits, Nat.pow_succ]
        ac_rfl
    · have hr : m - 2 ^ F.fractionBits < 2 ^ F.fractionBits := by omega
      refine ⟨(e + 1 + 1) * 2 ^ F.fractionBits + (m - 2 ^ F.fractionBits), ?_, ?_⟩
      · rw [Nat.add_mul (e + 1 + 1) 1]
        omega
      · rw [F.units_of_exponent hr, Nat.add_sub_cancel' hge]

/-! ### Rounding what needs no rounding -/

/-- A number with an exponent has as many excess bits as its exponent says. -/
lemma excessBits_units {e r d : Nat} (hr : r < 2 ^ F.fractionBits) (hd : 0 < d) :
    F.excessBits ((2 ^ F.fractionBits + r) * 2 ^ e * d) d = e := by
  have hlog : ((2 ^ F.fractionBits + r) * 2 ^ e).log2 = F.fractionBits + e := by
    have hpos : 0 < 2 ^ e := Nat.two_pow_pos e
    have hne : (2 ^ F.fractionBits + r) * 2 ^ e ≠ 0 :=
      Nat.mul_ne_zero (by omega) (Nat.ne_of_gt hpos)
    rw [Nat.log2_eq_iff hne]
    constructor
    · rw [Nat.pow_add]
      exact Nat.mul_le_mul_right _ (by omega)
    · have hlt : 2 ^ F.fractionBits + r < 2 ^ F.fractionBits * 2 := by omega
      calc (2 ^ F.fractionBits + r) * 2 ^ e < 2 ^ F.fractionBits * 2 * 2 ^ e :=
            Nat.mul_lt_mul_of_pos_right hlt hpos
        _ = 2 ^ (F.fractionBits + e + 1) := by rw [Nat.pow_succ, Nat.pow_add]; ac_rfl
  rw [excessBits, Nat.mul_div_cancel _ hd, hlog]
  omega

/-- A whole number of units that a finite code stands for is rounded to that code. -/
lemma nearest_units {c d : Nat} (hc : c < F.infinity) (hd : 0 < d) :
    F.nearest (F.units c * d) d = c := by
  rcases F.code_cases c with hlt | ⟨e, r, hr, rfl⟩
  · have hexcess : F.excessBits (c * d) d = 0 := by
      have hlog : c.log2 ≤ F.fractionBits := by
        rcases Nat.eq_zero_or_pos c with rfl | hpos
        · simp
        · exact Nat.le_of_lt ((Nat.log2_lt (Nat.ne_of_gt hpos)).mpr hlt)
      rw [excessBits, Nat.mul_div_cancel _ hd]
      omega
    rw [F.units_of_lt hlt, nearest, hexcess]
    simp only [Nat.zero_mul, Nat.zero_add, Nat.pow_zero, Nat.mul_one, roundDiv_mul_right c hd]
    omega
  · have hpos : 0 < d * 2 ^ e := Nat.mul_pos hd (Nat.two_pow_pos e)
    have hround : roundDiv ((2 ^ F.fractionBits + r) * 2 ^ e * d) (d * 2 ^ e) =
        2 ^ F.fractionBits + r := by
      have hproduct : (2 ^ F.fractionBits + r) * 2 ^ e * d =
          (2 ^ F.fractionBits + r) * (d * 2 ^ e) := by ac_rfl
      rw [hproduct, roundDiv_mul_right _ hpos]
    rw [F.units_of_exponent hr, nearest, F.excessBits_units hr hd, hround]
    rw [Nat.add_mul] at hc ⊢
    omega

end FloatFormat

namespace FloatDatum

/-! ### Single precision inside double precision -/

/-- The exponents of double precision reach further down than those of single precision. -/
lemma leastExponent_binary64 :
    FloatFormat.binary64.leastExponent = FloatFormat.binary32.leastExponent + 925 := by decide

/-- Double precision has room for the exponents of single precision. -/
lemma le_infinity_binary64 {e : Nat} (he : e ≤ 254) :
    (e + 925 + 2) * 2 ^ FloatFormat.binary64.fractionBits ≤ FloatFormat.binary64.infinity := by
  have hbound : (e + 925 + 2) * 4503599627370496 ≤ 9218868437227405312 := by omega
  have hpow : (2 : Nat) ^ FloatFormat.binary64.fractionBits = 4503599627370496 := by decide
  have hinfinity : FloatFormat.binary64.infinity = 9218868437227405312 := by decide
  rw [hpow, hinfinity]
  exact hbound

/-- Each finite number of single precision is one of double precision. -/
lemma exists_double_code {c : Nat} (hc : c < FloatFormat.binary32.infinity) :
    ∃ c', c' < FloatFormat.binary64.infinity ∧
      FloatFormat.binary64.units c' * 2 ^ FloatFormat.binary32.leastExponent =
        FloatFormat.binary32.units c * 2 ^ FloatFormat.binary64.leastExponent := by
  obtain ⟨m, e, hm, he, hunits⟩ := FloatFormat.binary32.exists_significand c
  have hbound : e ≤ 254 := by
    have hlt : e * 8388608 < 2139095040 := Nat.lt_of_le_of_lt he hc
    omega
  have hwide : m < 2 * 2 ^ FloatFormat.binary64.fractionBits := by
    have hlt : m < 2 * 8388608 := hm
    have hgoal : m < 2 * 4503599627370496 := by omega
    exact hgoal
  obtain ⟨c', hc', hcode⟩ := FloatFormat.binary64.exists_code hwide (e + 925)
  refine ⟨c', Nat.lt_of_lt_of_le hc' (le_infinity_binary64 hbound), ?_⟩
  rw [hcode, hunits, leastExponent_binary64, Nat.mul_assoc, Nat.mul_assoc, ← Nat.pow_add,
    ← Nat.pow_add, Nat.add_assoc, Nat.add_comm 925]

/-- Widening a finite number gives a finite number, and narrowing it gives the number back. -/
lemma convert_widen_signed (negative : Bool) (c : Fin (FloatFormat.binary32.infinity + 1))
    (hc : c.val < FloatFormat.binary32.infinity) :
    (FloatDatum.signed negative c : Binary32).widen.convert .binary32 = .signed negative c := by
  obtain ⟨c', hc', hunits⟩ := exists_double_code hc
  have hwiden : FloatFormat.binary64.nearest
      (FloatFormat.binary32.units c * 2 ^ FloatFormat.binary64.leastExponent)
      (2 ^ FloatFormat.binary32.leastExponent) = c' := by
    rw [← hunits]
    exact FloatFormat.binary64.nearest_units hc' (Nat.two_pow_pos _)
  have hnarrow : FloatFormat.binary32.nearest
      (FloatFormat.binary64.units c' * 2 ^ FloatFormat.binary32.leastExponent)
      (2 ^ FloatFormat.binary64.leastExponent) = c.val := by
    rw [hunits]
    exact FloatFormat.binary32.nearest_units hc (Nat.two_pow_pos _)
  rw [widen, convert, if_neg (Nat.ne_of_lt hc), ofQuotient]
  simp only [hwiden, convert, if_neg (Nat.ne_of_lt hc'), ofQuotient, hnarrow]

/-- Narrowing a widened datum gives it back: a number, an infinity, or what is not a number. -/
theorem narrow?_widen (x : Binary32) : x.widen.narrow? = some x := by
  cases x with
  | nan negative => rfl
  | signed negative c =>
    rcases Nat.lt_or_ge c.val FloatFormat.binary32.infinity with hlt | hge
    · have hback := convert_widen_signed negative c hlt
      have hfinite : (FloatDatum.signed negative c : Binary32).isFinite = true := by
        simpa [isFinite] using hlt
      rw [narrow?, hback, hfinite]
      simp
    · have hc : c = ⟨FloatFormat.binary32.infinity, Nat.lt_succ_self _⟩ := by
        apply Fin.ext
        exact Nat.le_antisymm (Nat.le_of_lt_succ c.isLt) hge
      subst hc
      rfl

end FloatDatum

end SynthGraph
