import SynthGraph.Proofs.Number.Exact

/-!
# Rounding keeps the order

Codes are ordered as the numbers they stand for, and a larger quotient is never rounded to a smaller
number, neither to an integer nor to a format.  Where the exponents of two quotients differ, the
code at the end of the lower exponent separates the two results.
-/

namespace SynthGraph

-- Powers are those of the core library, also where a larger library brings its own.
attribute [local instance (2000)] instPowNat

/-- A larger quotient is not rounded to a smaller integer. -/
lemma roundDiv_mono {n m d : Nat} (hd : 0 < d) (h : n ≤ m) : roundDiv n d ≤ roundDiv m d := by
  by_contra hlt
  have hup := two_mul_roundDiv_le n hd
  have hdown := two_mul_le_two_mul_roundDiv m hd
  have hstep : d * (roundDiv m d + 1) ≤ d * roundDiv n d := Nat.mul_le_mul_left d (by omega)
  rw [Nat.mul_add, Nat.mul_one] at hstep
  have heq : n = m := by omega
  subst heq
  exact hlt (Nat.le_refl _)

/-- A quotient of at most `k` is rounded to at most `k`. -/
lemma roundDiv_le {n k d : Nat} (hd : 0 < d) (h : n ≤ k * d) : roundDiv n d ≤ k := by
  have hmono := roundDiv_mono hd h
  rwa [roundDiv_mul_right k hd] at hmono

/-- A quotient of at least `k` is rounded to at least `k`. -/
lemma le_roundDiv {n k d : Nat} (hd : 0 < d) (h : k * d ≤ n) : k ≤ roundDiv n d := by
  have hmono := roundDiv_mono hd h
  rwa [roundDiv_mul_right k hd] at hmono

namespace FloatFormat

variable (F : FloatFormat)

/-- A greater code stands for a greater number. -/
lemma units_mono {c c' : Nat} (h : c ≤ c') : F.units c ≤ F.units c' := by
  rcases F.code_cases c with hc | ⟨e, r, hr, rfl⟩
  · rw [F.units_of_lt hc]
    rcases F.code_cases c' with hc' | ⟨e', r', hr', rfl⟩
    · rwa [F.units_of_lt hc']
    · rw [F.units_of_exponent hr']
      calc c ≤ 2 ^ F.fractionBits + r' := by omega
        _ ≤ (2 ^ F.fractionBits + r') * 2 ^ e' := Nat.le_mul_of_pos_right _ (Nat.two_pow_pos e')
  · rcases F.code_cases c' with hc' | ⟨e', r', hr', rfl⟩
    · rw [Nat.add_mul] at h
      omega
    · rw [F.units_of_exponent hr, F.units_of_exponent hr']
      have hexponent : e ≤ e' := by
        by_contra hlt
        have hstep : (e' + 1 + 1) * 2 ^ F.fractionBits ≤ (e + 1) * 2 ^ F.fractionBits :=
          Nat.mul_le_mul_right _ (by omega)
        rw [Nat.add_mul (e' + 1)] at hstep
        omega
      rcases Nat.eq_or_lt_of_le hexponent with rfl | hlt
      · exact Nat.mul_le_mul_right _ (by omega)
      · calc (2 ^ F.fractionBits + r) * 2 ^ e ≤ 2 ^ F.fractionBits * 2 * 2 ^ e :=
              Nat.mul_le_mul_right _ (by omega)
          _ = 2 ^ F.fractionBits * 2 ^ (e + 1) := by rw [Nat.pow_succ]; ac_rfl
          _ ≤ (2 ^ F.fractionBits + r') * 2 ^ e' :=
              Nat.mul_le_mul (by omega) (Nat.pow_le_pow_right (by decide) hlt)

/-- A larger quotient has at least as many bits too many. -/
lemma excessBits_mono {n m : Nat} (d : Nat) (h : n ≤ m) : F.excessBits n d ≤ F.excessBits m d := by
  have hdiv : n / d ≤ m / d := Nat.div_le_div_right h
  have hlog : (n / d).log2 ≤ (m / d).log2 := by
    rcases Nat.eq_zero_or_pos (n / d) with hzero | hpos
    · simp [hzero]
    · have hself := Nat.log2_self_le (Nat.ne_of_gt hpos)
      exact (Nat.le_log2 (by omega)).mpr (Nat.le_trans hself hdiv)
  exact Nat.sub_le_sub_right hlog _

/-- Shifted down by its excess bits, a quotient lies below twice the leading bit. -/
lemma lt_of_excessBits (n : Nat) {d : Nat} (hd : 0 < d) :
    n < 2 * 2 ^ F.fractionBits * (d * 2 ^ F.excessBits n d) := by
  have hlog : n / d < 2 ^ ((n / d).log2 + 1) := Nat.lt_log2_self
  have hpower : 2 ^ ((n / d).log2 + 1) ≤ 2 ^ (F.fractionBits + F.excessBits n d + 1) :=
    Nat.pow_le_pow_right (by decide) (by rw [excessBits]; omega)
  calc n < 2 ^ (F.fractionBits + F.excessBits n d + 1) * d :=
        (Nat.div_lt_iff_lt_mul hd).mp (Nat.lt_of_lt_of_le hlog hpower)
    _ = 2 * 2 ^ F.fractionBits * (d * 2 ^ F.excessBits n d) := by
        rw [Nat.pow_succ, Nat.pow_add]
        ac_rfl

/-- When there are excess bits, a quotient shifted down by them is not below the leading bit. -/
lemma le_of_excessBits {n d : Nat} (hexcess : 0 < F.excessBits n d) :
    2 ^ F.fractionBits * (d * 2 ^ F.excessBits n d) ≤ n := by
  rw [excessBits] at hexcess ⊢
  have hne : n / d ≠ 0 := by
    intro hzero
    simp [hzero] at hexcess
  have hsum : F.fractionBits + ((n / d).log2 - F.fractionBits) = (n / d).log2 := by omega
  calc 2 ^ F.fractionBits * (d * 2 ^ ((n / d).log2 - F.fractionBits))
      = d * 2 ^ (n / d).log2 := by
        rw [← hsum, Nat.pow_add, hsum]
        ac_rfl
    _ ≤ d * (n / d) := Nat.mul_le_mul_left d (Nat.log2_self_le hne)
    _ ≤ n := Nat.mul_div_le n d

/-- A larger quotient is not rounded to a smaller code. -/
theorem nearest_mono {n m d : Nat} (hd : 0 < d) (h : n ≤ m) : F.nearest n d ≤ F.nearest m d := by
  have hshift : ∀ x, 0 < d * 2 ^ x := fun x => Nat.mul_pos hd (Nat.two_pow_pos x)
  suffices hcode : F.excessBits n d * 2 ^ F.fractionBits + roundDiv n (d * 2 ^ F.excessBits n d) ≤
      F.excessBits m d * 2 ^ F.fractionBits + roundDiv m (d * 2 ^ F.excessBits m d) by
    rw [nearest, nearest]
    omega
  rcases Nat.eq_or_lt_of_le (F.excessBits_mono d h) with heq | hlt
  · rw [heq]
    exact Nat.add_le_add_left (roundDiv_mono (hshift _) h) _
  · -- The exponents differ, and the results lie on different sides of the greater one.
    have hlow : roundDiv n (d * 2 ^ F.excessBits n d) ≤ 2 * 2 ^ F.fractionBits :=
      roundDiv_le (hshift _) (Nat.le_of_lt (F.lt_of_excessBits n hd))
    have hhigh : 2 ^ F.fractionBits ≤ roundDiv m (d * 2 ^ F.excessBits m d) :=
      le_roundDiv (hshift _) (F.le_of_excessBits (by omega))
    have hstep : (F.excessBits n d + 1) * 2 ^ F.fractionBits ≤
        F.excessBits m d * 2 ^ F.fractionBits := Nat.mul_le_mul_right _ hlt
    rw [Nat.add_mul, Nat.one_mul] at hstep
    omega

end FloatFormat

end SynthGraph
