import SynthGraph.Proofs.Number.Monotone

/-!
# The nearest number of a format

From some exponent on the numbers of a format are the multiples of a power of two, and a quotient is
rounded to the nearest of them.  Since the numbers below that exponent lie further away, no number
of the format is nearer to a quotient than the one whose code it is rounded to.
-/

namespace SynthGraph

-- Powers are those of the core library, also where a larger library brings its own.
attribute [local instance (2000)] instPowNat

/-- No integer is nearer to a quotient than the one to which it is rounded. -/
lemma natAbs_roundDiv_sub_le (n k : Nat) {d : Nat} (hd : 0 < d) :
    (((roundDiv n d * d : Nat) : Int) - n).natAbs ≤ (((k * d : Nat) : Int) - n).natAbs := by
  have hup := two_mul_roundDiv_le n hd
  have hdown := two_mul_le_two_mul_roundDiv n hd
  rw [Nat.mul_comm d] at hup hdown
  -- Every other integer is a whole step away from the rounded one.
  rcases Nat.lt_trichotomy k (roundDiv n d) with hlt | rfl | hgt
  · have hstep : (k + 1) * d ≤ roundDiv n d * d := Nat.mul_le_mul_right d hlt
    rw [Nat.add_mul, Nat.one_mul] at hstep
    omega
  · exact Nat.le_refl _
  · have hstep : (roundDiv n d + 1) * d ≤ k * d := Nat.mul_le_mul_right d hgt
    rw [Nat.add_mul, Nat.one_mul] at hstep
    omega

namespace FloatFormat

variable (F : FloatFormat)

/-! ### Multiples of a power of two -/

/-- From the first code with an exponent on, numbers are multiples of the power of two. -/
lemma exists_units_of_exponent_le {e c : Nat} (h : (e + 1) * 2 ^ F.fractionBits ≤ c) :
    ∃ k, F.units c = k * 2 ^ e := by
  rcases F.code_cases c with hlt | ⟨e', r, hr, rfl⟩
  · rw [Nat.add_mul] at h
    omega
  · have hexponent : e ≤ e' := by
      by_contra hlt
      have hstep : (e' + 1 + 1) * 2 ^ F.fractionBits ≤ (e + 1) * 2 ^ F.fractionBits :=
        Nat.mul_le_mul_right _ (by omega)
      rw [Nat.add_mul (e' + 1)] at hstep
      omega
    refine ⟨(2 ^ F.fractionBits + r) * 2 ^ (e' - e), ?_⟩
    rw [F.units_of_exponent hr, Nat.mul_assoc, ← Nat.pow_add, Nat.sub_add_cancel hexponent]

/-- The first number with an exponent. -/
lemma units_exponent (e : Nat) :
    F.units ((e + 1) * 2 ^ F.fractionBits) = 2 ^ F.fractionBits * 2 ^ e := by
  simpa using F.units_of_exponent (e := e) (Nat.two_pow_pos F.fractionBits)

/-- A significand at an exponent is the number with that code, also when it is the first one of the
next exponent. -/
lemma units_scaled {e q : Nat} (hlow : e = 0 ∨ 2 ^ F.fractionBits ≤ q)
    (hhigh : q ≤ 2 * 2 ^ F.fractionBits) : F.units (e * 2 ^ F.fractionBits + q) = q * 2 ^ e := by
  have hpos : 0 < 2 ^ F.fractionBits := Nat.two_pow_pos _
  rcases Nat.lt_or_ge q (2 ^ F.fractionBits) with hq | hq
  · obtain rfl : e = 0 := hlow.resolve_right (Nat.not_le.mpr hq)
    rw [Nat.zero_mul, Nat.zero_add, F.units_of_lt hq, Nat.pow_zero, Nat.mul_one]
  · obtain ⟨r, rfl⟩ := Nat.exists_eq_add_of_le hq
    have hcode : e * 2 ^ F.fractionBits + (2 ^ F.fractionBits + r) =
        (e + 1) * 2 ^ F.fractionBits + r := by
      rw [Nat.add_mul, Nat.one_mul, Nat.add_assoc]
    rw [hcode]
    rcases Nat.lt_or_ge r (2 ^ F.fractionBits) with hr | hr
    · exact F.units_of_exponent hr
    · obtain rfl : r = 2 ^ F.fractionBits := by omega
      have hnext : (e + 1) * 2 ^ F.fractionBits + 2 ^ F.fractionBits =
          (e + 1 + 1) * 2 ^ F.fractionBits := by rw [Nat.add_mul (e + 1), Nat.one_mul]
      rw [hnext, F.units_exponent, Nat.pow_succ]
      rw [← Nat.two_mul]
      ac_rfl

/-- Finite codes of one number are one code. -/
lemma code_eq_of_units_eq {c c' : Nat} (hc : c < F.infinity) (hc' : c' < F.infinity)
    (h : F.units c = F.units c') : c = c' := by
  have hcode := F.nearest_units hc Nat.one_pos
  rwa [h, F.nearest_units hc' Nat.one_pos, eq_comm] at hcode

/-- A greater finite code stands for a greater number. -/
lemma units_lt_units {c c' : Nat} (h : c < c') (hc' : c' < F.infinity) :
    F.units c < F.units c' := by
  refine Nat.lt_of_le_of_ne (F.units_mono (Nat.le_of_lt h)) fun heq => ?_
  exact Nat.ne_of_lt h (F.code_eq_of_units_eq (Nat.lt_trans h hc') hc' heq)

/-! ### Nothing is nearer -/

/-- The number that a quotient is rounded to is a multiple of the power of two of its excess
bits. -/
lemma units_nearest {n d : Nat} (hd : 0 < d) (hfinite : F.nearest n d < F.infinity) :
    F.units (F.nearest n d) =
      roundDiv n (d * 2 ^ F.excessBits n d) * 2 ^ F.excessBits n d := by
  have hshift : 0 < d * 2 ^ F.excessBits n d := Nat.mul_pos hd (Nat.two_pow_pos _)
  have hlow : F.excessBits n d = 0 ∨
      2 ^ F.fractionBits ≤ roundDiv n (d * 2 ^ F.excessBits n d) := by
    rcases Nat.eq_zero_or_pos (F.excessBits n d) with hzero | hpos
    · exact .inl hzero
    · exact .inr (le_roundDiv hshift (F.le_of_excessBits hpos))
  have hhigh : roundDiv n (d * 2 ^ F.excessBits n d) ≤ 2 * 2 ^ F.fractionBits :=
    roundDiv_le hshift (Nat.le_of_lt (F.lt_of_excessBits n hd))
  have hcode : F.nearest n d =
      F.excessBits n d * 2 ^ F.fractionBits + roundDiv n (d * 2 ^ F.excessBits n d) := by
    rw [nearest] at hfinite ⊢
    omega
  rw [hcode, F.units_scaled hlow hhigh]

/-- No number of the format is nearer to a quotient than the one to which it is rounded. -/
theorem natAbs_units_nearest_sub_le {n d : Nat} (hd : 0 < d)
    (hfinite : F.nearest n d < F.infinity) (c : Nat) :
    (((F.units (F.nearest n d) * d : Nat) : Int) - n).natAbs ≤
      (((F.units c * d : Nat) : Int) - n).natAbs := by
  have hshift : 0 < d * 2 ^ F.excessBits n d := Nat.mul_pos hd (Nat.two_pow_pos _)
  have hnearest : ∀ k : Nat, (((F.units (F.nearest n d) * d : Nat) : Int) - n).natAbs ≤
      (((k * 2 ^ F.excessBits n d * d : Nat) : Int) - n).natAbs := by
    intro k
    have hproduct : ∀ q : Nat, q * (d * 2 ^ F.excessBits n d) = q * 2 ^ F.excessBits n d * d :=
      fun q => by ac_rfl
    have hround := natAbs_roundDiv_sub_le n k hshift
    rwa [hproduct, hproduct, ← F.units_nearest hd hfinite] at hround
  rcases Nat.lt_or_ge c ((F.excessBits n d + 1) * 2 ^ F.fractionBits) with hlt | hge
  · rcases Nat.eq_zero_or_pos (F.excessBits n d) with hzero | hpos
    · have hunits := hnearest (F.units c)
      rwa [hzero, Nat.pow_zero, Nat.mul_one] at hunits
    · -- The number lies below the first one of the exponent, and that one not beyond the quotient.
      have hbelow : F.units c ≤ 2 ^ F.fractionBits * 2 ^ F.excessBits n d := by
        rw [← F.units_exponent]
        exact F.units_mono (Nat.le_of_lt hlt)
      have hscaled := Nat.mul_le_mul_right d hbelow
      have hleast : 2 ^ F.fractionBits * 2 ^ F.excessBits n d * d ≤ n := by
        have hle := F.le_of_excessBits hpos
        rwa [Nat.mul_comm d, ← Nat.mul_assoc] at hle
      refine Nat.le_trans (hnearest (2 ^ F.fractionBits)) ?_
      omega
  · obtain ⟨k, hk⟩ := F.exists_units_of_exponent_le hge
    rw [hk]
    exact hnearest k

end FloatFormat

end SynthGraph
