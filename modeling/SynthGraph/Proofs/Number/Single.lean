import SynthGraph.Fault
import SynthGraph.Proofs.Number.Value

/-!
# Single precision

A number is narrowed to the nearest number of single precision; of two that are equally near the one
with the even code is taken.  Narrowing fails exactly for the finite numbers that lie half a step or
more beyond the greatest number of single precision.  What was narrowed has a place in double
precision, with the same value, and narrowing it again changes nothing.
-/

namespace SynthGraph

-- Powers are those of the core library, also where a larger library brings its own.
attribute [local instance (2000)] instPowNat

/-! ### Ties -/

/-- When another integer is as near to a quotient as the one to which it is rounded, that one is
even. -/
lemma even_roundDiv_of_tie {n k d : Nat} (hd : 0 < d) (hne : k ≠ roundDiv n d)
    (htie : (((roundDiv n d * d : Nat) : Int) - n).natAbs = (((k * d : Nat) : Int) - n).natAbs) :
    Even (roundDiv n d) := by
  have hsplit : n / d * d + n % d = n := Nat.div_add_mod' n d
  have hlt : n % d < d := Nat.mod_lt n hd
  by_cases hhalf : 2 * (n % d) = d
  · rw [roundDiv, if_neg (by omega), if_neg (by omega), Nat.even_iff]
    omega
  · -- The rounded one is nearer than half a step, and every other one is further away than that.
    have hnear : 2 * (roundDiv n d * d) < 2 * n + d ∧ 2 * n < 2 * (roundDiv n d * d) + d := by
      unfold roundDiv
      split
      · omega
      · split
        · rw [Nat.add_mul]
          omega
        · omega
    rcases Nat.lt_or_gt_of_ne hne with hbelow | habove
    · have hstep : (k + 1) * d ≤ roundDiv n d * d := Nat.mul_le_mul_right d hbelow
      rw [Nat.add_mul, Nat.one_mul] at hstep
      omega
    · have hstep : (roundDiv n d + 1) * d ≤ k * d := Nat.mul_le_mul_right d habove
      rw [Nat.add_mul, Nat.one_mul] at hstep
      omega

namespace FloatFormat

variable (F : FloatFormat)

/-- When another number of the format is as near to a quotient as the one to which it is rounded,
the code of that one is even. -/
lemma even_nearest_of_tie {n d c : Nat} (hfraction : 0 < F.fractionBits) (hd : 0 < d)
    (hfinite : F.nearest n d < F.infinity) (hne : F.units c ≠ F.units (F.nearest n d))
    (htie : (((F.units (F.nearest n d) * d : Nat) : Int) - n).natAbs =
      (((F.units c * d : Nat) : Int) - n).natAbs) : Even (F.nearest n d) := by
  have hshift : 0 < d * 2 ^ F.excessBits n d := Nat.mul_pos hd (Nat.two_pow_pos _)
  have hproduct : ∀ q : Nat, q * 2 ^ F.excessBits n d * d = q * (d * 2 ^ F.excessBits n d) :=
    fun q => by ac_rfl
  have hcode : F.nearest n d =
      F.excessBits n d * 2 ^ F.fractionBits + roundDiv n (d * 2 ^ F.excessBits n d) := by
    rw [nearest] at hfinite ⊢
    omega
  have hunits := F.units_nearest hd hfinite
  rw [hunits, hproduct] at htie
  rw [hunits] at hne
  have heven : Even (roundDiv n (d * 2 ^ F.excessBits n d)) := by
    rcases Nat.lt_or_ge c ((F.excessBits n d + 1) * 2 ^ F.fractionBits) with hlt | hge
    · rcases Nat.eq_zero_or_pos (F.excessBits n d) with hzero | hpos
      · rw [hzero, Nat.pow_zero, Nat.mul_one, Nat.mul_one] at hne
        rw [hzero, Nat.pow_zero, Nat.mul_one] at htie ⊢
        exact even_roundDiv_of_tie hd hne htie
      · -- The number lies below the first one of the exponent, and that one is nearer.
        have hfirst : (F.excessBits n d + 1) * 2 ^ F.fractionBits < F.infinity := by
          have hlow := le_roundDiv hshift (F.le_of_excessBits hpos)
          rw [hcode] at hfinite
          rw [Nat.add_mul, Nat.one_mul]
          omega
        have hbelow : F.units c < 2 ^ F.fractionBits * 2 ^ F.excessBits n d := by
          rw [← F.units_exponent]
          exact F.units_lt_units hlt hfirst
        have hscaled := Nat.mul_lt_mul_of_pos_right hbelow hd
        have hleast := F.le_of_excessBits hpos
        have hnearest := natAbs_roundDiv_sub_le n (2 ^ F.fractionBits) hshift
        rw [← hproduct] at hleast
        rw [← hproduct (2 ^ F.fractionBits)] at hnearest
        omega
    · obtain ⟨k, hk⟩ := F.exists_units_of_exponent_le hge
      rw [hk, hproduct] at htie
      rw [hk] at hne
      exact even_roundDiv_of_tie hshift (fun h => hne (by rw [h])) htie
  have hpower : Even (2 ^ F.fractionBits) := (Nat.even_pow' hfraction.ne').mpr even_two
  rw [hcode]
  exact (hpower.mul_left _).add heven

/-- When another magnitude is as near to a quotient as the one to which it is rounded, the code of
that one is even. -/
lemma even_nearest_of_abs_eq {n d c : Nat} (hfraction : 0 < F.fractionBits) (hd : 0 < d)
    (hfinite : F.nearest n d < F.infinity) (hne : F.magnitude c ≠ F.magnitude (F.nearest n d))
    (htie : |F.magnitude (F.nearest n d) - n / d / 2 ^ F.leastExponent| =
      |F.magnitude c - n / d / 2 ^ F.leastExponent|) : Even (F.nearest n d) := by
  have hscale : (d * 2 ^ F.leastExponent : ℚ) ≠ 0 := by positivity
  rw [F.abs_magnitude_sub hd, F.abs_magnitude_sub hd, div_left_inj' hscale, Nat.cast_inj] at htie
  refine F.even_nearest_of_tie hfraction hd hfinite (fun h => hne ?_) htie
  rw [magnitude, magnitude, h]

/-- A magnitude as a quotient of units of another format. -/
lemma magnitude_eq_div {G : FloatFormat} (c : Nat) :
    F.magnitude c = ((F.units c * 2 ^ G.leastExponent : Nat) : ℚ) / (2 ^ F.leastExponent : Nat) /
      2 ^ G.leastExponent := by
  rw [magnitude]
  push_cast
  field_simp

end FloatFormat

namespace FloatDatum

variable {F : FloatFormat} {v w : Binary64} {x : Binary32} {r : ℚ}

/-! ### Rounding to nearest -/

/-- The sign of a datum. -/
def negative : FloatDatum F → Bool
  | nan negative => negative
  | signed negative _ => negative

/-- A datum has a value as near to a number as the value of any datum of the format, and its last
bit is zero when another one is equally near. -/
def IsNearest (x : FloatDatum F) (r : ℚ) : Prop :=
  ∃ q, x.value? = some q ∧ ∀ (y : FloatDatum F) p, y.value? = some p →
    |q - r| ≤ |p - r| ∧ (|q - r| = |p - r| → p = q ∨ Even x.bits)

/-- The bits of a number of single precision are even when its code is. -/
lemma even_bits {negative : Bool} {c : Fin (FloatFormat.binary32.infinity + 1)}
    (h : Even c.val) : Even (signed negative c : Binary32).bits := by
  have hsign : Even (signBit .binary32 negative) := by cases negative <;> decide
  exact hsign.add h

/-- The other sign stands for the other factor. -/
lemma factor_of_ne {s t : Bool} (h : s ≠ t) : factor t = -factor s := by
  cases s <;> cases t <;> first
    | exact absurd rfl h
    | simp

/-- A quotient with a sign is rounded to the datum of single precision that is nearest to it. -/
lemma isNearest_ofQuotient {n d : Nat} (hd : 0 < d) (negative : Bool)
    (hfinite : FloatFormat.binary32.nearest n d < FloatFormat.binary32.infinity) :
    (ofQuotient negative n d : Binary32).IsNearest
      (factor negative * (n / d / 2 ^ FloatFormat.binary32.leastExponent)) := by
  refine ⟨_, value?_signed hfinite, fun y p hp =>
    ⟨abs_value_nearest_sub_le hd hfinite negative hp, fun htie => ?_⟩⟩
  obtain ⟨s, c, -, -, rfl⟩ := value?_eq_some_iff.mp hp
  have hzero := FloatFormat.binary32.abs_magnitude_nearest_sub_le hd hfinite 0
  have heven (c : Nat) :=
    FloatFormat.binary32.even_nearest_of_abs_eq (c := c) (by decide) hd hfinite
  have hquotient : (0 : ℚ) ≤ n / d / 2 ^ FloatFormat.binary32.leastExponent := by positivity
  generalize (n / d / 2 ^ FloatFormat.binary32.leastExponent : ℚ) = t at *
  change |factor negative * FloatFormat.binary32.magnitude (FloatFormat.binary32.nearest n d) -
    factor negative * t| = _ at htie
  change _ = factor negative * FloatFormat.binary32.magnitude (FloatFormat.binary32.nearest n d) ∨ _
  rw [← mul_sub, abs_factor_mul] at htie
  by_cases hsign : s = negative
  · subst hsign
    rw [← mul_sub, abs_factor_mul] at htie
    by_cases hsame : FloatFormat.binary32.magnitude c =
        FloatFormat.binary32.magnitude (FloatFormat.binary32.nearest n d)
    · exact .inl (by rw [hsame])
    · exact .inr (even_bits (heven c hsame htie))
  · -- With the other sign only a zero can be equally near.
    have hnonneg := FloatFormat.binary32.magnitude_nonneg c
    rw [factor_of_ne hsign, neg_mul, sub_neg_eq_add, ← mul_add, abs_factor_mul,
      abs_of_nonneg (add_nonneg hnonneg hquotient)] at htie
    rw [FloatFormat.magnitude_zero, zero_sub, abs_neg, abs_of_nonneg hquotient] at hzero
    have hnothing : FloatFormat.binary32.magnitude c = 0 := by linarith
    by_cases hsame : FloatFormat.binary32.magnitude (FloatFormat.binary32.nearest n d) = 0
    · exact .inl (by rw [hnothing, hsame, mul_zero, mul_zero])
    · refine .inr (even_bits (heven 0 ?_ ?_))
      · rw [FloatFormat.magnitude_zero]
        exact Ne.symm hsame
      · rw [htie, hnothing, FloatFormat.magnitude_zero, zero_sub, abs_neg,
          abs_of_nonneg hquotient, zero_add]

/-- What rounding to single precision makes of a number: the nearest datum of a finite one, the same
infinity, and nothing that is a number of what is none.  The sign stays. -/
structure RoundsTo (v : Binary64) (x : Binary32) : Prop where
  sign : x.negative = v.negative
  nearest : ∀ r, v.value? = some r → x.IsNearest r
  infinite : ∀ negative, v = infinity negative → x = infinity negative
  notNumber : ∀ negative, v = nan negative → x = nan negative

/-- The code of single precision to which a code of double precision is narrowed. -/
def narrowedCode (c : Nat) : Nat :=
  FloatFormat.binary32.nearest
    (FloatFormat.binary64.units c * 2 ^ FloatFormat.binary32.leastExponent)
    (2 ^ FloatFormat.binary64.leastExponent)

/-- A code that is not below that of infinity is that of infinity. -/
lemma eq_infinity_of_not_lt {negative : Bool} {c : Fin (F.infinity + 1)}
    (h : ¬c.val < F.infinity) : (signed negative c : FloatDatum F) = .infinity negative :=
  eq_infinity_of_not_isFinite (decide_eq_false h)

/-- A finite number is narrowed through its code. -/
lemma convert_signed {negative : Bool} {c : Fin (FloatFormat.binary64.infinity + 1)}
    (hc : c.val < FloatFormat.binary64.infinity) :
    (signed negative c : Binary64).convert .binary32 =
      .signed negative ⟨narrowedCode c, FloatFormat.binary32.nearest_lt _ _⟩ := by
  rw [convert, if_neg (Nat.ne_of_lt hc)]
  rfl

/-- A finite number overflows when the code to which it is narrowed is that of infinity. -/
lemma overflows_signed_iff {negative : Bool} {c : Fin (FloatFormat.binary64.infinity + 1)}
    (hc : c.val < FloatFormat.binary64.infinity) :
    (signed negative c : Binary64).Overflows ↔
      ¬narrowedCode c < FloatFormat.binary32.infinity := by
  rw [Overflows, convert_signed hc]
  constructor
  · rintro ⟨-, negative', hinfinity⟩
    obtain ⟨-, hcode⟩ := signed.inj hinfinity
    exact Nat.not_lt.mpr (Fin.val_eq_of_eq hcode).ge
  · intro hge
    exact ⟨decide_eq_true hc, negative, eq_infinity_of_not_lt hge⟩

/-- Narrowing rounds. -/
lemma roundsTo_of_narrow? (h : v.narrow? = some x) : v.RoundsTo x := by
  have hfits : ¬v.Overflows := isSome_narrow?_iff.mp (by rw [h]; rfl)
  obtain rfl := convert_of_narrow? h
  cases v with
  | nan negative => exact ⟨rfl, nofun, nofun, by rintro _ ⟨⟩; rfl⟩
  | signed negative c =>
    by_cases hc : c.val < FloatFormat.binary64.infinity
    · refine ⟨by rw [convert_signed hc]; rfl, fun r hr => ?_, ?_, nofun⟩
      · rw [value?_signed hc, Option.some.injEq] at hr
        have hcode : narrowedCode c < FloatFormat.binary32.infinity :=
          not_not.mp fun hge => hfits ((overflows_signed_iff hc).mpr hge)
        rw [convert_signed hc, ← hr,
          FloatFormat.binary64.magnitude_eq_div (G := FloatFormat.binary32)]
        exact isNearest_ofQuotient (Nat.two_pow_pos _) negative hcode
      · rintro _ ⟨⟩
        exact absurd hc (Nat.lt_irrefl _)
    · rw [eq_infinity_of_not_lt hc]
      exact ⟨rfl, nofun, by rintro _ ⟨⟩; rfl, nofun⟩

/-! ### Overflow -/

/-- The code of the least number of double precision that overflows single precision. -/
def overflowCode : Nat := 0x47EFFFFFF0000000

/-- The least number that overflows lies half a step beyond the greatest one of single precision. -/
lemma magnitude_overflowCode :
    FloatFormat.binary64.magnitude overflowCode = 2 ^ 128 - 2 ^ 103 := by
  have hunits : FloatFormat.binary64.units overflowCode =
      (2 ^ (128 : Nat) - 2 ^ (103 : Nat)) * 2 ^ FloatFormat.binary64.leastExponent := by
    decide +kernel
  rw [FloatFormat.magnitude, hunits, Nat.cast_mul, Nat.cast_pow, Nat.cast_two,
    mul_div_cancel_right₀ _ (by positivity)]
  norm_num

/-- A greater code is not narrowed to a smaller one. -/
lemma narrowedCode_mono {c c' : Nat} (h : c ≤ c') : narrowedCode c ≤ narrowedCode c' :=
  FloatFormat.binary32.nearest_mono (Nat.two_pow_pos _)
    (Nat.mul_le_mul_right _ (FloatFormat.binary64.units_mono h))

/-- The numbers from the least one that overflows on are narrowed to infinity, and no others are. -/
lemma narrowedCode_lt_iff {c : Nat} :
    narrowedCode c < FloatFormat.binary32.infinity ↔ c < overflowCode := by
  have hleast : narrowedCode overflowCode = FloatFormat.binary32.infinity := by decide +kernel
  have hbelow : narrowedCode (overflowCode - 1) < FloatFormat.binary32.infinity := by
    decide +kernel
  constructor
  · intro h
    by_contra hge
    have hmono := narrowedCode_mono (Nat.not_lt.mp hge)
    omega
  · intro h
    have hmono := narrowedCode_mono (show c ≤ overflowCode - 1 by omega)
    omega

/-- A number overflows exactly when it is finite and at least as great as the least one that does,
whatever its sign is. -/
theorem overflows_iff :
    v.Overflows ↔ ∃ r, v.value? = some r ∧ 2 ^ 128 - 2 ^ 103 ≤ |r| := by
  cases v with
  | nan negative => exact iff_of_false (fun h => by cases h.1) (by simp [value?])
  | signed negative c =>
    by_cases hc : c.val < FloatFormat.binary64.infinity
    · have hleast : overflowCode < FloatFormat.binary64.infinity := by decide
      have habs : |factor negative * FloatFormat.binary64.magnitude c| =
          FloatFormat.binary64.magnitude c := by
        rw [abs_factor_mul, abs_of_nonneg (FloatFormat.binary64.magnitude_nonneg c)]
      rw [overflows_signed_iff hc, narrowedCode_lt_iff, Nat.not_lt, ← magnitude_overflowCode,
        value?_signed hc, ← FloatFormat.binary64.magnitude_le_magnitude_iff hleast]
      constructor
      · exact fun h => ⟨_, rfl, by rwa [habs]⟩
      · rintro ⟨r, hr, h⟩
        obtain rfl := Option.some.inj hr
        rwa [habs] at h
    · rw [eq_infinity_of_not_lt hc]
      refine iff_of_false (fun h => ?_) ?_
      · have hinfinite := isFinite_infinity (F := .binary64) negative
        rw [h.1] at hinfinite
        cases hinfinite
      · simp [infinity, value?]

/-! ### Back in double precision -/

/-- Double precision has the values of single precision. -/
lemma value?_widen (x : Binary32) : x.widen.value? = x.value? := by
  cases x with
  | nan negative => rfl
  | signed negative c =>
    by_cases hc : c.val < FloatFormat.binary32.infinity
    · obtain ⟨c', hc', hunits⟩ := exists_double_code hc
      have hcode : FloatFormat.binary64.nearest
          (FloatFormat.binary32.units c * 2 ^ FloatFormat.binary64.leastExponent)
          (2 ^ FloatFormat.binary32.leastExponent) = c' := by
        rw [← hunits]
        exact FloatFormat.binary64.nearest_units hc' (Nat.two_pow_pos _)
      have hwiden : (signed negative c : Binary32).widen =
          .signed negative ⟨c', Nat.lt_succ_of_lt hc'⟩ := by
        rw [widen, convert, if_neg (Nat.ne_of_lt hc), ofQuotient]
        simp only [hcode]
      have hmagnitude : FloatFormat.binary64.magnitude c' = FloatFormat.binary32.magnitude c := by
        have hpower (k : Nat) : ((2 ^ k : Nat) : ℚ) = 2 ^ k := by rw [Nat.cast_pow, Nat.cast_two]
        rw [FloatFormat.magnitude, FloatFormat.magnitude,
          div_eq_div_iff (pow_ne_zero _ two_ne_zero) (pow_ne_zero _ two_ne_zero), ← hpower,
          ← hpower, ← Nat.cast_mul, ← Nat.cast_mul, hunits]
      rw [hwiden, value?_signed hc', value?_signed hc, hmagnitude]
    · rw [eq_infinity_of_not_lt hc]
      rfl

/-- What a number is kept as where single precision is wanted: the number of single precision to
which it is narrowed, again in double precision. -/
def toSingle (v : Binary64) : Except Fault Binary64 :=
  match v.narrow? with
  | some x => .ok x.widen
  | none => .error (.notSingle v)

/-- What is kept is what narrowing gives. -/
lemma toSingle_eq_ok_iff : v.toSingle = .ok w ↔ ∃ x, v.narrow? = some x ∧ x.widen = w := by
  unfold toSingle
  cases v.narrow? <;> simp

/-- A number is refused when it overflows. -/
lemma toSingle_eq_error_iff {e : Fault} :
    v.toSingle = .error e ↔ v.Overflows ∧ e = .notSingle v := by
  rw [← narrow?_eq_none_iff]
  unfold toSingle
  cases v.narrow? <;> simp [eq_comm]

/-- What is kept stays as it is when it is narrowed again. -/
lemma toSingle_widen (x : Binary32) : x.widen.toSingle = .ok x.widen :=
  toSingle_eq_ok_iff.mpr ⟨x, narrow?_widen x, rfl⟩

/-- A greater number is not kept as a smaller one. -/
lemma AtMost.toSingle {y z : Binary64} (h : v.AtMost w) (hv : v.toSingle = .ok y)
    (hw : w.toSingle = .ok z) : y.AtMost z := by
  obtain ⟨x, hx, rfl⟩ := toSingle_eq_ok_iff.mp hv
  obtain ⟨x', hx', rfl⟩ := toSingle_eq_ok_iff.mp hw
  obtain rfl := convert_of_narrow? hx
  obtain rfl := convert_of_narrow? hx'
  exact (h.convert .binary32 (by decide)).convert .binary64 (by decide)

end FloatDatum

end SynthGraph
