import Mathlib.Algebra.Order.Floor.Ring
import Mathlib.Data.Nat.Prime.Int
import Mathlib.Data.Rat.Floor
import SynthGraph.Proofs.Number.Value

/-!
# Rounding to decimal places

The decimal nearest to a value is a rational number, and rounding a datum to decimal places gives a
datum whose value is as near to that decimal as any value of the format.  The decimal itself is
seldom such a value.  Still no two decimals are taken for one: values that are rounded alike lie at
opposite ends of a gap between neighbouring decimals, or in one place, and the width of such a gap
is not a difference of two values.
-/

namespace SynthGraph

-- Powers are those of the core library, also where a larger library brings its own.
attribute [local instance (2000)] instPowNat

/-! ### The nearest integer -/

/-- The integer nearest to a rational number, a half going to the even neighbour. -/
def nearestEven (x : ℚ) : ℤ :=
  if Int.fract x < 1 / 2 then ⌊x⌋
  else if 1 / 2 < Int.fract x then ⌊x⌋ + 1
  else ⌊x⌋ + ⌊x⌋ % 2

/-- The nearest integer is not further than a half away, and it is even when it is that far. -/
lemma nearestEven_spec (x : ℚ) :
    |nearestEven x - x| ≤ 1 / 2 ∧ (|nearestEven x - x| = 1 / 2 → Even (nearestEven x)) := by
  have hsplit : x = ⌊x⌋ + Int.fract x := (Int.floor_add_fract x).symm
  have hnonneg := Int.fract_nonneg x
  have hlt := Int.fract_lt_one x
  have hdown : |(⌊x⌋ : ℚ) - x| = Int.fract x := by
    rw [abs_sub_comm, ← Int.fract, abs_of_nonneg hnonneg]
  have hup : |((⌊x⌋ + 1 : ℤ) : ℚ) - x| = 1 - Int.fract x := by
    rw [abs_of_nonneg (by push_cast; linarith)]
    push_cast
    linarith
  rw [nearestEven]
  split_ifs with hbelow habove
  · rw [hdown]
    exact ⟨hbelow.le, fun heq => absurd heq hbelow.ne⟩
  · rw [hup]
    exact ⟨by linarith, fun heq => absurd heq (by linarith)⟩
  · -- Of the two neighbours at a half the even one is taken.
    have hhalf : Int.fract x = 1 / 2 := le_antisymm (not_lt.mp habove) (not_lt.mp hbelow)
    rcases Int.even_or_odd ⌊x⌋ with heven | hodd
    · rw [Int.even_iff.mp heven, add_zero, hdown]
      exact ⟨hhalf.le, fun _ => heven⟩
    · rw [Int.odd_iff.mp hodd, hup]
      exact ⟨by linarith, fun _ => hodd.add_one⟩

/-- No other integer is like this. -/
lemma nearestEven_eq {x : ℚ} {k : ℤ} (hle : |k - x| ≤ 1 / 2)
    (heven : |k - x| = 1 / 2 → Even k) : nearestEven x = k := by
  obtain ⟨hle', heven'⟩ := nearestEven_spec x
  by_contra hne
  have hstep : (1 : ℚ) ≤ |(nearestEven x : ℚ) - k| := by
    exact_mod_cast Int.one_le_abs (sub_ne_zero.mpr hne)
  have htriangle : |(nearestEven x : ℚ) - k| ≤ |nearestEven x - x| + |k - x| := by
    rw [abs_sub_comm (k : ℚ)]
    exact abs_sub_le _ _ _
  -- Two of them would be a step apart, and both of them even.
  have hone : |nearestEven x - k| = 1 := by
    have hq : |(nearestEven x : ℚ) - k| = 1 := by linarith
    exact_mod_cast hq
  obtain ⟨i, hi⟩ := heven (by linarith)
  obtain ⟨j, hj⟩ := heven' (by linarith)
  rcases (abs_eq zero_le_one).mp hone with hplus | hminus
  · omega
  · omega

/-- Rounding to the nearest integer keeps the sign. -/
lemma nearestEven_neg (x : ℚ) : nearestEven (-x) = -nearestEven x := by
  obtain ⟨hle, heven⟩ := nearestEven_spec x
  have hdistance : |((-nearestEven x : ℤ) : ℚ) - -x| = |nearestEven x - x| := by
    rw [Int.cast_neg, neg_sub_neg, abs_sub_comm]
  refine nearestEven_eq (hdistance ▸ hle) fun heq => ?_
  exact (heven (hdistance ▸ heq)).neg

/-- A quotient of natural numbers is rounded by the rule for quotients. -/
lemma nearestEven_natCast_div (n : ℕ) {d : ℕ} (hd : 0 < d) :
    nearestEven (n / d) = roundDiv n d := by
  have hpos : (0 : ℚ) < d := by exact_mod_cast hd
  have hfloor : ⌊(n / d : ℚ)⌋ = (n / d : ℕ) := Rat.floor_natCast_div_natCast n d
  have hfract : Int.fract (n / d : ℚ) = (n % d : ℕ) / d :=
    Int.fract_div_natCast_eq_div_natCast_mod
  have hbelow : Int.fract (n / d : ℚ) < 1 / 2 ↔ 2 * (n % d) < d := by
    rw [hfract, div_lt_div_iff₀ hpos two_pos, one_mul, mul_comm]
    exact_mod_cast Iff.rfl
  have habove : 1 / 2 < Int.fract (n / d : ℚ) ↔ d < 2 * (n % d) := by
    rw [hfract, div_lt_div_iff₀ two_pos hpos, one_mul, mul_comm]
    exact_mod_cast Iff.rfl
  simp only [nearestEven, roundDiv, hbelow, habove, hfloor]
  split_ifs <;> push_cast <;> rfl

/-! ### The nearest decimal -/

/-- The decimal with a number of decimal places that is nearest to a rational number, a tie going to
the even last digit. -/
def toPlaces (places : ℕ) (x : ℚ) : ℚ := nearestEven (x * 10 ^ places) / 10 ^ places

/-- The nearest decimal is not further away than half of a last digit. -/
lemma abs_sub_toPlaces_le (places : ℕ) (x : ℚ) :
    |x - toPlaces places x| ≤ 1 / 10 ^ places / 2 := by
  have hpos : (0 : ℚ) < 10 ^ places := by positivity
  have hscaled : x - toPlaces places x =
      (x * 10 ^ places - nearestEven (x * 10 ^ places)) / 10 ^ places := by
    rw [toPlaces]
    field_simp
  rw [hscaled, abs_div, abs_of_pos hpos, abs_sub_comm, div_right_comm]
  exact div_le_div_of_nonneg_right (nearestEven_spec _).1 hpos.le

/-- Values with one nearest decimal lie within one last digit. -/
lemma abs_sub_le_of_toPlaces_eq {places : ℕ} {x y : ℚ} (h : toPlaces places x = toPlaces places y) :
    |x - y| ≤ 1 / 10 ^ places := by
  have hx := abs_sub_toPlaces_le places x
  have hy := abs_sub_toPlaces_le places y
  rw [← h, abs_sub_comm] at hy
  calc |x - y| ≤ |x - toPlaces places x| + |toPlaces places x - y| := abs_sub_le _ _ _
    _ ≤ 1 / 10 ^ places := by linarith

/-- Different decimals are a last digit apart. -/
lemma add_le_of_toPlaces_lt {places : ℕ} {x y : ℚ} (h : toPlaces places x < toPlaces places y) :
    toPlaces places x + 1 / 10 ^ places ≤ toPlaces places y := by
  have hpos : (0 : ℚ) < 10 ^ places := by positivity
  rw [toPlaces, toPlaces, div_lt_div_iff_of_pos_right hpos, Int.cast_lt] at h
  rw [toPlaces, toPlaces, ← add_div, div_le_div_iff_of_pos_right hpos]
  exact_mod_cast h

namespace FloatDatum

/-- Rounding to decimal places keeps the sign. -/
lemma toPlaces_factor (places : ℕ) (negative : Bool) (x : ℚ) :
    toPlaces places (factor negative * x) = factor negative * toPlaces places x := by
  cases negative
  · simp
  · simp [toPlaces, nearestEven_neg, neg_div]

end FloatDatum

namespace FloatFormat

variable (F : FloatFormat)

/-- A magnitude is counted in last digits of its nearest decimal. -/
lemma toPlaces_magnitude (places c : ℕ) :
    toPlaces places (F.magnitude c) = FloatDatum.placesCount F places c / 10 ^ places := by
  have hscaled : F.magnitude c * 10 ^ places =
      (F.units c * 10 ^ places : ℕ) / (2 ^ F.leastExponent : ℕ) := by
    rw [magnitude]
    push_cast
    ring
  rw [toPlaces, hscaled, nearestEven_natCast_div _ (Nat.two_pow_pos _)]
  rfl

/-- A finite number stays finite when it is rounded to decimal places. -/
lemma roundedCode_lt (places : ℕ) (hwhole : F.wholeCode < F.infinity) {c : ℕ}
    (hc : c < F.infinity) : F.roundedCode places c < F.infinity := by
  have hlast := F.roundedCode_of_wholeCode_le places (c := F.infinity - 1) (by omega) (by omega)
  have hmono := F.roundedCode_mono places (show c ≤ F.infinity - 1 by omega)
  omega

/-- The magnitude at which an exponent begins, in terms of the distance of neighbours at it. -/
lemma magnitude_exponent (e : ℕ) : F.magnitude ((e + 1) * 2 ^ F.fractionBits) =
    2 ^ F.fractionBits * (2 ^ e / 2 ^ F.leastExponent) := by
  rw [magnitude, F.units_exponent]
  push_cast
  ring

end FloatFormat

namespace FloatDatum

variable {F : FloatFormat} {a b : FloatDatum F} {x y : ℚ} {places : ℕ}

/-! ### The value of what is rounded -/

/-- A finite number is rounded to the value of the format that is nearest to its nearest decimal. -/
theorem exists_value?_roundPlaces (places : ℕ) (hwhole : F.wholeCode < F.infinity)
    (ha : a.value? = some x) : ∃ k, (a.roundPlaces places).value? = some k ∧
      ∀ (b : FloatDatum F) y, b.value? = some y →
        |k - toPlaces places x| ≤ |y - toPlaces places x| := by
  obtain ⟨negative, c, hc, rfl, rfl⟩ := value?_eq_some_iff.mp ha
  have hrounded : F.roundedCode places c < F.infinity := F.roundedCode_lt places hwhole hc
  refine ⟨factor negative * F.magnitude (F.roundedCode places c), ?_, fun b y hb => ?_⟩
  · rw [roundPlaces_signed places negative hc, value?_signed hrounded]
  · have hnearest := abs_value_nearest_sub_le (Nat.pow_pos (by decide)) hrounded negative hb
    have hdecimal : ((placesCount F places c * 2 ^ F.leastExponent : ℕ) : ℚ) / (10 ^ places : ℕ) /
        2 ^ F.leastExponent = toPlaces places (F.magnitude c) := by
      rw [F.toPlaces_magnitude]
      push_cast
      field_simp
    rwa [hdecimal, ← toPlaces_factor] at hnearest

/-- Finite numbers of one nearest decimal are rounded to one number. -/
lemma sameNumber_roundPlaces (ha : a.value? = some x) (hb : b.value? = some y)
    (h : toPlaces places x = toPlaces places y) :
    (a.roundPlaces places).sameNumber (b.roundPlaces places) = true := by
  obtain ⟨s, c, hc, rfl, rfl⟩ := value?_eq_some_iff.mp ha
  obtain ⟨t, c', hc', rfl, rfl⟩ := value?_eq_some_iff.mp hb
  have hpos : (0 : ℚ) < 10 ^ places := by positivity
  have hequal : placesCount F places c = placesCount F places c' →
      F.roundedCode places c = F.roundedCode places c' := by
    intro hcount
    rw [FloatFormat.roundedCode, FloatFormat.roundedCode, hcount]
  have hzero : ∀ {c}, placesCount F places c = 0 → F.roundedCode places c = 0 := by
    intro c hcount
    rw [FloatFormat.roundedCode, hcount, Nat.zero_mul, nearest_zero]
  have hboth : ∀ {m n : ℕ}, (m : ℚ) / 10 ^ places = -(n / 10 ^ places) → m = 0 ∧ n = 0 := by
    intro m n heq
    have hsum : (m : ℚ) + n = 0 := by
      rw [← neg_div, div_left_inj' hpos.ne'] at heq
      linarith
    exact Nat.add_eq_zero_iff.mp (by exact_mod_cast hsum)
  rw [toPlaces_factor, toPlaces_factor, F.toPlaces_magnitude, F.toPlaces_magnitude] at h
  rw [roundPlaces_signed places s hc, roundPlaces_signed places t hc', sameNumber, rank?_signed,
    rank?_signed, beq_iff_eq, Option.some.injEq]
  -- Decimals of different signs are equal only when both are zero.
  cases s <;> cases t <;>
    simp only [factor_true, factor_false, one_mul, neg_mul, neg_inj, Bool.false_eq_true, if_true,
      if_false] at h ⊢
  · rw [hequal (Nat.cast_inj.mp ((div_left_inj' hpos.ne').mp h))]
  · obtain ⟨hleft, hright⟩ := hboth h
    rw [hzero hleft, hzero hright]
    rfl
  · obtain ⟨hright, hleft⟩ := hboth h.symm
    rw [hzero hleft, hzero hright]
    rfl
  · rw [hequal (Nat.cast_inj.mp ((div_left_inj' hpos.ne').mp h))]

/-! ### Differences of values -/

/-- A value is a multiple of the least positive number. -/
lemma exists_value_eq_div (ha : a.value? = some x) : ∃ m : ℤ, x = m / 2 ^ F.leastExponent := by
  obtain ⟨negative, c, -, -, rfl⟩ := value?_eq_some_iff.mp ha
  cases negative
  · exact ⟨F.units c, by simp [FloatFormat.magnitude]⟩
  · exact ⟨-F.units c, by simp [FloatFormat.magnitude, neg_div]⟩

/-- No two values differ by one unit of a decimal place. -/
lemma sub_ne_one_div (hplaces : 0 < places) (ha : a.value? = some x) (hb : b.value? = some y) :
    x - y ≠ 1 / 10 ^ places := by
  obtain ⟨m, rfl⟩ := exists_value_eq_div ha
  obtain ⟨n, rfl⟩ := exists_value_eq_div hb
  intro heq
  have hproduct : (m - n) * 10 ^ places = (2 : ℤ) ^ F.leastExponent := by
    rw [← sub_div, div_eq_div_iff (by positivity) (by positivity), one_mul] at heq
    exact_mod_cast heq
  -- The prime five divides the one side only.
  have hfive : (5 : ℤ) ∣ 2 ^ F.leastExponent := by
    rw [← hproduct]
    exact ((by decide : (5 : ℤ) ∣ 10).trans (dvd_pow_self 10 hplaces.ne')).mul_left _
  have htwo : (5 : ℤ) ∣ 2 := (Nat.prime_iff_prime_int.mp Nat.prime_five).dvd_of_dvd_pow hfive
  omega

/-- What has the smaller nearest decimal is not rounded to the same value. -/
lemma value?_roundPlaces_ne (hplaces : 0 < places) (hwhole : F.wholeCode < F.infinity)
    (ha : a.value? = some x) (hb : b.value? = some y)
    (hlt : toPlaces places x < toPlaces places y) :
    (a.roundPlaces places).value? ≠ (b.roundPlaces places).value? := by
  obtain ⟨k, hk, hnearest⟩ := exists_value?_roundPlaces places hwhole ha
  obtain ⟨l, hl, hnearest'⟩ := exists_value?_roundPlaces places hwhole hb
  intro hequal
  obtain rfl : k = l := Option.some.inj (hk.symm.trans (hequal.trans hl))
  have hx := abs_sub_toPlaces_le places x
  have hy := abs_sub_toPlaces_le places y
  have hkx := hnearest a x ha
  have hky := hnearest' b y hb
  have hgap := add_le_of_toPlaces_lt hlt
  -- The common value lies in the middle of the gap, as far from each decimal as its own value.
  have hright := (abs_le.mp (hkx.trans hx)).2
  have hleft := (abs_le.mp (hky.trans hy)).1
  have hx' : |x - toPlaces places x| = 1 / 10 ^ places / 2 := by
    refine le_antisymm hx (le_trans ?_ hkx)
    rw [le_abs]
    left
    linarith
  have hy' : |y - toPlaces places y| = 1 / 10 ^ places / 2 := by
    refine le_antisymm hy (le_trans ?_ hky)
    rw [le_abs]
    right
    linarith
  have hhalf : (0 : ℚ) ≤ 1 / 10 ^ places / 2 := by positivity
  rcases (abs_eq hhalf).mp hx' with hxup | hxdown
  · rcases (abs_eq hhalf).mp hy' with hyup | hydown
    · exact sub_ne_one_div hplaces hb hl (by linarith)
    · obtain rfl : x = y := by linarith
      exact absurd hlt (lt_irrefl _)
  · exact sub_ne_one_div hplaces hk ha (by linarith)

/-- Finite numbers are rounded to one number exactly when they have one nearest decimal. -/
theorem sameNumber_roundPlaces_iff (hplaces : 0 < places) (hwhole : F.wholeCode < F.infinity)
    (ha : a.value? = some x) (hb : b.value? = some y) :
    (a.roundPlaces places).sameNumber (b.roundPlaces places) = true ↔
      toPlaces places x = toPlaces places y := by
  refine ⟨fun hsame => ?_, sameNumber_roundPlaces ha hb⟩
  obtain ⟨k, hk, -⟩ := exists_value?_roundPlaces places hwhole ha
  obtain ⟨l, hl, -⟩ := exists_value?_roundPlaces places hwhole hb
  have hequal : (a.roundPlaces places).value? = (b.roundPlaces places).value? := by
    rw [hk, hl, (sameNumber_iff_eq hk hl).mp hsame]
  rcases lt_trichotomy (toPlaces places x) (toPlaces places y) with hlt | heq | hgt
  · exact absurd hequal (value?_roundPlaces_ne hplaces hwhole ha hb hlt)
  · exact heq
  · exact absurd hequal.symm (value?_roundPlaces_ne hplaces hwhole hb ha hgt)

/-! ### Values that stay -/

/-- A finite number is rounded to one within a unit of the last decimal place. -/
lemma abs_value?_roundPlaces_sub_le (hwhole : F.wholeCode < F.infinity) (ha : a.value? = some x)
    (hk : (a.roundPlaces places).value? = some y) : |y - x| ≤ 1 / 10 ^ places := by
  obtain ⟨k, hk', hnearest⟩ := exists_value?_roundPlaces places hwhole ha
  obtain rfl : y = k := Option.some.inj (hk.symm.trans hk')
  have hx := abs_sub_toPlaces_le places x
  have hy := (hnearest a x ha).trans hx
  rw [abs_sub_comm] at hx
  calc |y - x| ≤ |y - toPlaces places x| + |toPlaces places x - x| := abs_sub_le _ _ _
    _ ≤ 1 / 10 ^ places := by linarith

/-- From an exponent on at which neighbouring values are more than a unit of the last decimal place
apart, finite numbers stay as they are. -/
theorem roundPlaces_eq_self {e : ℕ} (hwhole : F.wholeCode < F.infinity)
    (he : e ≤ F.leastExponent) (hexponent : F.leastExponent ≤ e + F.fractionBits)
    (hspacing : (1 : ℚ) / 10 ^ places < 2 ^ e / 2 ^ F.leastExponent) (ha : a.value? = some x)
    (hx : 2 ^ F.fractionBits * (2 ^ e / 2 ^ F.leastExponent) ≤ |x|) : a.roundPlaces places = a := by
  obtain ⟨negative, c, hc, rfl, rfl⟩ := value?_eq_some_iff.mp ha
  have hfirst : (e + 1) * 2 ^ F.fractionBits < F.infinity :=
    lt_of_le_of_lt (Nat.mul_le_mul_right _ (Nat.succ_le_succ he)) hwhole
  have hrounded := F.roundedCode_lt places hwhole hc
  rw [← F.magnitude_exponent, abs_factor_mul, abs_of_nonneg (F.magnitude_nonneg c),
    F.magnitude_le_magnitude_iff hfirst] at hx
  -- The first number with the exponent is whole and stays, and what is greater stays above it.
  have hkept : F.roundedCode places ((e + 1) * 2 ^ F.fractionBits) =
      (e + 1) * 2 ^ F.fractionBits := by
    refine F.roundedCode_of_units_eq places (k := 2 ^ (e + F.fractionBits - F.leastExponent)) ?_
      hfirst
    rw [F.units_exponent, ← Nat.pow_add, ← Nat.pow_add, Nat.sub_add_cancel hexponent,
      Nat.add_comm e]
  have hx' : (e + 1) * 2 ^ F.fractionBits ≤ F.roundedCode places c :=
    hkept ▸ F.roundedCode_mono places hx
  rw [roundPlaces_signed places negative hc]
  have hdistance := abs_value?_roundPlaces_sub_le hwhole ha
    (by rw [roundPlaces_signed places negative hc, value?_signed hrounded])
  rw [← mul_sub, abs_factor_mul] at hdistance
  obtain ⟨i, hi⟩ := F.exists_units_of_exponent_le hx
  obtain ⟨j, hj⟩ := F.exists_units_of_exponent_le hx'
  have hequal : j = i := by
    have hspace : (0 : ℚ) < 2 ^ e / 2 ^ F.leastExponent := by positivity
    have hsteps : F.magnitude (F.roundedCode places c) - F.magnitude c =
        (j - i : ℤ) * (2 ^ e / 2 ^ F.leastExponent) := by
      rw [FloatFormat.magnitude, FloatFormat.magnitude, hi, hj]
      push_cast
      ring
    rw [hsteps, abs_mul, abs_of_pos hspace] at hdistance
    have hclose : |(j : ℤ) - i| < 1 := by
      have hlt : |((j - i : ℤ) : ℚ)| * (2 ^ e / 2 ^ F.leastExponent) <
          1 * (2 ^ e / 2 ^ F.leastExponent) := by linarith
      exact_mod_cast lt_of_mul_lt_mul_right hlt hspace.le
    rw [Int.abs_lt_one_iff, sub_eq_zero] at hclose
    exact_mod_cast hclose
  have hcode : F.roundedCode places c = c :=
    F.code_eq_of_units_eq hrounded hc (by rw [hi, hj, hequal])
  congr 1
  exact Fin.ext hcode

end FloatDatum

end SynthGraph
