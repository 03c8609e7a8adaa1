import SynthGraph.Number.Decimal
import SynthGraph.Proofs.Number.Nearest

/-!
# Numbers too great for single precision

A finite number overflows when its nearest number of single precision is an infinity.  Such a number
is whole, and a whole number stays as it is when it is rounded to decimal places, while smaller
numbers stay below it.  The main statement is that a number that overflows shares its rounding to
decimal places with no other number.
-/

namespace SynthGraph

-- Powers are those of the core library, also where a larger library brings its own.
attribute [local instance (2000)] instPowNat

namespace FloatFormat

variable (F : FloatFormat)

/-! ### Whole numbers -/

/-- The code of two to the number of fraction bits, from which on all numbers are whole. -/
def wholeCode : Nat := (F.leastExponent + 1) * 2 ^ F.fractionBits

/-- From the code on, numbers are whole. -/
lemma exists_units_of_wholeCode_le {c : Nat} (h : F.wholeCode ≤ c) :
    ∃ k, F.units c = k * 2 ^ F.leastExponent :=
  F.exists_units_of_exponent_le h

/-! ### Rounding to decimal places -/

/-- The code of a finite magnitude that is rounded to decimal places. -/
def roundedCode (places c : Nat) : Nat :=
  F.nearest (FloatDatum.placesCount F places c * 2 ^ F.leastExponent) (10 ^ places)

/-- A greater magnitude is not rounded to a smaller one. -/
lemma roundedCode_mono (places : Nat) {c c' : Nat} (h : c ≤ c') :
    F.roundedCode places c ≤ F.roundedCode places c' := by
  have hcount : FloatDatum.placesCount F places c ≤ FloatDatum.placesCount F places c' :=
    roundDiv_mono (Nat.two_pow_pos _) (Nat.mul_le_mul_right _ (F.units_mono h))
  exact F.nearest_mono (Nat.pow_pos (by decide)) (Nat.mul_le_mul_right _ hcount)

/-- A whole number stays as it is. -/
lemma roundedCode_of_units_eq (places : Nat) {c k : Nat} (hk : F.units c = k * 2 ^ F.leastExponent)
    (hc : c < F.infinity) : F.roundedCode places c = c := by
  have hcount : FloatDatum.placesCount F places c = k * 10 ^ places := by
    have hscaled : F.units c * 10 ^ places = k * 10 ^ places * 2 ^ F.leastExponent := by
      rw [hk]
      ac_rfl
    rw [FloatDatum.placesCount, hscaled, roundDiv_mul_right _ (Nat.two_pow_pos _)]
  have hback : k * 10 ^ places * 2 ^ F.leastExponent = F.units c * 10 ^ places := by
    rw [hk]
    ac_rfl
  rw [roundedCode, hcount, hback]
  exact F.nearest_units hc (Nat.pow_pos (by decide))

/-- From the code on, numbers stay as they are. -/
lemma roundedCode_of_wholeCode_le (places : Nat) {c : Nat} (hwhole : F.wholeCode ≤ c)
    (hc : c < F.infinity) : F.roundedCode places c = c := by
  obtain ⟨k, hk⟩ := F.exists_units_of_wholeCode_le hwhole
  exact F.roundedCode_of_units_eq places hk hc

/-- What is rounded to a code above the first whole number has that code itself. -/
lemma eq_of_roundedCode_eq {places c c' : Nat} (hc : F.wholeCode < c) (hc' : c' < F.infinity)
    (h : F.roundedCode places c' = c) : c' = c := by
  rcases Nat.lt_or_ge c' F.wholeCode with hlt | hge
  · have hinfinity : F.wholeCode < F.infinity := by
      have hle := F.nearest_lt (FloatDatum.placesCount F places c' * 2 ^ F.leastExponent)
        (10 ^ places)
      rw [roundedCode] at h
      omega
    have hmono := F.roundedCode_mono places (Nat.le_of_lt hlt)
    rw [F.roundedCode_of_wholeCode_le places (Nat.le_refl _) hinfinity] at hmono
    omega
  · rwa [F.roundedCode_of_wholeCode_le places hge hc'] at h

end FloatFormat

namespace FloatDatum

variable {F : FloatFormat}

/-- A finite magnitude is rounded to decimal places through its code. -/
lemma roundPlaces_signed (places : Nat) (negative : Bool) {c : Fin (F.infinity + 1)}
    (hc : c.val < F.infinity) :
    roundPlaces places (signed negative c) =
      .signed negative ⟨F.roundedCode places c, F.nearest_lt _ _⟩ := by
  rw [roundPlaces, if_neg (Nat.ne_of_lt hc)]
  rfl

/-- Infinities stay. -/
lemma roundPlaces_infinity (places : Nat) (negative : Bool) :
    roundPlaces places (infinity negative : FloatDatum F) = .infinity negative := by
  rw [infinity, roundPlaces, if_pos rfl]
  rfl

/-! ### Overflow -/

/-- A finite number whose nearest number of single precision is an infinity. -/
def Overflows (v : Binary64) : Prop :=
  v.isFinite = true ∧ ∃ negative, v.convert .binary32 = .infinity negative

/-- What is a number, but not a finite one, is an infinity. -/
lemma eq_infinity_of_not_isFinite {negative : Bool} {c : Fin (F.infinity + 1)}
    (h : (signed negative c).isFinite = false) :
    (signed negative c : FloatDatum F) = .infinity negative := by
  have hge : ¬c.val < F.infinity := by simpa [isFinite] using h
  have hc : c = ⟨F.infinity, Nat.lt_succ_self _⟩ :=
    Fin.ext (Nat.le_antisymm (Nat.le_of_lt_succ c.isLt) (Nat.not_lt.mp hge))
  rw [hc]
  rfl

/-- An infinity is not finite. -/
lemma isFinite_infinity (negative : Bool) : (infinity negative : FloatDatum F).isFinite = false :=
  decide_eq_false (Nat.lt_irrefl _)

/-- Narrowing fails exactly for the numbers that overflow. -/
lemma narrow?_eq_none_iff {v : Binary64} : v.narrow? = none ↔ v.Overflows := by
  have hnone : v.narrow? = none ↔ v.isFinite = true ∧ (v.convert .binary32).isFinite = false := by
    rw [narrow?]
    cases v.isFinite <;> cases (v.convert .binary32).isFinite <;> simp
  rw [hnone]
  refine and_congr_right fun hfinite => ⟨fun hinfinite => ?_, ?_⟩
  · cases v with
    | nan negative => cases hfinite
    | signed negative c =>
      have hc : c.val < FloatFormat.binary64.infinity := by simpa [isFinite] using hfinite
      refine ⟨negative, ?_⟩
      rw [convert, if_neg (Nat.ne_of_lt hc), ofQuotient] at hinfinite ⊢
      exact eq_infinity_of_not_isFinite hinfinite
  · rintro ⟨negative, hinfinity⟩
    rw [hinfinity]
    exact isFinite_infinity negative

instance (v : Binary64) : Decidable v.Overflows :=
  decidable_of_iff (v.narrow? = none) narrow?_eq_none_iff

/-- Narrowing succeeds for all other numbers. -/
lemma isSome_narrow?_iff {v : Binary64} : v.narrow?.isSome ↔ ¬v.Overflows := by
  rw [← narrow?_eq_none_iff, Option.isSome_iff_ne_none]

/-- Narrowing gives the nearest number of single precision when it gives anything. -/
lemma convert_of_narrow? {v : Binary64} {x : Binary32} (h : v.narrow? = some x) :
    v.convert .binary32 = x := by
  rw [narrow?] at h
  split at h
  · cases h
  · exact Option.some.inj h

/-- Two to the number of fraction bits does not overflow. -/
lemma wholeCode_binary64 :
    FloatFormat.binary32.nearest
      (FloatFormat.binary64.units FloatFormat.binary64.wholeCode *
        2 ^ FloatFormat.binary32.leastExponent)
      (2 ^ FloatFormat.binary64.leastExponent) < FloatFormat.binary32.infinity := by
  decide +kernel

/-- A number that overflows is finite and greater than all numbers that are not whole. -/
lemma Overflows.code {negative : Bool} {c : Fin (FloatFormat.binary64.infinity + 1)}
    (h : (signed negative c : Binary64).Overflows) :
    FloatFormat.binary64.wholeCode < c.val ∧ c.val < FloatFormat.binary64.infinity := by
  obtain ⟨hfinite, sign, hinfinity⟩ := h
  have hc : c.val < FloatFormat.binary64.infinity := by simpa [isFinite] using hfinite
  refine ⟨?_, hc⟩
  by_contra hle
  rw [convert, if_neg (Nat.ne_of_lt hc), ofQuotient, infinity, signed.injEq, Fin.mk.injEq]
    at hinfinity
  have hmono := FloatFormat.binary32.nearest_mono (d := 2 ^ FloatFormat.binary64.leastExponent)
    (Nat.two_pow_pos _) (Nat.mul_le_mul_right (2 ^ FloatFormat.binary32.leastExponent)
      (FloatFormat.binary64.units_mono (Nat.not_lt.mp hle)))
  have hbelow := wholeCode_binary64
  rw [hinfinity.2] at hmono
  omega

/-- Numbers at one place of the numeric order have one magnitude, and one sign unless they are
zeros. -/
lemma code_eq_of_rank?_eq {negative negative' : Bool} {c c' : Fin (F.infinity + 1)}
    (h : (signed negative c : FloatDatum F).rank? = (signed negative' c').rank?) :
    c.val = c'.val ∧ (0 < c.val → negative = negative') := by
  refine ⟨?_, fun hpos => ?_⟩
  · cases negative <;> cases negative' <;> simp only [rank?, Option.some.injEq] at h <;> omega
  · by_contra hne
    cases negative <;> cases negative' <;> first
      | exact hne rfl
      | simp only [rank?, Option.some.injEq] at h
        omega

/-- A number that overflows shares its rounding to decimal places with no other number. -/
theorem Overflows.eq_of_roundPlaces {places : Nat} {v w : Binary64} (hv : v.Overflows)
    (h : (w.roundPlaces places).sameNumber (v.roundPlaces places) = true) : w = v := by
  rw [sameNumber, beq_iff_eq] at h
  cases v with
  | nan negative => cases hv.1
  | signed negative c =>
    obtain ⟨hwhole, hfinite⟩ := hv.code
    have hcode := FloatFormat.binary64.roundedCode_of_wholeCode_le places (Nat.le_of_lt hwhole)
      hfinite
    rw [roundPlaces_signed places negative hfinite] at h
    cases w with
    | nan negative' => cases negative <;> cases h
    | signed negative' c' =>
      rcases Nat.lt_or_ge c'.val FloatFormat.binary64.infinity with hc' | hc'
      · rw [roundPlaces_signed places negative' hc'] at h
        obtain ⟨hrounded, hsign⟩ := code_eq_of_rank?_eq h
        dsimp only at hrounded hsign
        rw [hcode] at hrounded
        rw [hsign (by omega),
          Fin.ext (FloatFormat.binary64.eq_of_roundedCode_eq hwhole hc' hrounded)]
      · -- An infinity stays one, so that its code is not that of a finite number.
        have hinfinite : (signed negative' c' : Binary64) = .infinity negative' :=
          eq_infinity_of_not_isFinite (decide_eq_false (Nat.not_lt.mpr hc'))
        rw [hinfinite, roundPlaces_infinity, infinity] at h
        have hequal : FloatFormat.binary64.infinity = c.val :=
          (code_eq_of_rank?_eq h).1.trans hcode
        exact absurd hequal (Nat.ne_of_gt hfinite)

end FloatDatum

end SynthGraph
