import SynthGraph.Proofs.Graph.Interning
import SynthGraph.Proofs.Number.Places

/-!
# Keys are decimals

The key of a finite literal is a datum of double precision, while the decimal with eight places that
it stands for is in general none.  The theorem says that nothing is lost by this: two keys are the
same number exactly when the decimals are.  Hence literals that share a slot of a pool are close to
each other, great literals are their own keys, and keys are in the order of their literals.
-/

namespace SynthGraph

-- Powers are those of the core library, also where a larger library brings its own.
attribute [local instance (2000)] instPowNat

/-- What is known about the keys of two literals with exact values. -/
structure FaithfulKeys (v w : Binary64) (x y : ℚ) : Prop where
  /-- The key is a number of double precision nearest to the decimal nearest to the literal. -/
  nearest : ∃ k, (constantKey v).value? = some k ∧ ∀ (u : Binary64) z, u.value? = some z →
    |k - toPlaces 8 x| ≤ |z - toPlaces 8 x|
  /-- Two keys are one number exactly when the decimals are one. -/
  same_iff : (constantKey v).sameNumber (constantKey w) = true ↔ toPlaces 8 x = toPlaces 8 y
  /-- Two calls of a run on a pool return one slot exactly when the decimals are one. -/
  slot_iff : ∀ calls i j (slot slot' : Nat), calls[i]? = some v → calls[j]? = some w →
    ConstantPool.outcome? calls i = some (.ok slot) →
    ConstantPool.outcome? calls j = some (.ok slot') →
    (slot = slot' ↔ toPlaces 8 x = toPlaces 8 y)
  /-- Literals that are more than one unit of the eighth decimal place apart share no slot. -/
  apart : ∀ calls i j (slot slot' : Nat), calls[i]? = some v → calls[j]? = some w →
    ConstantPool.outcome? calls i = some (.ok slot) →
    ConstantPool.outcome? calls j = some (.ok slot') → 1 / 10 ^ 8 < |x - y| → slot ≠ slot'
  /-- A literal of at least two to the twenty-sixth is its own key. -/
  own : 2 ^ 26 ≤ |x| → constantKey v = v
  /-- A greater literal has no smaller key. -/
  ordered : x ≤ y → ∃ k l, (constantKey v).value? = some k ∧ (constantKey w).value? = some l ∧ k ≤ l

/-- Double precision has numbers above the first one from which on all are whole. -/
lemma wholeCode_lt_infinity : FloatFormat.binary64.wholeCode < FloatFormat.binary64.infinity := by
  decide

/-- The distance of neighbours at an exponent of double precision. -/
lemma spacing_binary64 : (2 : ℚ) ^ 1048 / 2 ^ FloatFormat.binary64.leastExponent = 1 / 2 ^ 26 := by
  rw [div_eq_div_iff (by positivity) (by positivity), one_mul, ← pow_add]

/-- For any two finite literals, their keys are as faithful as the decimals that they stand for. -/
theorem faithfulKeys_of_value? {v w : Binary64} {x y : ℚ} (hv : v.value? = some x)
    (hw : w.value? = some y) : FaithfulKeys v w x y := by
  have hsame : (constantKey v).sameNumber (constantKey w) = true ↔
      toPlaces 8 x = toPlaces 8 y :=
    FloatDatum.sameNumber_roundPlaces_iff (by decide) wholeCode_lt_infinity hv hw
  have hslots : ∀ calls i j (slot slot' : Nat), calls[i]? = some v → calls[j]? = some w →
      ConstantPool.outcome? calls i = some (.ok slot) →
      ConstantPool.outcome? calls j = some (.ok slot') →
      (slot = slot' ↔ toPlaces 8 x = toPlaces 8 y) := by
    intro calls i j slot slot' hi hj hslot hslot'
    rw [ConstantPool.slot_eq_slot_iff hi hj hslot hslot', ← hsame, FloatDatum.sameNumber,
      beq_iff_eq]
    rfl
  refine ⟨?_, hsame, hslots, ?_, ?_, ?_⟩
  · exact FloatDatum.exists_value?_roundPlaces 8 wholeCode_lt_infinity hv
  · intro calls i j slot slot' hi hj hslot hslot' hfar hequal
    have hdecimal := (hslots calls i j slot slot' hi hj hslot hslot').mp hequal
    exact absurd (abs_sub_le_of_toPlaces_eq hdecimal) (not_le.mpr hfar)
  · intro hgreat
    refine FloatDatum.roundPlaces_eq_self (e := 1048) wholeCode_lt_infinity (by decide) (by decide)
      ?_ hv ?_
    · rw [spacing_binary64]
      norm_num
    · rw [spacing_binary64]
      exact le_trans (by norm_num) hgreat
  · intro hle
    obtain ⟨k, hk, -⟩ := FloatDatum.exists_value?_roundPlaces 8 wholeCode_lt_infinity hv
    obtain ⟨l, hl, -⟩ := FloatDatum.exists_value?_roundPlaces 8 wholeCode_lt_infinity hw
    have horder : (constantKey v).AtMost (constantKey w) :=
      ((FloatDatum.atMost_iff_le hv hw).mpr hle).roundPlaces 8 (by decide)
    exact ⟨k, l, hk, hl, (FloatDatum.atMost_iff_le hk hl).mp horder⟩

/-- Two literals of different signs that are nearer to zero than half a unit of the eighth decimal
place have zeros of different signs as their keys and share a slot. -/
theorem faithfulKeys_tiny :
    let tiny : Bool → Binary64 := fun negative => .ofQuotient negative (2 ^ (1046 : Nat)) 1
    FaithfulKeys (tiny false) (tiny true) (1 / 2 ^ 28) (-1 / 2 ^ 28) ∧
      (constantKey (tiny false), constantKey (tiny true)) = (.zero false, .zero true) ∧
      (List.range 2).map (ConstantPool.outcome? [tiny false, tiny true]) =
        [some (.ok 0), some (.ok 0)] ∧
      toPlaces 8 (1 / 2 ^ 28) = toPlaces 8 (-1 / 2 ^ 28) :=
  ⟨faithfulKeys_of_value? (by decide +kernel) (by decide +kernel), by decide +kernel,
    by decide +kernel, by decide +kernel⟩

end SynthGraph
