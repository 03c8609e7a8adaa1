import SynthGraph.Proofs.Number.Overflow

/-!
# The numeric order

Two numbers stand in the order of their ranks, infinities at the ends and both zeros at one place.
Rounding to decimal places and conversion to another format keep signs and the order of magnitudes,
and therefore never put two numbers the other way round.
-/

namespace SynthGraph

-- Powers are those of the core library, also where a larger library brings its own.
attribute [local instance (2000)] instPowNat

namespace FloatDatum

variable {F G : FloatFormat} {a b : FloatDatum F}

/-- Numeric `a ≤ b`, false as soon as one of the two is not a number. -/
def AtMost (a b : FloatDatum F) : Prop :=
  ∃ i j, a.rank? = some i ∧ b.rank? = some j ∧ i ≤ j

/-- What is a number has a place in the order. -/
lemma exists_rank? (h : ∀ negative, a ≠ nan negative) : ∃ i, a.rank? = some i := by
  cases a with
  | nan negative => exact absurd rfl (h negative)
  | signed negative c => cases negative <;> exact ⟨_, rfl⟩

/-- A number is at most itself. -/
lemma atMost_self {i : Int} (h : a.rank? = some i) : a.AtMost a := ⟨i, i, h, h, Int.le_refl i⟩

/-- Numbers that do not exceed others are at most those. -/
lemma atMost_of_not_exceeds (ha : ∀ negative, a ≠ nan negative) (hb : ∀ negative, b ≠ nan negative)
    (h : a.exceeds b = false) : a.AtMost b := by
  obtain ⟨i, hi⟩ := exists_rank? ha
  obtain ⟨j, hj⟩ := exists_rank? hb
  refine ⟨i, j, hi, hj, ?_⟩
  simpa [exceeds, hi, hj] using h

/-- Of two numbers one is at most the other. -/
lemma atMost_total {i j : Int} (ha : a.rank? = some i) (hb : b.rank? = some j) :
    a.AtMost b ∨ b.AtMost a := by
  rcases Int.le_total i j with h | h
  · exact .inl ⟨i, j, ha, hb, h⟩
  · exact .inr ⟨j, i, hb, ha, h⟩

/-- Numbers that are at most each other are the same. -/
lemma AtMost.rank?_eq (hab : a.AtMost b) (hba : b.AtMost a) : a.rank? = b.rank? := by
  obtain ⟨i, j, hi, hj, hij⟩ := hab
  obtain ⟨j', i', hj', hi', hji⟩ := hba
  rw [hi] at hi' ⊢
  rw [hj] at hj' ⊢
  obtain rfl := Option.some.inj hi'
  obtain rfl := Option.some.inj hj'
  rw [Int.le_antisymm hij hji]

/-- The rank of a number is its code with its sign. -/
lemma rank?_signed (negative : Bool) (c : Fin (F.infinity + 1)) :
    (signed negative c).rank? = some (if negative then -(c.val : Int) else c.val) := by
  cases negative <;> rfl

/-! ### Keeping the order -/

variable (F G) in
/-- The code that a code is taken to when finite ones are taken to others by `g` and infinity to
infinity. -/
def extendCode (g : Nat → Nat) (c : Nat) : Nat := if c < F.infinity then g c else G.infinity

/-- When finite codes keep their order below infinity, all codes keep their order. -/
lemma extendCode_mono {g : Nat → Nat} (hmono : ∀ {c c' : Nat}, c ≤ c' → g c ≤ g c')
    (hle : ∀ c, g c ≤ G.infinity) {c c' : Nat} (h : c ≤ c') :
    extendCode F G g c ≤ extendCode F G g c' := by
  rw [extendCode, extendCode]
  by_cases hc' : c' < F.infinity
  · rw [if_pos (Nat.lt_of_le_of_lt h hc'), if_pos hc']
    exact hmono h
  · rw [if_neg hc']
    split
    · exact hle c
    · exact Nat.le_refl _

/-- What keeps signs, zero, infinity and the order of finite codes keeps the numeric order. -/
lemma AtMost.map {f : FloatDatum F → FloatDatum G} {g : Nat → Nat} (hF : 0 < F.infinity)
    (hmono : ∀ {c c' : Nat}, c ≤ c' → g c ≤ g c') (hle : ∀ c, g c ≤ G.infinity) (hzero : g 0 = 0)
    (hfinite : ∀ negative c, c.val < F.infinity → (f (signed negative c)).rank? =
      some (if negative then -(g c.val : Int) else g c.val))
    (hinfinity : ∀ negative, f (infinity negative) = infinity negative)
    (h : a.AtMost b) : (f a).AtMost (f b) := by
  have hrank : ∀ negative c, (f (signed negative c)).rank? =
      some (if negative then -(extendCode F G g c.val : Int) else extendCode F G g c.val) := by
    intro negative c
    by_cases hc : c.val < F.infinity
    · rw [hfinite negative c hc, extendCode, if_pos hc]
    · rw [eq_infinity_of_not_isFinite (decide_eq_false hc), hinfinity, infinity, rank?_signed,
        extendCode, if_neg hc]
  have hzero' : extendCode F G g 0 = 0 := by rw [extendCode, if_pos hF, hzero]
  have hmono' : ∀ {c c' : Nat}, c ≤ c' → extendCode F G g c ≤ extendCode F G g c' :=
    extendCode_mono hmono hle
  obtain ⟨i, j, hi, hj, hij⟩ := h
  cases a with
  | nan => cases hi
  | signed s c =>
    cases b with
    | nan => cases hj
    | signed t c' =>
      rw [rank?_signed, Option.some.injEq] at hi hj
      refine ⟨_, _, hrank s c, hrank t c', ?_⟩
      -- Magnitudes of one sign are compared; of different signs only zeros are in question.
      cases s <;> cases t <;> simp only [Bool.false_eq_true, if_true, if_false] at hi hj ⊢
      · have hcodes := hmono' (show c.val ≤ c'.val by omega)
        omega
      · have hc : c.val = 0 := by omega
        have hc' : c'.val = 0 := by omega
        rw [hc, hc', hzero']
        omega
      · omega
      · have hcodes := hmono' (show c'.val ≤ c.val by omega)
        omega

/-- Nothing is rounded to zero. -/
lemma nearest_zero (F : FloatFormat) (d : Nat) : F.nearest 0 d = 0 := by
  simp [FloatFormat.nearest, FloatFormat.excessBits, roundDiv]

/-- Rounding to decimal places never puts two numbers the other way round. -/
theorem AtMost.roundPlaces (places : Nat) (hF : 0 < F.infinity) (h : a.AtMost b) :
    (a.roundPlaces places).AtMost (b.roundPlaces places) := by
  refine h.map (g := F.roundedCode places) hF (F.roundedCode_mono places) ?_ ?_ ?_
    (roundPlaces_infinity places)
  · exact fun c => Nat.le_of_lt_succ (F.nearest_lt _ _)
  · have hcount : placesCount F places 0 = 0 := by simp [placesCount, roundDiv]
    rw [FloatFormat.roundedCode, hcount, Nat.zero_mul, nearest_zero]
  · intro negative c hc
    rw [roundPlaces_signed places negative hc, rank?_signed]

/-- Conversion to another format never puts two numbers the other way round. -/
theorem AtMost.convert (G : FloatFormat) (hF : 0 < F.infinity) (h : a.AtMost b) :
    (a.convert G).AtMost (b.convert G) := by
  have hmono : ∀ {c c' : Nat}, c ≤ c' →
      G.nearest (F.units c * 2 ^ G.leastExponent) (2 ^ F.leastExponent) ≤
        G.nearest (F.units c' * 2 ^ G.leastExponent) (2 ^ F.leastExponent) := fun hcc' =>
    G.nearest_mono (Nat.two_pow_pos _) (Nat.mul_le_mul_right _ (F.units_mono hcc'))
  refine h.map hF hmono ?_ ?_ ?_ ?_
  · exact fun c => Nat.le_of_lt_succ (G.nearest_lt _ _)
  · rw [F.units_zero, Nat.zero_mul, nearest_zero]
  · intro negative c hc
    rw [FloatDatum.convert, if_neg (Nat.ne_of_lt hc), ofQuotient, rank?_signed]
  · intro negative
    rw [infinity, FloatDatum.convert, if_pos rfl]

end FloatDatum

end SynthGraph
