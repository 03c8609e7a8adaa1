import SynthGraph.Proofs.Generator.Limits
import SynthGraph.Proofs.Generator.Signals
import SynthGraph.Proofs.Graph.ConstantKey
import SynthGraph.Proofs.Graph.Evaluation

/-!
# What limiting a signal computes

Limiting a signal interns the bounds of a clamp and appends one node, which reads the slots of the
bounds.  A finite bound that is accepted is stored as a finite number, though perhaps as another one
of its key, and the node computes the signal within the numbers that are stored.
-/

namespace SynthGraph

-- Powers are those of the core library, also where a larger library brings its own.
attribute [local instance (2000)] instPowNat

/-! ### Finite literals are stored as finite numbers -/

namespace FloatDatum

variable {F : FloatFormat} {a b : FloatDatum F} {v : Binary64} {literals : List Binary64}

/-- Data at one place of the numeric order are both finite or both not. -/
lemma isFinite_eq_of_rank?_eq (h : a.rank? = b.rank?) : a.isFinite = b.isFinite := by
  cases a with
  | nan =>
    cases b with
    | nan => rfl
    | signed negative c => cases negative <;> cases h
  | signed negative c =>
    cases b with
    | nan => cases negative <;> cases h
    | signed negative' c' =>
      have hcode : c.val = c'.val := (code_eq_of_rank?_eq h).1
      rw [isFinite, isFinite, hcode]

/-- Rounding to decimal places keeps finite data finite, and others as they are. -/
lemma isFinite_roundPlaces (places : Nat) (hwhole : F.wholeCode < F.infinity) (a : FloatDatum F) :
    (a.roundPlaces places).isFinite = a.isFinite := by
  cases hfinite : a.isFinite with
  | true =>
    obtain ⟨x, hx⟩ := isFinite_iff_exists_value?.mp hfinite
    obtain ⟨k, hk, -⟩ := exists_value?_roundPlaces places hwhole hx
    exact isFinite_iff_exists_value?.mpr ⟨k, hk⟩
  | false =>
    cases a with
    | nan negative => rfl
    | signed negative c =>
      rw [eq_infinity_of_not_isFinite hfinite, roundPlaces_infinity, isFinite_infinity]

/-- A finite number that does not overflow is finite in single precision. -/
lemma isFinite_convert (hv : v.isFinite = true) (hfit : ¬v.Overflows) :
    (v.convert .binary32).isFinite = true := by
  rw [← narrow?_eq_none_iff, narrow?, hv, Bool.true_and] at hfit
  by_contra hinfinite
  rw [Bool.not_eq_true] at hinfinite
  exact hfit (by rw [hinfinite]; rfl)

/-- What is stored for a finite number is finite. -/
lemma isFinite_firstStored (hv : v ∈ literals) (hfit : ∀ w ∈ literals, ¬w.Overflows)
    (hfinite : v.isFinite = true) : (firstStored literals v).isFinite = true := by
  have hkey (w : Binary64) : (constantKey w).isFinite = w.isFinite :=
    isFinite_roundPlaces 8 wholeCode_lt_infinity w
  have hfirst : (firstLiteral literals v).isFinite = true := by
    rw [← hkey, isFinite_eq_of_rank?_eq (rank?_constantKey_firstLiteral literals v), hkey, hfinite]
  have hmem : firstLiteral literals v ∈ literals := by
    rw [firstLiteral]
    cases hfind : literals.find? (sameKey · v) with
    | none => exact hv
    | some w => exact List.mem_of_find?_eq_some hfind
  exact isFinite_convert hfirst (hfit _ hmem)

end FloatDatum

namespace ConstantPool

variable {pool pool' : ConstantPool} {literals bounds more : List Binary64} {v : Binary64}
  {slot : Nat}

/-- The number that a pool stores under the key of a literal. -/
def Stores (pool : ConstantPool) (v : Binary64) (x : ℚ) : Prop :=
  ∃ stored : Binary32, (pool.lookup? (constantKey v)).map Prod.snd = some stored ∧
    stored.value? = some x

/-- A pool that holds a literal stores it as the first one of its key. -/
lemma Holds.lookup?_constantKey (h : pool.Holds literals) (hv : v ∈ literals) :
    (pool.lookup? (constantKey v)).map Prod.snd = some (firstStored literals v) := by
  obtain ⟨w, hw⟩ := exists_find?_sameKey hv
  have hfound : literals.find? (fun u => (constantKey u).sameNumber (constantKey v)) = some w := hw
  rw [h, hfound, firstStored, hw]
  rfl

/-- A pool stores a number for each finite literal that it has taken. -/
lemma Lists.stores (h : pool.Lists literals) (hv : v ∈ literals) (hfinite : v.isFinite = true) :
    ∃ x, (firstStored literals v).value? = some x ∧ pool.Stores v x := by
  obtain ⟨x, hx⟩ := FloatDatum.isFinite_iff_exists_value?.mp
    (FloatDatum.isFinite_firstStored hv h.fit hfinite)
  exact ⟨x, hx, _, h.holds.lookup?_constantKey hv, hx⟩

/-- A pool lists one more literal after it has been interned. -/
lemma Lists.concat (h : pool.Lists literals) (hintern : pool.intern v = .ok (slot, pool')) :
    pool'.Lists (literals ++ [v]) :=
  (h.intern (h.not_overflows hintern) hintern).1

/-- After two literals have been interned, the slots of both store the first literals of their
keys. -/
lemma Holds.intern_pair (h : pool.Holds literals) {low high : Binary64} {i j : Nat}
    {pool'' : ConstantPool} (hlow : pool.intern low = .ok (i, pool'))
    (hhigh : pool'.intern high = .ok (j, pool'')) :
    pool''.values[i]? = some (firstStored (literals ++ [low] ++ [high]) low) ∧
      pool''.values[j]? = some (firstStored (literals ++ [low] ++ [high]) high) := by
  obtain ⟨hholds, hi⟩ := h.intern hlow
  obtain ⟨-, hj⟩ := hholds.intern hhigh
  have hkept : firstStored (literals ++ [low] ++ [high]) low =
      firstStored (literals ++ [low]) low :=
    firstStored_of_prefix (by simp) (List.prefix_append _ _)
  exact ⟨hkept ▸ getElem?_of_prefix (values_prefix_of_intern hhigh) hi, hj⟩

/-- The pool goes on with entries for some literals, each under its key and in single precision. -/
def AddsOnly (pool pool' : ConstantPool) (bounds : List Binary64) : Prop :=
  ∃ more : List (Binary64 × Binary32), pool'.entries.toList = pool.entries.toList ++ more ∧
    ∀ e ∈ more, ∃ b ∈ bounds, e.1 = constantKey b ∧ b.narrow? = some e.2

/-- A pool adds nothing to itself. -/
lemma AddsOnly.refl (pool : ConstantPool) (bounds : List Binary64) : pool.AddsOnly pool bounds :=
  ⟨[], (List.append_nil _).symm, List.forall_mem_nil _⟩

/-- Interning adds at most its literal. -/
lemma addsOnly_of_intern (h : pool.intern v = .ok (slot, pool')) : pool.AddsOnly pool' [v] := by
  rcases intern_eq_ok_iff.mp h with ⟨-, rfl⟩ | ⟨-, -, x, hx, rfl⟩
  · exact .refl _ _
  · refine ⟨[(constantKey v, x)], by simp [push], ?_⟩
    simpa using hx

/-- What is added in two parts. -/
lemma AddsOnly.append {pool'' : ConstantPool} (h : pool.AddsOnly pool' bounds)
    (h' : pool'.AddsOnly pool'' more) : pool.AddsOnly pool'' (bounds ++ more) := by
  obtain ⟨first, hfirst, hbounds⟩ := h
  obtain ⟨second, hsecond, hmore⟩ := h'
  refine ⟨first ++ second, by rw [hsecond, hfirst, List.append_assoc], fun e he => ?_⟩
  rcases List.mem_append.mp he with he | he
  · obtain ⟨b, hb, hentry⟩ := hbounds e he
    exact ⟨b, List.mem_append_left _ hb, hentry⟩
  · obtain ⟨b, hb, hentry⟩ := hmore e he
    exact ⟨b, List.mem_append_right _ hb, hentry⟩

end ConstantPool

/-! ### Values within stored limits -/

/-- A value is another one within the limits of a clamp, as far as these are finite, as a pool
stores them. -/
def ConstantPool.Limits {K : Type*} [DivisionRing K] [LinearOrder K] (pool : ConstantPool)
    (total value : K) : Option Clamp → Prop
  | none => value = total
  | some (.floor low) => low.isFinite = true → ∃ l, pool.Stores low l ∧ value = max total (l : K)
  | some (.range low high) => low.isFinite = true → high.isFinite = true →
    ∃ l h, pool.Stores low l ∧ pool.Stores high h ∧ value = max (l : K) (min total (h : K))

namespace Interpretation

variable {K : Type*} [DivisionRing K] [LinearOrder K]

/-- The interpretation in which arithmetic nodes add and take maxima. -/
def withArithmetic (I : Interpretation K) : Interpretation K where
  pan := I.pan
  other n slot inputs :=
    match n.className, inputs with
    | "BinaryOpUGen", [x, y] =>
      if n.special = BinaryOperator.add.special then x + y
      else if n.special = BinaryOperator.max.special then max x y
      else I.other n slot inputs
    | _, _ => I.other n slot inputs

variable {I : Interpretation K} {env : Reference → K} {index : Nat}

/-- A single node that is evaluated has its output. -/
lemma evaluate_singleton (n : Node) (slot : Int) :
    I.evaluate env index [n] ⟨index, slot⟩ = I.output n slot (n.inputs.map env) := extend_self

/-- Nodes that are evaluated in two parts. -/
lemma evaluate_append (I : Interpretation K) (env : Reference → K) (index : Nat)
    (ns ms : List Node) :
    I.evaluate env index (ns ++ ms) =
      I.evaluate (I.evaluate env index ns) (index + ns.length) ms := by
  induction ns generalizing env index with
  | nil => rfl
  | cons n ns ih =>
    have hplace : index + (n :: ns).length = index + 1 + ns.length := by
      rw [List.length_cons]
      omega
    rw [List.cons_append, evaluate, ih, evaluate, hplace]

end Interpretation

/-! ### Limiting a signal -/

/-- What limiting a signal leads to behind a number of nodes: the reference that it returns, the
pool, and the nodes that it appends. -/
inductive Limited (pool : ConstantPool) (index : Nat) (rate : Rate) (signal : Reference) :
    Option Clamp → Reference → ConstantPool → List Node → Prop where
  /-- Without a clamp the signal is left as it is. -/
  | none : Limited pool index rate signal none signal pool []
  /-- From a bound upwards it is the maximum of the signal and the bound. -/
  | floor {low : Binary64} {i : Nat} {pool' : ConstantPool}
      (hlow : pool.intern low = .ok (i, pool')) :
      Limited pool index rate signal (some (.floor low)) ⟨index, 0⟩ pool'
        [⟨"BinaryOpUGen", rate, [signal, .constant i], [rate], BinaryOperator.max.special⟩]
  /-- Between two bounds it is clipped. -/
  | range {low high : Binary64} {i j : Nat} {pool' pool'' : ConstantPool}
      (hlow : pool.intern low = .ok (i, pool')) (hhigh : pool'.intern high = .ok (j, pool'')) :
      Limited pool index rate signal (some (.range low high)) ⟨index, 0⟩ pool''
        [⟨"Clip", rate, [signal, .constant i, .constant j], [rate], 0⟩]

namespace Limited

variable {pool pool' : ConstantPool} {index : Nat} {rate : Rate} {signal r : Reference}
  {clamp : Option Clamp} {nodes : List Node} {literals : List Binary64}

/-- Only bounds are added to the pool. -/
lemma addsOnly (h : Limited pool index rate signal clamp r pool' nodes) :
    pool.AddsOnly pool' ((clamp.map Clamp.bounds).getD []) := by
  cases h with
  | none => exact .refl _ _
  | floor hlow => exact ConstantPool.addsOnly_of_intern hlow
  | range hlow hhigh =>
    exact (ConstantPool.addsOnly_of_intern hlow).append (ConstantPool.addsOnly_of_intern hhigh)

/-- One node is appended for a clamp. -/
lemma length (h : Limited pool index rate signal clamp r pool' nodes) :
    nodes.length = if clamp.isSome then 1 else 0 := by
  cases h <;> rfl

/-- The node has the rate of the signal. -/
lemma rate_eq (h : Limited pool index rate signal clamp r pool' nodes) :
    ∀ n ∈ nodes, n.rate = rate := by
  cases h <;> simp

variable {K : Type*} [DivisionRing K] [LinearOrder K]

/-- Evaluated over values that fit the pool, what is returned is the signal within the limits. -/
lemma limits (h : Limited pool index rate signal clamp r pool' nodes) (hpool : pool.Lists literals)
    {env : Reference → K} (henv : ∀ (slot : Nat) x q, pool'.values[slot]? = some x →
      x.value? = some q → env (.constant slot) = (q : K)) (I : Interpretation K) :
    pool'.Limits (env signal) (I.withArithmetic.evaluate env index nodes r) clamp := by
  cases h with
  | none => rfl
  | @floor low i _ hlow =>
    intro hfinite
    have hlists := hpool.concat hlow
    obtain ⟨l, hl, hstores⟩ := hlists.stores (List.mem_append_right _ (by simp)) hfinite
    have hread : env (.constant i) = l := henv i _ l (hpool.holds.intern hlow).2 hl
    refine ⟨l, hstores, ?_⟩
    rw [Interpretation.evaluate_singleton, ← hread]
    rfl
  | @range low high i j _ _ hlow hhigh =>
    intro hlowFinite hhighFinite
    have hlists₁ := hpool.concat hlow
    have hlists₂ := hlists₁.concat hhigh
    obtain ⟨l, hl, hstoresLow⟩ := hlists₂.stores (v := low) (by simp) hlowFinite
    obtain ⟨h, hh, hstoresHigh⟩ := hlists₂.stores (v := high) (by simp) hhighFinite
    obtain ⟨hi, hj⟩ := hpool.holds.intern_pair hlow hhigh
    have hreadLow : env (.constant i) = l := henv i _ l hi hl
    have hreadHigh : env (.constant j) = h := henv j _ h hj hh
    refine ⟨l, h, hstoresLow, hstoresHigh, ?_⟩
    rw [Interpretation.evaluate_singleton, ← hreadLow, ← hreadHigh]
    rfl

end Limited

end SynthGraph
