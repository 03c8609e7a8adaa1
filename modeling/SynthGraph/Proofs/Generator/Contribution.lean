import SynthGraph.Proofs.Generator.Limiting
import SynthGraph.Proofs.Generator.OutputStage

/-!
# What a parameter contributes

Behind every reachable definition, the contribution of a parameter is its value with its modulation,
within the limits that are stored for its clamp.  It can be appended exactly when the parameter and
its modulation have control nodes and no bound overflows, and when it cannot, what was appended
before the failure stays: at most the sum, and at most the lower bound of a range.
-/

namespace SynthGraph

-- Powers are those of the core library, also where a larger library brings its own.
attribute [local instance (2000)] instPowNat

variable {d d' : Definition} {literals : List Binary64} {name : String} {p : ParamSpec}
  {signal r : Reference} {nodes : List Node}

namespace Definition

/-! ### Parameters with control nodes -/

/-- The parameter of a name, which is bound to an output of a control node. -/
def Exposes (d : Definition) (name : String) (q : Parameter) : Prop :=
  q ∈ d.parameters.toList ∧ q.name = name ∧ ∃ r, (name, r) ∈ d.bindings ∧ d.Binds (name, r) q

/-- The reference to a parameter is found exactly when the parameter has a control node, and is the
output that it is bound to. -/
lemma WellBound.parameterReference_cases (hd : d.WellBound) (name : String) :
    (∃ r q, d.parameterReference name = .ok r ∧ d.Exposes name q ∧ (name, r) ∈ d.bindings ∧
        d.Binds (name, r) q) ∨
      ((∃ e, d.parameterReference name = .error e) ∧ ∀ q, ¬d.Exposes name q) := by
  cases href : d.parameterReference name with
  | ok r =>
    obtain ⟨q, hq, hname, hmem, hbinds⟩ := hd.binds_of_parameterReference href
    exact .inl ⟨r, q, rfl, ⟨hq, hname, r, hmem, hbinds⟩, hmem, hbinds⟩
  | error e =>
    refine .inr ⟨⟨e, rfl⟩, ?_⟩
    rintro q ⟨hq, hname, r, hmem, -⟩
    -- A parameter that is in the table and has a binding is found.
    have hfound : d.parameters.find? name = some q := hname ▸ hd.table.find?_name hq
    have hbound : (d.bindings.find? (·.1 == name)).isSome := by
      rw [List.find?_isSome]
      exact ⟨_, hmem, by simp⟩
    obtain ⟨b, hb⟩ := Option.isSome_iff_exists.mp hbound
    rw [parameterReference, ParameterTable.get, hfound, binding?, hb] at href
    cases href

/-! ### Appending constants and nodes -/

/-- The definition with another pool and more nodes. -/
def extendBy (d : Definition) (pool : ConstantPool) (ns : List Node) : Definition :=
  { d with constants := pool, nodes := d.nodes ++ ns.toArray }

/-- Nothing more. -/
@[simp] lemma extendBy_nil (d : Definition) : d.extendBy d.constants [] = d := by
  simp [extendBy]

/-- Another pool and the same nodes. -/
lemma extendBy_pool (d : Definition) (pool : ConstantPool) :
    d.extendBy pool [] = { d with constants := pool } := by
  simp [extendBy]

/-- The same pool and more nodes. -/
lemma extendBy_constants (d : Definition) (ns : List Node) :
    d.extendBy d.constants ns = d.appendAll ns := rfl

/-- A node more after a change of the pool. -/
lemma append_constants (d : Definition) (pool : ConstantPool) (n : Node) :
    ({ d with constants := pool } : Definition).append n = d.extendBy pool [n] := by
  simp [extendBy, append]

/-- Nodes that are appended before the pool is changed. -/
lemma extendBy_appendAll (d : Definition) (pool : ConstantPool) (ns ms : List Node) :
    (d.appendAll ns).extendBy pool ms = d.extendBy pool (ns ++ ms) := by
  simp [extendBy, appendAll]

/-- A unit that reads what is offered is appended. -/
lemma apply_unit_of_offers {className : String} {rate : Rate} {inputs : List Reference}
    {special : Int} (hclass : IsShortName className) (hspecial : Edit.specialFits special = true)
    (hinputs : ∀ r ∈ inputs, d.Offers d.nodes.size r) :
    (Edit.unit className rate.code inputs special).apply d =
      (.ok ⟨d.nodes.size, 0⟩, d.append ⟨className, rate, inputs, [rate], special⟩) := by
  have hnode : d.newNode className rate.code inputs 1 special =
      .ok ⟨className, rate, inputs, [rate], special⟩ :=
    newNode_code_eq_ok_iff.mpr ⟨⟨hclass, Int.one_nonneg, hspecial, hinputs⟩, rfl⟩
  exact Edit.apply_unit_eq_ok.mpr ⟨_, hnode, rfl, rfl⟩

end Definition

open Definition

/-! ### The sum -/

/-- The number is the value of the parameter, plus that of its modulation when it has one. -/
def Definition.Sums {K : Type*} [Add K] (d : Definition) (p : ParamSpec) (parameters : Int → K)
    (total : K) : Prop :=
  ∃ base, d.Exposes p.name base ∧
    match p.modName with
    | none => total = parameters base.index
    | some modName => ∃ modulation, d.Exposes modName modulation ∧
      total = parameters base.index + parameters modulation.index

/-- The parameter and its modulation have control nodes. -/
def ParamSpec.IsExposed (p : ParamSpec) (d : Definition) : Prop :=
  (∃ q, d.Exposes p.name q) ∧ ∀ modName ∈ p.modName, ∃ q, d.Exposes modName q

/-- What adding the modulation leads to: the reference that it returns and the nodes that it
appends. -/
inductive Summed (d : Definition) (p : ParamSpec) : Reference → List Node → Prop where
  /-- Without a modulation the value of the parameter is left as it is. -/
  | plain {base : Reference} (hmod : p.modName = none)
      (hbase : d.parameterReference p.name = .ok base) : Summed d p base []
  /-- A modulation is added at audio rate. -/
  | modulated {modName : String} {base modulation : Reference} (hmod : p.modName = some modName)
      (hbase : d.parameterReference p.name = .ok base)
      (hmodulation : d.parameterReference modName = .ok modulation) :
      Summed d p ⟨d.nodes.size, 0⟩
        [⟨"BinaryOpUGen", .audio, [base, modulation], [.audio], BinaryOperator.add.special⟩]

namespace Summed

/-- One node is appended for a modulation. -/
lemma length (h : Summed d p signal nodes) : nodes.length = if p.modulated then 1 else 0 := by
  cases h with
  | plain hmod => simp [ParamSpec.modulated, hmod]
  | modulated hmod => simp [ParamSpec.modulated, hmod]

/-- The node has audio rate. -/
lemma rate_eq (h : Summed d p signal nodes) : ∀ n ∈ nodes, n.rate = p.signalRate := by
  cases h with
  | plain => simp
  | modulated hmod => simp [ParamSpec.signalRate, ParamSpec.modulated, hmod]

variable {K : Type*} [DivisionRing K] [LinearOrder K]

/-- Evaluated over values that fit the definition, what is returned is the value of the parameter
plus that of its modulation. -/
lemma sums (h : Summed d p signal nodes) (hd : d.WellBound) {parameters : Int → K}
    {env : Reference → K} (henv : ∀ name q r, (name, r) ∈ d.bindings → d.Binds (name, r) q →
      env r = parameters q.index) (I : Interpretation K) :
    d.Sums p parameters (I.withArithmetic.evaluate env d.nodes.size nodes signal) := by
  have hexposed {name : String} {r : Reference} (href : d.parameterReference name = .ok r) :
      ∃ q, d.Exposes name q ∧ env r = parameters q.index := by
    obtain ⟨q, hq, hname, hmem, hbinds⟩ := hd.binds_of_parameterReference href
    exact ⟨q, ⟨hq, hname, r, hmem, hbinds⟩, henv name q r hmem hbinds⟩
  cases h with
  | plain hmod hbase =>
    obtain ⟨base, hbase, hvalue⟩ := hexposed hbase
    refine ⟨base, hbase, ?_⟩
    rw [hmod]
    exact hvalue
  | modulated hmod hbase hmodulation =>
    obtain ⟨base, hbase, hbaseValue⟩ := hexposed hbase
    obtain ⟨modulation, hmodulation, hmodulationValue⟩ := hexposed hmodulation
    refine ⟨base, hbase, ?_⟩
    rw [hmod]
    refine ⟨modulation, hmodulation, ?_⟩
    rw [Interpretation.evaluate_singleton, ← hbaseValue, ← hmodulationValue]
    rfl

end Summed

namespace Template

open Edit

/-- The modulation of a parameter is added exactly when both have control nodes, and nothing changes
otherwise. -/
lemma modulated_cases (hd : d.WellBound) (p : ParamSpec) :
    (p.IsExposed d ∧ ∃ signal nodes, Summed d p signal nodes ∧
        (modulated p).apply d = (.ok (signal, p.signalRate), d.appendAll nodes)) ∨
      (¬p.IsExposed d ∧ ∃ e, (modulated p).apply d = (.error e, d)) := by
  rcases hd.parameterReference_cases p.name with
    ⟨base, q, hbase, hexposed, -⟩ | ⟨⟨e, hbase⟩, hnone⟩
  case inr =>
    refine .inr ⟨fun h => (h.1.elim hnone), e, ?_⟩
    rw [modulated, parameter, apply_bind, apply_ask, hbase]
  rw [modulated, apply_bind_of_eq_ok (apply_parameter_of_eq_ok hbase)]
  cases hmod : p.modName with
  | none =>
    have hrate : p.signalRate = .control := by
      simp [ParamSpec.signalRate, ParamSpec.modulated, hmod]
    refine .inl ⟨⟨⟨q, hexposed⟩, by simp [hmod]⟩, base, [], .plain hmod hbase, ?_⟩
    rw [hrate, appendAll_nil]
    rfl
  | some modName =>
    have hrate : p.signalRate = .audio := by
      simp [ParamSpec.signalRate, ParamSpec.modulated, hmod]
    rcases hd.parameterReference_cases modName with
      ⟨modulation, q', hmodulation, hexposed', -⟩ | ⟨⟨e, hmodulation⟩, hnone⟩
    case inr =>
      refine .inr ⟨fun h => (h.2 modName hmod).elim hnone, e, ?_⟩
      dsimp only
      rw [parameter, apply_bind, apply_ask, hmodulation]
    have hinputs : ∀ r ∈ [base, modulation], d.Offers d.nodes.size r := by
      simpa using ⟨hd.offers_of_parameterReference hbase,
        hd.offers_of_parameterReference hmodulation⟩
    have hsum : (binary .add Rate.audio.code base modulation).apply d =
        (.ok ⟨d.nodes.size, 0⟩, d.append
          ⟨"BinaryOpUGen", .audio, [base, modulation], [.audio], BinaryOperator.add.special⟩) :=
      apply_unit_of_offers (by decide) (by decide) hinputs
    refine .inl ⟨⟨⟨q, hexposed⟩, ?_⟩, _, _, .modulated hmod hbase hmodulation, ?_⟩
    · rw [hmod]
      rintro _ ⟨⟩
      exact ⟨q', hexposed'⟩
    · dsimp only
      rw [apply_bind_of_eq_ok (apply_parameter_of_eq_ok hmodulation), apply_bind_of_eq_ok hsum,
        hrate]
      rfl

/-- Adding a bound to a pool succeeds exactly when it does not overflow, and changes nothing
otherwise. -/
lemma constant_cases (hpool : d.constants.Lists literals) (b : Binary64) :
    (¬b.Overflows ∧ ∃ i pool, d.constants.intern b = .ok (i, pool) ∧
        (constant b).apply d = (.ok (.constant i), { d with constants := pool })) ∨
      (b.Overflows ∧ ∃ e, (constant b).apply d = (.error e, d)) := by
  by_cases hb : b.Overflows
  · refine .inr ⟨hb, .notSingle b, ?_⟩
    rw [apply_constant, hpool.holds.intern_of_overflows hpool.fit hb]
  · obtain ⟨i, pool, hintern⟩ := d.constants.exists_intern_eq_ok hb
    exact .inl ⟨hb, i, pool, hintern, apply_constant_eq_ok.mpr ⟨i, pool, hintern, rfl, rfl⟩⟩

/-- A signal is limited exactly when no bound overflows; otherwise at most the lower bound of a
range has been added. -/
lemma clamped_cases (hpool : d.constants.Lists literals) (hsignal : d.Offers d.nodes.size signal)
    (clamp : Clamp) (rate : Rate) :
    ((∀ b ∈ clamp.bounds, ¬b.Overflows) ∧ ∃ r pool nodes,
        Limited d.constants d.nodes.size rate signal (some clamp) r pool nodes ∧
          (clamped signal clamp rate).apply d = (.ok r, d.extendBy pool nodes)) ∨
      ((¬∀ b ∈ clamp.bounds, ¬b.Overflows) ∧ ∃ e pool,
        (clamped signal clamp rate).apply d = (.error e, d.extendBy pool []) ∧
          (pool = d.constants ∨ ∃ low high, clamp = .range low high ∧
            d.constants.AddsOnly pool [low])) := by
  cases clamp with
  | floor low =>
    rcases constant_cases hpool low with ⟨hlow, i, pool, hintern, hrun⟩ | ⟨hlow, e, hrun⟩
    case inr =>
      refine .inr ⟨by simpa [Clamp.bounds] using hlow, e, d.constants, ?_, .inl rfl⟩
      rw [clamped, apply_bind, hrun, extendBy_nil]
    have hextends := (Step.constant (d := d) hintern).extends
    have hinputs : ∀ r ∈ [signal, .constant i],
        ({ d with constants := pool } : Definition).Offers d.nodes.size r := by
      simpa using ⟨hsignal.mono hextends le_rfl, offers_of_apply_constant hrun⟩
    refine .inl ⟨by simpa [Clamp.bounds] using hlow, _, _, _, .floor hintern, ?_⟩
    rw [clamped, apply_bind_of_eq_ok hrun, ← append_constants]
    exact apply_unit_of_offers (by decide) (by decide) hinputs
  | range low high =>
    rcases constant_cases hpool low with ⟨hlow, i, pool, hintern, hrun⟩ | ⟨hlow, e, hrun⟩
    case inr =>
      refine .inr ⟨by simp [Clamp.bounds, hlow], e, d.constants, ?_, .inl rfl⟩
      rw [clamped, apply_bind, hrun, extendBy_nil]
    have hpool' : pool.Lists (literals ++ [low]) := hpool.concat hintern
    rcases constant_cases (d := { d with constants := pool }) hpool' high with
      ⟨hhigh, j, pool', hintern', hrun'⟩ | ⟨hhigh, e, hrun'⟩
    case inr =>
      refine .inr ⟨by simp [Clamp.bounds, hhigh], e, pool, ?_, .inr ⟨low, high, rfl, ?_⟩⟩
      · rw [clamped, apply_bind_of_eq_ok hrun, apply_bind, hrun', extendBy_pool]
      · exact ConstantPool.addsOnly_of_intern hintern
    have hextends := (Step.constant (d := d) hintern).extends
    have hextends' := (Step.constant (d := { d with constants := pool }) hintern').extends
    have hinputs : ∀ r ∈ [signal, .constant i, .constant j],
        ({ d with constants := pool' } : Definition).Offers d.nodes.size r :=
      forall_mem_triple (hsignal.mono (hextends.trans hextends') le_rfl)
        ((offers_of_apply_constant hrun).mono hextends' le_rfl) (offers_of_apply_constant hrun')
    refine .inl ⟨by simp [Clamp.bounds, hlow, hhigh], _, _, _, .range hintern hintern', ?_⟩
    rw [clamped, apply_bind_of_eq_ok hrun, apply_bind_of_eq_ok hrun', ← append_constants]
    exact apply_unit_of_offers (by decide) (by decide) hinputs

/-- The contribution of a parameter is appended exactly when its sum is and no literal overflows;
otherwise at most the sum and the lower bound of a range have been. -/
lemma contribution_cases (hd : d.WellBound) (hpool : d.constants.Lists literals) (p : ParamSpec) :
    ((p.IsExposed d ∧ ∀ b ∈ p.literals, ¬b.Overflows) ∧ ∃ signal sum r pool limit,
        Summed d p signal sum ∧ Limited d.constants (d.nodes.size + sum.length) p.signalRate signal
            p.effectiveClamp r pool limit ∧
          (contribution p).apply d = (.ok r, d.extendBy pool (sum ++ limit))) ∨
      ((¬(p.IsExposed d ∧ ∀ b ∈ p.literals, ¬b.Overflows)) ∧ ∃ e sum pool,
        (contribution p).apply d = (.error e, d.extendBy pool sum) ∧
          (sum = [] ∨ ∃ signal, Summed d p signal sum) ∧
          (pool = d.constants ∨ ∃ low high, p.effectiveClamp = some (.range low high) ∧
            d.constants.AddsOnly pool [low])) := by
  rcases modulated_cases hd p with ⟨hexposed, signal, sum, hsum, hrun⟩ | ⟨hexposed, e, hrun⟩
  case inr =>
    refine .inr ⟨fun h => hexposed h.1, e, [], d.constants, ?_, .inl rfl, .inl rfl⟩
    rw [contribution, apply_bind, hrun, extendBy_nil]
  rw [contribution, apply_bind_of_eq_ok hrun]
  dsimp only
  have hsize : (d.appendAll sum).nodes.size = d.nodes.size + sum.length := by simp [appendAll]
  cases hclamp : p.effectiveClamp with
  | none =>
    have hliterals : p.literals = [] := by rw [ParamSpec.literals, hclamp]; rfl
    refine .inl ⟨⟨hexposed, by simp [hliterals]⟩, signal, sum, _, _, _, hsum, .none, ?_⟩
    rw [List.append_nil, extendBy_constants]
    rfl
  | some clamp =>
    have hliterals : p.literals = clamp.bounds := by rw [ParamSpec.literals, hclamp]; rfl
    rw [hliterals]
    have hoffers := hd.offers_of_apply_modulated hrun
    rcases clamped_cases (d := d.appendAll sum) hpool hoffers clamp p.signalRate with
      ⟨hfit, r, pool, limit, hlimit, hrun'⟩ | ⟨hfit, e, pool, hrun', hpool'⟩
    · rw [hsize] at hlimit
      refine .inl ⟨⟨hexposed, hfit⟩, signal, sum, r, pool, limit, hsum, hlimit, ?_⟩
      rw [hrun', extendBy_appendAll]
    · refine .inr ⟨fun h => hfit h.2, e, sum, pool, ?_, .inr ⟨signal, hsum⟩, ?_⟩
      · rw [hrun', extendBy_appendAll, List.append_nil]
      · rcases hpool' with hpool' | ⟨low, high, rfl, hadds⟩
        · exact .inl hpool'
        · exact .inr ⟨low, high, rfl, hadds⟩

end Template

/-! ### The contribution -/

namespace Definition

open Template

/-- What appending the contribution of a parameter does to a definition. -/
structure Contributes (K : Type*) [DivisionRing K] [LinearOrder K] (d : Definition)
    (p : ParamSpec) : Prop where
  /-- It succeeds exactly when the parameter and its modulation have control nodes and no bound of
  its clamp is a finite number that becomes infinite in single precision. -/
  succeeds_iff : (∃ r d', (contribution p).apply d = (.ok r, d')) ↔
    p.IsExposed d ∧ ∀ b ∈ p.literals, ¬b.Overflows
  /-- When it succeeds, it appends a node for the modulation and one for the clamp, at audio rate
  with a modulation and at control rate without, and adds only bounds of the clamp to the pool.
  Whatever is assigned to the parameters, what is returned is the sum of the parameter and its
  modulation, within the limits that are stored for the clamp. -/
  appends : ∀ r d', (contribution p).apply d = (.ok r, d') → ∃ pool nodes,
    d' = { d with constants := pool, nodes := d.nodes ++ nodes.toArray } ∧
      nodes.length = (if p.modulated then 1 else 0) + (if p.effectiveClamp.isSome then 1 else 0) ∧
      (∀ n ∈ nodes, n.rate = if p.modulated then .audio else .control) ∧
      d.constants.AddsOnly pool p.literals ∧
      ∀ (I : Interpretation K) (parameters : Int → K) (env : Reference → K),
        d'.Assigns parameters env → ∃ total, d.Sums p parameters total ∧
          pool.Limits total (I.withArithmetic.evaluate env d.nodes.size nodes r) p.effectiveClamp
  /-- Without a modulation and a clamp, it is the reference to the parameter. -/
  plain : p.modName = none → p.effectiveClamp = none →
    (contribution p).apply d = (d.parameterReference p.name, d)
  /-- When it fails, it has appended at most the sum and at most the lower bound of a range, and
  changed nothing else. -/
  fails : ∀ e d', (contribution p).apply d = (.error e, d') → ∃ pool nodes,
    d' = { d with constants := pool, nodes := d.nodes ++ nodes.toArray } ∧
      (nodes = [] ∨ ∃ modName base modulation, p.modName = some modName ∧
        d.parameterReference p.name = .ok base ∧ d.parameterReference modName = .ok modulation ∧
        nodes =
          [⟨"BinaryOpUGen", .audio, [base, modulation], [.audio], BinaryOperator.add.special⟩]) ∧
      (pool = d.constants ∨ ∃ low high, p.effectiveClamp = some (.range low high) ∧
        d.constants.AddsOnly pool [low])

/-- A parameter without a modulation and a clamp contributes the output that it is bound to. -/
lemma apply_contribution_plain (hmod : p.modName = none) (hclamp : p.effectiveClamp = none)
    (d : Definition) : (contribution p).apply d = (d.parameterReference p.name, d) := by
  rw [contribution, modulated, parameter, Edit.apply_bind, Edit.apply_bind, Edit.apply_ask]
  cases d.parameterReference p.name with
  | error e => rfl
  | ok base => rw [hmod, hclamp]; rfl

/-- A contribution that is appended is the sum and then its limits. -/
lemma Reachable.apply_contribution_eq_ok (h : d.Reachable)
    (hrun : (contribution p).apply d = (.ok r, d')) : ∃ signal sum pool limit,
      Summed d p signal sum ∧
        Limited d.constants (d.nodes.size + sum.length) p.signalRate signal p.effectiveClamp r pool
          limit ∧
        d' = d.extendBy pool (sum ++ limit) := by
  obtain ⟨literals, hpool⟩ := h.exists_lists
  rcases contribution_cases h.wellBound hpool p with
    ⟨-, signal, sum, r', pool, limit, hsum, hlimit, hrun'⟩ | ⟨-, e, sum, pool, hrun', -⟩
  · rw [hrun, Prod.mk.injEq, Except.ok.injEq] at hrun'
    obtain ⟨rfl, rfl⟩ := hrun'
    exact ⟨signal, sum, pool, limit, hsum, hlimit, rfl⟩
  · rw [hrun] at hrun'
    cases hrun'

variable {K : Type*} [DivisionRing K] [LinearOrder K]

/-- Behind every reachable definition, every parameter contributes its value with its modulation,
within its limits, or fails for a name or a bound and leaves at most its first steps behind. -/
theorem Reachable.contributes (h : d.Reachable) (p : ParamSpec) : d.Contributes K p := by
  have hd := h.wellBound
  obtain ⟨literals, hpool⟩ := h.exists_lists
  rcases contribution_cases hd hpool p with
    ⟨hcan, signal, sum, r, pool, limit, hsum, hlimit, hrun⟩ |
    ⟨hcannot, e, sum, pool, hrun, hsum, hpool'⟩
  · refine ⟨⟨fun _ => hcan, fun _ => ⟨r, _, hrun⟩⟩, fun r' d' hrun' => ?_,
      fun hmod hclamp => apply_contribution_plain hmod hclamp d, fun e d' hrun' => ?_⟩
    · rw [hrun, Prod.mk.injEq, Except.ok.injEq] at hrun'
      obtain ⟨rfl, rfl⟩ := hrun'
      refine ⟨pool, sum ++ limit, rfl, ?_, ?_, hlimit.addsOnly, fun I parameters env henv => ?_⟩
      · rw [List.length_append, hsum.length, hlimit.length]
      · exact List.forall_mem_append.mpr ⟨hsum.rate_eq, hlimit.rate_eq⟩
      · -- The limits are evaluated over the values that the sum leaves.
        have hextends : d.Extends (d.extendBy pool (sum ++ limit)) := by
          have hsteps := (makesSteps_contribution p d).extends
          rwa [hrun] at hsteps
        refine ⟨I.withArithmetic.evaluate env d.nodes.size sum signal, ?_, ?_⟩
        · exact hsum.sums hd (fun name q r hmem hbinds =>
            henv.eq_of_binds hmem (hbinds.mono hextends)) I
        · rw [Interpretation.evaluate_append]
          refine hlimit.limits hpool (fun slot x q hx hq => ?_) I
          rw [Interpretation.evaluate_of_lt (by simp [Reference.constant]; omega)]
          exact henv.constant slot x q hx hq
    · rw [hrun] at hrun'
      cases hrun'
  · refine ⟨⟨?_, fun hcan => absurd hcan hcannot⟩, fun r d' hrun' => ?_,
      fun hmod hclamp => apply_contribution_plain hmod hclamp d, fun e d' hrun' => ?_⟩
    · rintro ⟨r, d', hrun'⟩
      rw [hrun] at hrun'
      cases hrun'
    · rw [hrun] at hrun'
      cases hrun'
    · rw [hrun, Prod.mk.injEq] at hrun'
      obtain ⟨-, rfl⟩ := hrun'
      refine ⟨pool, sum, rfl, ?_, hpool'⟩
      rcases hsum with hsum | ⟨signal, hsum⟩
      · exact .inl hsum
      · cases hsum with
        | plain => exact .inl rfl
        | modulated hmod hbase hmodulation =>
          exact .inr ⟨_, _, _, hmod, hbase, hmodulation, rfl⟩

/-- A definition with a parameter, its modulation, and a literal. -/
def widthTone : Definition :=
  (⟨"tone", .empty, .empty, #[], []⟩ : Definition).run
    [.declare "width" (.zero false) "control", .declare "width_mod" (.zero false) "audio",
      .controls, .constant (.ofInt 1)]

/-- A modulated parameter between zero and a bound. -/
def widthUpTo (high : Binary64) : ParamSpec :=
  ⟨"width", .zero false, .core, some "width_mod", some (.range (.ofInt 0) high)⟩

/-- Up to one, the sum of both is clipped; a bound that overflows leaves the sum and the lower bound
behind. -/
theorem contributes_widthTone :
    let appended := (contribution (widthUpTo (.ofInt 1))).apply widthTone
    let heard (width modulation : ℚ) : ℚ := Interpretation.evaluate
      (Interpretation.withArithmetic ⟨fun _ _ _ _ => 0, fun _ _ _ => 0⟩)
      (appended.2.assigned fun i => if i = 0 then width else modulation) 2
      (appended.2.nodes.toList.drop 2) ⟨3, 0⟩
    let refused := (contribution (widthUpTo (.ofInt (10 ^ (300 : Nat))))).apply widthTone
    widthTone.Reachable ∧ widthTone.Contributes ℚ (widthUpTo (.ofInt 1)) ∧
      appended.1 = .ok ⟨3, 0⟩ ∧ heard (1 / 4) (1 / 2) = 3 / 4 ∧ heard (3 / 4) (1 / 2) = 1 ∧
      heard (1 / 4) (-1 / 2) = 0 ∧ refused.1 = .error (.notSingle (.ofInt (10 ^ (300 : Nat)))) ∧
      refused.2.nodes.size = 3 ∧ refused.2.constants.values = [.ofInt 1, .zero false] := by
  intro appended heard refused
  have hnew : Definition.new "tone" = .ok ⟨"tone", .empty, .empty, #[], []⟩ := by rfl
  have hreach : widthTone.Reachable := (Reachable.new hnew).run _
  exact ⟨hreach, hreach.contributes _, by decide +kernel, by decide +kernel, by decide +kernel,
    by decide +kernel, by decide +kernel, by decide +kernel, by decide +kernel⟩

end Definition

end SynthGraph
