import SynthGraph.Proofs.Graph.Binding
import SynthGraph.Proofs.Graph.Dag

/-!
# Parameters keep their address

The control nodes of a definition with at most `32767` parameters can always be emitted, whatever
the rates of the parameters and whatever nodes are there before.  From then on every parameter can
be referred to for good: the reference leads to the output that stands for the index of the
parameter, and no later operation declares a parameter or emits control nodes once more.
-/

namespace SynthGraph

/-- The node is the control node of a run: it has the class and the rate that belong to the rate of
the run, nothing to read, an output for each parameter, and the index of the first one. -/
structure Node.Exposes (n : Node) (r : ParameterRate × List Parameter) : Prop where
  className : n.className = r.1.nodeClass
  rate : n.rate = r.1.nodeRate
  inputs : n.inputs = []
  outputs : n.outputs.length = r.2.length
  special : ∃ first, r.2.head? = some first ∧ n.special = first.index

/-- The parameters of a definition are `ps` and can be referred to under their names, and nothing is
declared or emitted any more. -/
structure Definition.Addresses (d : Definition) (ps : List Parameter) : Prop where
  /-- The parameters are these. -/
  parameters : d.parameters.toList = ps
  /-- The reference to a parameter leads to the output that stands for its index, on a control node
  of its class. -/
  reference : ∀ p ∈ ps, ∃ (n slot : Nat) (source : Node),
    d.parameterReference p.name = .ok ⟨n, slot⟩ ∧ d.nodes[n]? = some source ∧
      slot < source.outputs.length ∧ source.special + slot = p.index ∧
      source.className = p.rate.nodeClass
  /-- Declarations fail and change nothing. -/
  declare : ∀ name default rate, ∃ e, (Edit.declare name default rate).apply d = (.error e, d) ∧
    (IsShortName name → (ParameterRate.ofName? rate).isSome → e = .sealedTable name)
  /-- Emitting the control nodes fails and changes nothing. -/
  controls : Edit.controls.apply d = (.error (.controlsEmitted d.name), d)

namespace Definition

variable {d d' : Definition}

/-! ### The control nodes can be emitted -/

/-- The first parameter of a run has an index below the number of parameters. -/
lemma WellBound.firstIndex_lt {rs : List (ParameterRate × List Parameter)} (hd : d.WellBound)
    (hruns : AreRuns rs d.parameters.toList) {r : ParameterRate × List Parameter} (hr : r ∈ rs) :
    ∃ first, r.2.head? = some first ∧ firstIndex r.2 = first.index ∧
      first.index < d.parameters.size := by
  obtain ⟨first, run, hrun⟩ := List.exists_cons_of_ne_nil (hruns.ne_nil r hr)
  have hmem : first ∈ d.parameters.toList := by
    rw [← hruns.flatMap, List.mem_flatMap]
    exact ⟨r, hr, by simp [hrun]⟩
  have hindex : first.index ∈ d.parameters.toList.map Parameter.index :=
    List.mem_map_of_mem hmem
  rw [hd.table.index, List.mem_range] at hindex
  exact ⟨first, by simp [hrun], by simp [firstIndex, hrun], hindex⟩

/-- Emitting the control nodes succeeds when the indices of all parameters have sixteen bits. -/
lemma WellBound.apply_controls (hd : d.WellBound) (hopen : d.parameters.isSealed = false)
    (hcount : d.parameters.size ≤ 32767) :
    Edit.controls.apply d =
      (.ok (List.range' d.nodes.size (Edit.runs d.parameters.toList).length),
        d.exposeAll (Edit.runs d.parameters.toList)) := by
  have hfits : ∀ r ∈ Edit.runs d.parameters.toList, Edit.specialFits (firstIndex r.2) = true := by
    intro r hr
    obtain ⟨first, -, hfirst, hlt⟩ := hd.firstIndex_lt (areRuns_runs _) hr
    rw [specialFits_iff, hfirst]
    omega
  rw [Edit.apply_controls_of_not_isSealed hopen, Edit.apply_controlNodes_of_fits hfits]
  rfl

/-- The control nodes of the runs of a table expose them. -/
lemma WellBound.exposes {rs : List (ParameterRate × List Parameter)} (hd : d.WellBound)
    (hruns : AreRuns rs d.parameters.toList) :
    List.Forall₂ Node.Exposes (rs.map exposingNode) rs := by
  rw [List.forall₂_map_left_iff, List.forall₂_same]
  intro r hr
  obtain ⟨first, hhead, hfirst, -⟩ := hd.firstIndex_lt hruns hr
  exact ⟨rfl, rfl, rfl, by simp [exposingNode], first, hhead, by simp [exposingNode, hfirst]⟩

/-! ### Addresses -/

/-- In a closed table every declaration fails. -/
lemma apply_declare_of_isSealed (hsealed : d.parameters.isSealed = true) (name : String)
    (default : Binary64) (rate : String) :
    ∃ e, (Edit.declare name default rate).apply d = (.error e, d) ∧
      (IsShortName name → (ParameterRate.ofName? rate).isSome → e = .sealedTable name) := by
  rw [Edit.apply_declare]
  cases hdeclare : d.parameters.declare name default rate with
  | ok result =>
    obtain ⟨-, r, x, -, hopen, -⟩ := ParameterTable.declare_eq_ok_iff.mp hdeclare
    rw [hsealed] at hopen
    cases hopen
  | error e =>
    refine ⟨e, rfl, fun hname hrate => ?_⟩
    obtain ⟨r, hr⟩ := Option.isSome_iff_exists.mp hrate
    have hbytes := shortName_eq_ok_iff.mpr ⟨hname, rfl⟩
    unfold ParameterTable.declare at hdeclare
    rw [hbytes, hr, hsealed] at hdeclare
    exact (Except.error.inj hdeclare).symm

/-- A closed table whose parameters are all bound can be addressed. -/
lemma addresses_of_binds (hsealed : d.parameters.isSealed = true) (htable : d.parameters.WellFormed)
    (hbound : List.Forall₂ d.Binds d.bindings d.parameters.toList) :
    d.Addresses d.parameters.toList := by
  refine ⟨rfl, fun p hp => ?_, apply_declare_of_isSealed hsealed,
    Edit.apply_controls_of_isSealed hsealed⟩
  obtain ⟨r, href, -, -, n, slot, source, rfl, hsource, hslot, hindex, hclass, -⟩ :=
    parameterReference_of_binds htable hbound hp
  exact ⟨n, slot, source, href, hsource, hslot, hindex, hclass⟩

/-- Operations keep the bindings of a closed table whose parameters are all bound. -/
lemma binds_run (hsealed : d.parameters.isSealed = true)
    (hbound : List.Forall₂ d.Binds d.bindings d.parameters.toList) (ops : List Operation) :
    (d.run ops).parameters = d.parameters ∧
      List.Forall₂ (d.run ops).Binds (d.run ops).bindings (d.run ops).parameters.toList := by
  obtain ⟨hparameters, hbindings⟩ := (steps_run d ops).frozen hsealed
  refine ⟨hparameters, ?_⟩
  rw [hparameters, hbindings]
  exact hbound.imp fun b p hb => hb.mono (extends_run d ops)

/-- A reachable definition whose control nodes have not been emitted yet, with at most `32767`
parameters: emitting them succeeds, keeps the literals and the nodes, and appends one control node
for each maximal run of parameters of one rate; and whatever operations follow, successful or not,
every parameter can be referred to at its index and nothing is declared any more. -/
theorem Reachable.controls_bind (h : d.Reachable) (hopen : d.parameters.isSealed = false)
    (hcount : d.parameters.size ≤ 32767) :
    ∃ (rs : List (ParameterRate × List Parameter)) (added : List Node) (d' : Definition),
      AreRuns rs d.parameters.toList ∧
        Edit.controls.apply d = (.ok (List.range' d.nodes.size rs.length), d') ∧
        d'.name = d.name ∧ d'.constants = d.constants ∧
        d'.nodes.toList = d.nodes.toList ++ added ∧ List.Forall₂ Node.Exposes added rs ∧
        ∀ ops, (d'.run ops).Addresses d.parameters.toList := by
  have hd := h.wellBound
  have hruns := areRuns_runs d.parameters.toList
  have hemitted := hd.apply_controls hopen hcount
  obtain ⟨hname, hconstants, -, hnodes⟩ := foldl_expose_frame (Edit.runs d.parameters.toList)
    { d with parameters := d.parameters.close }
  refine ⟨_, _, _, hruns, hemitted, hname, hconstants, hnodes, hd.exposes hruns, fun ops => ?_⟩
  have hclosed := parameters_exposeAll (Edit.runs d.parameters.toList) d
  have hbound := hd.binds_exposeAll_runs hopen
  obtain ⟨hkept, hbound'⟩ := binds_run (by rw [hclosed]; rfl) (by rwa [hclosed]) ops
  rw [hclosed] at hkept
  have haddresses := addresses_of_binds (by rw [hkept]; rfl)
    (by rw [hkept]; exact hd.table.close) hbound'
  rwa [hkept] at haddresses

/-- A definition with parameters of all three rates, and a node before their control nodes. -/
def mixedRates : Definition :=
  (⟨"mixed", .empty, .empty, #[], []⟩ : Definition).run
    [.node "WhiteNoise" 2 [] 1 0, .declare "freq" (.ofInt 440) "control",
      .declare "detune" (.ofInt 0) "control", .declare "gate" (.ofInt 0) "trigger",
      .declare "amp" (.ofInt 1) "control", .declare "freq_mod" (.ofInt 0) "audio"]

/-- The parameters of three rates are four runs, so four control nodes follow the node that is
there, each of the class and the rate of its run, and the parameters keep their addresses. -/
theorem controls_bind_mixedRates :
    mixedRates.Reachable ∧ mixedRates.parameters.isSealed = false ∧
      mixedRates.parameters.size ≤ 32767 ∧
      (Edit.controls.apply mixedRates).1 = .ok [1, 2, 3, 4] ∧
      (Edit.controls.apply mixedRates).2.nodes.toList = mixedRates.nodes.toList ++
        [⟨"Control", .control, [], [.control, .control], 0⟩,
          ⟨"TrigControl", .control, [], [.control], 2⟩, ⟨"Control", .control, [], [.control], 3⟩,
          ⟨"AudioControl", .audio, [], [.audio], 4⟩] ∧
      ∀ ops, ((Edit.controls.apply mixedRates).2.run ops).Addresses
        mixedRates.parameters.toList := by
  have hnew : Definition.new "mixed" = .ok ⟨"mixed", .empty, .empty, #[], []⟩ := by rfl
  have hreach : mixedRates.Reachable := (Reachable.new hnew).run _
  have hopen : mixedRates.parameters.isSealed = false := by decide +kernel
  have hcount : mixedRates.parameters.size ≤ 32767 := by decide +kernel
  obtain ⟨rs, added, d', -, hemitted, -, -, -, -, haddresses⟩ := hreach.controls_bind hopen hcount
  refine ⟨hreach, hopen, hcount, by decide +kernel, by decide +kernel, fun ops => ?_⟩
  rw [hemitted]
  exact haddresses ops

end Definition

end SynthGraph
