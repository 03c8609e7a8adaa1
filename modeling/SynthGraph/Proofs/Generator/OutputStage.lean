import SynthGraph.Proofs.Generator.OutputNodes
import SynthGraph.Proofs.Graph.Evaluation
import SynthGraph.Proofs.Graph.Lifetime

/-!
# The output stage protects the hardware bus

The output stage appends seven nodes, whatever the definition is like before.  Evaluated over an
ordered field, the nodes write both channels as they are panned when the output bus is above the
hardware bus, and within the limits of one otherwise, whatever the panner and all earlier nodes
compute.
-/

namespace SynthGraph

-- Powers are those of the core library, also where a larger library brings its own.
attribute [local instance (2000)] instPowNat

namespace Definition

variable {d : Definition} {nodes : List Node}

/-- Nodes that have been appended to an acyclic graph read only what is before them. -/
lemma IsDag.node_lt {k : Nat} {n : Node} (h : (d.appendAll nodes).IsDag)
    (hn : nodes[k]? = some n) : ∀ r ∈ n.inputs, r.node < (d.nodes.size + k : Nat) := by
  intro r hr
  have hplace : (d.appendAll nodes).nodes[d.nodes.size + k]? = some n := by
    rw [appendAll, Array.getElem?_append_right (Nat.le_add_right _ _), Nat.add_sub_cancel_left,
      List.getElem?_toArray, hn]
  exact ((h _ n hplace).inputs r hr).node_lt

end Definition

namespace Template

open Definition

variable {d : Definition} {signal pan outBus : Reference} {c : UnitConstants}

/-! ### What the nodes write -/

variable {K : Type*} [DivisionRing K] [LinearOrder K] [IsStrictOrderedRing K]

/-- The channels on a bus are clipped when the bus is the hardware bus or one below it, and are the
panned ones otherwise. -/
structure Protected (bus left right pannedLeft pannedRight : K) : Prop where
  clipped : bus ≤ 0 → left = max (-1) (min pannedLeft 1) ∧ right = max (-1) (min pannedRight 1)
  bounded : bus ≤ 0 → (-1 ≤ left ∧ left ≤ 1) ∧ -1 ≤ right ∧ right ≤ 1
  unchanged : 0 < bus → left = pannedLeft ∧ right = pannedRight

/-- What is clipped lies within the limits. -/
lemma clip_mem (x : K) : -1 ≤ max (-1) (min x 1) ∧ max (-1) (min x 1) ≤ 1 :=
  ⟨le_max_left _ _, max_le (neg_le_self zero_le_one) (min_le_right _ _)⟩

/-- What is selected by a comparison is the second choice when it holds and the first otherwise. -/
lemma select_of_comparison {bus x y z : K} :
    (if (if bus ≤ 0 then (1 : K) else 0) = 0 then x
      else if (if bus ≤ 0 then (1 : K) else 0) = 1 then y else z) = if bus ≤ 0 then y else x := by
  by_cases hbus : bus ≤ 0
  · rw [if_pos hbus, if_pos hbus, if_neg one_ne_zero, if_pos rfl]
  · rw [if_neg hbus, if_neg hbus, if_pos rfl]

/-- Selected by whether the bus is at most zero, the channels are protected. -/
lemma protected_select {bus pannedLeft pannedRight : K} :
    Protected bus (if bus ≤ 0 then max (-1) (min pannedLeft 1) else pannedLeft)
      (if bus ≤ 0 then max (-1) (min pannedRight 1) else pannedRight) pannedLeft pannedRight where
  clipped h := by simp [h]
  bounded h := by
    rw [if_pos h, if_pos h]
    exact ⟨clip_mem _, clip_mem _⟩
  unchanged h := by
    rw [if_neg (not_le.mpr h), if_neg (not_le.mpr h)]
    exact ⟨rfl, rfl⟩

/-- The channels that the seven nodes write are protected. -/
lemma protected_evaluate (h : Readable d signal pan outBus c)
    (hdag : (d.appendAll (outputNodes d.nodes.size signal pan outBus c)).IsDag)
    (I : Interpretation K) {env : Reference → K} (hzero : env c.zero = 0) (hone : env c.one = 1)
    (hminusOne : env c.minusOne = -1) :
    let value := I.evaluate env d.nodes.size (outputNodes d.nodes.size signal pan outBus c)
    value outBus = env outBus ∧
      Protected (env outBus) (value ⟨(d.nodes.size + 4 : Nat), 0⟩)
        (value ⟨(d.nodes.size + 5 : Nat), 0⟩) (I.pan 0 (env signal) (env pan) 1)
        (I.pan 1 (env signal) (env pan) 1) := by
  intro value
  have hbefore {r : Reference} (hr : d.Offers d.nodes.size r) : value r = env r :=
    Interpretation.evaluate_of_lt hr.node_lt
  have houtput (k : Nat) (n : Node)
      (hn : (outputNodes d.nodes.size signal pan outBus c)[k]? = some n) (slot : Int) :
      value ⟨(d.nodes.size + k : Nat), slot⟩ = I.output n slot (n.inputs.map value) :=
    Interpretation.evaluate_output hn (hdag.node_lt hn) slot
  -- Each node computes its function of the values of its inputs.
  have hpanned (slot : Int) : value ⟨(d.nodes.size + 0 : Nat), slot⟩ =
      I.pan slot (value signal) (value pan) (value c.one) := houtput 0 _ rfl slot
  have hclippedLeft : value ⟨(d.nodes.size + 1 : Nat), 0⟩ =
      max (value c.minusOne) (min (value ⟨(d.nodes.size + 0 : Nat), 0⟩) (value c.one)) :=
    houtput 1 _ rfl 0
  have hclippedRight : value ⟨(d.nodes.size + 2 : Nat), 0⟩ =
      max (value c.minusOne) (min (value ⟨(d.nodes.size + 0 : Nat), 1⟩) (value c.one)) :=
    houtput 2 _ rfl 0
  have htoHardware : value ⟨(d.nodes.size + 3 : Nat), 0⟩ =
      if value outBus ≤ value c.zero then 1 else 0 := houtput 3 _ rfl 0
  have hselectLeft : value ⟨(d.nodes.size + 4 : Nat), 0⟩ =
      if value ⟨(d.nodes.size + 3 : Nat), 0⟩ = 0 then value ⟨(d.nodes.size + 0 : Nat), 0⟩
      else if value ⟨(d.nodes.size + 3 : Nat), 0⟩ = 1 then value ⟨(d.nodes.size + 1 : Nat), 0⟩
      else I.other _ _ _ := houtput 4 _ rfl 0
  have hselectRight : value ⟨(d.nodes.size + 5 : Nat), 0⟩ =
      if value ⟨(d.nodes.size + 3 : Nat), 0⟩ = 0 then value ⟨(d.nodes.size + 0 : Nat), 1⟩
      else if value ⟨(d.nodes.size + 3 : Nat), 0⟩ = 1 then value ⟨(d.nodes.size + 2 : Nat), 0⟩
      else I.other _ _ _ := houtput 5 _ rfl 0
  rw [hbefore h.signal, hbefore h.pan, hbefore h.one, hone] at hpanned
  rw [hbefore h.one, hbefore h.minusOne, hone, hminusOne, hpanned] at hclippedLeft hclippedRight
  rw [hbefore h.outBus, hbefore h.zero, hzero] at htoHardware
  rw [htoHardware, hpanned, hclippedLeft, select_of_comparison] at hselectLeft
  rw [htoHardware, hpanned, hclippedRight, select_of_comparison] at hselectRight
  refine ⟨hbefore h.outBus, ?_⟩
  rw [hselectLeft, hselectRight]
  exact protected_select

end Template

namespace Definition

open Template

variable {d : Definition} {r : Reference} {x : ℚ}

/-- The reference leads to a literal that is stored with a value. -/
def StoresValue (d : Definition) (r : Reference) (x : ℚ) : Prop :=
  ∃ (slot : Nat) (stored : Binary32), r = .constant slot ∧
    d.constants.values[slot]? = some stored ∧ stored.value? = some x

/-- A stored literal is offered. -/
lemma StoresValue.offers (h : d.StoresValue r x) : d.Offers d.nodes.size r := by
  obtain ⟨slot, stored, rfl, hstored, -⟩ := h
  exact offers_of_getElem?_values hstored

variable {K : Type*} [DivisionRing K] {parameters : Int → K} {env : Reference → K}

/-- A stored literal has its value. -/
lemma Assigns.eq_of_storesValue (henv : d.Assigns parameters env) (h : d.StoresValue r x) :
    env r = x := by
  obtain ⟨slot, stored, rfl, hstored, hx⟩ := h
  exact henv.constant slot stored x hstored hx

/-- The output that a parameter is bound to has the value that is assigned to the parameter. -/
lemma Assigns.eq_of_binds (henv : d.Assigns parameters env) {name : String} {p : Parameter}
    (hmem : (name, r) ∈ d.bindings) (hbinds : d.Binds (name, r) p) :
    env r = parameters p.index := by
  obtain ⟨-, n, slot, source, rfl, hsource, hslot, hindex, -⟩ := hbinds
  have hcontrol : d.isControl n = true := by
    rw [isControl, List.any_eq_true]
    exact ⟨_, hmem, by simp⟩
  rw [← hindex]
  exact henv.control n slot source hcontrol hsource hslot

/-- Appending the output stage to a reachable definition leads to a reachable one. -/
lemma Reachable.apply_outputStage {d' : Definition} {signal : Reference} {c : UnitConstants}
    {index : Nat} (h : d.Reachable) (happly : (outputStage signal c).apply d = (.ok index, d')) :
    d'.Reachable := by
  have hrun : (Operation.outputStage signal c).run d = d' := by
    rw [Operation.run, Operation.edit, Edit.apply_bind_of_eq_ok happly]
    rfl
  exact hrun ▸ h.step _

variable [LinearOrder K] [IsStrictOrderedRing K]

/-- The nodes of an output stage behind a definition: there are seven of them, and the last one
writes two channels to the output bus.  Whatever the panner and the other units compute, whatever
is assigned to the parameters, and whatever the values of the other outputs are: the channels are
the panned ones of the signal, clipped on the hardware bus. -/
structure WritesProtected (K : Type*) [DivisionRing K] [LinearOrder K] (d : Definition)
    (signal outBus : Reference) (nodes : List Node) : Prop where
  length : nodes.length = 7
  writes : ∃ left right, nodes[6]? = some ⟨"Out", .audio, [outBus, left, right], [], 0⟩ ∧
    ∃ pan ∈ d.parameters.toList, pan.name = panName ∧
    ∃ bus ∈ d.parameters.toList, bus.name = outBusName ∧
    ∀ (I : Interpretation K) (parameters : Int → K) (env : Reference → K),
      d.Assigns parameters env →
      let value := I.evaluate env d.nodes.size nodes
      value outBus = parameters bus.index ∧
        Protected (parameters bus.index) (value left) (value right)
          (I.pan 0 (env signal) (parameters pan.index) 1)
          (I.pan 1 (env signal) (parameters pan.index) 1)

/-- Behind every reachable definition whose parameters for the position and the output bus are
exposed, and for every signal that a node may read, the output stage succeeds, returns the index of
its last node, and lets nothing to the hardware bus but clipped channels. -/
theorem Reachable.outputStage_protects (h : d.Reachable) {signal pan outBus : Reference}
    {c : UnitConstants} (hpan : d.parameterReference panName = .ok pan)
    (houtBus : d.parameterReference outBusName = .ok outBus)
    (hsignal : d.checkInput signal = .ok ()) (hzero : d.StoresValue c.zero 0)
    (hone : d.StoresValue c.one 1) (hminusOne : d.StoresValue c.minusOne (-1)) :
    ∃ nodes, (outputStage signal c).apply d = (.ok (d.nodes.size + 6), d.appendAll nodes) ∧
      d.WritesProtected K signal outBus nodes := by
  have hbound := h.wellBound
  have hreadable : Readable d signal pan outBus c :=
    ⟨checkInput_eq_ok_iff.mp hsignal, hbound.offers_of_parameterReference hpan,
      hbound.offers_of_parameterReference houtBus, hzero.offers, hone.offers, hminusOne.offers⟩
  have happly := Template.apply_outputStage hpan houtBus hreadable
  have hdag := (h.apply_outputStage happly).isDag
  refine ⟨_, happly, rfl, _, _, rfl, ?_⟩
  obtain ⟨p, hp, hpanName, hpanMem, hpanBinds⟩ := hbound.binds_of_parameterReference hpan
  obtain ⟨q, hq, hbusName, hbusMem, hbusBinds⟩ := hbound.binds_of_parameterReference houtBus
  refine ⟨p, hp, hpanName, q, hq, hbusName, fun I parameters env henv => ?_⟩
  have hzeroValue : env c.zero = 0 := by rw [henv.eq_of_storesValue hzero, Rat.cast_zero]
  have honeValue : env c.one = 1 := by rw [henv.eq_of_storesValue hone, Rat.cast_one]
  have hminusOneValue : env c.minusOne = -1 := by
    rw [henv.eq_of_storesValue hminusOne, Rat.cast_neg, Rat.cast_one]
  have hprotected := protected_evaluate hreadable hdag I hzeroValue honeValue hminusOneValue
  rwa [henv.eq_of_binds hpanMem hpanBinds, henv.eq_of_binds hbusMem hbusBinds] at hprotected

/-- A definition with the parameters of the output stage, a source, and the three literals, the
first of which is a negative zero. -/
def noiseTone : Definition :=
  (⟨"tone", .empty, .empty, #[], []⟩ : Definition).run
    [.declare panName (.zero false) "control", .declare outBusName (.zero false) "control",
      .controls, .node "WhiteNoise" 2 [] 1 0, .constant (.zero true), .constant (.ofInt 1),
      .constant (.ofInt (-1))]

/-- A panner that doubles the signal on one side and triples it on the other. -/
def doublingPan : Interpretation ℚ :=
  ⟨fun slot signal _ level => (slot + 2) * signal * level, fun _ _ _ => 0⟩

/-- When the source is at two thirds, the channels arrive clipped on bus zero and as they are on bus
one. -/
theorem outputStage_protects_noiseTone :
    let c : UnitConstants := ⟨.constant 0, .constant 1, .constant 2⟩
    let appended := ((outputStage ⟨1, 0⟩ c).apply noiseTone).2.nodes.toList.drop 2
    let written (bus : ℚ) : List ℚ := [⟨6, 0⟩, ⟨7, 0⟩].map (doublingPan.evaluate
      (fun r => if r = ⟨1, 0⟩ then 2 / 3 else
        noiseTone.assigned (fun i => if i = 1 then bus else 0) r) 2 appended)
    noiseTone.Reachable ∧
      (∃ nodes, (outputStage ⟨1, 0⟩ c).apply noiseTone =
          (.ok (noiseTone.nodes.size + 6), noiseTone.appendAll nodes) ∧
        noiseTone.WritesProtected ℚ ⟨1, 0⟩ ⟨0, 1⟩ nodes) ∧
      written 0 = [1, 1] ∧ written 1 = [4 / 3, 2] := by
  intro c appended written
  have hnew : Definition.new "tone" = .ok ⟨"tone", .empty, .empty, #[], []⟩ := by rfl
  have hreach : noiseTone.Reachable := (Reachable.new hnew).run _
  have hpan : noiseTone.parameterReference panName = .ok ⟨0, 0⟩ := by decide +kernel
  have houtBus : noiseTone.parameterReference outBusName = .ok ⟨0, 1⟩ := by decide +kernel
  have hsignal : noiseTone.checkInput ⟨1, 0⟩ = .ok () := by decide +kernel
  have hzero : noiseTone.StoresValue c.zero 0 :=
    ⟨0, .zero true, rfl, by decide +kernel, by decide +kernel⟩
  have hone : noiseTone.StoresValue c.one 1 :=
    ⟨1, .ofInt 1, rfl, by decide +kernel, by decide +kernel⟩
  have hminusOne : noiseTone.StoresValue c.minusOne (-1) :=
    ⟨2, .ofInt (-1), rfl, by decide +kernel, by decide +kernel⟩
  exact ⟨hreach, hreach.outputStage_protects hpan houtBus hsignal hzero hone hminusOne,
    by decide +kernel, by decide +kernel⟩

end Definition

end SynthGraph
