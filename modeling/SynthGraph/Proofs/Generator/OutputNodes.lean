import SynthGraph.Generator.Template
import SynthGraph.Proofs.Graph.Interning
import SynthGraph.Proofs.Graph.Signal

/-!
# The nodes of the output stage

The output stage appends seven nodes to every definition in which the references that it reads can
be read.  Which nodes these are does not depend on anything else, so that everything that is said
about the output stage is said about this list of nodes.
-/

namespace SynthGraph

-- Powers are those of the core library, also where a larger library brings its own.
attribute [local instance (2000)] instPowNat

/-- What holds of three things holds of all that are listed. -/
lemma forall_mem_triple {α : Type} {P : α → Prop} {a b c : α} (ha : P a) (hb : P b) (hc : P c) :
    ∀ x ∈ [a, b, c], P x := by
  simp [ha, hb, hc]

namespace Definition

variable {d : Definition} {nodes : List Node} {r : Reference}

/-! ### Appending several nodes -/

/-- The definition with more nodes at the end. -/
def appendAll (d : Definition) (ns : List Node) : Definition :=
  { d with nodes := d.nodes ++ ns.toArray }

/-- No nodes more. -/
@[simp] lemma appendAll_nil (d : Definition) : d.appendAll [] = d := by
  simp [appendAll]

/-- One node more at the end. -/
lemma append_appendAll (d : Definition) (ns : List Node) (n : Node) :
    (d.appendAll ns).append n = d.appendAll (ns ++ [n]) := by
  simp [appendAll, append]

/-- Nodes that are appended in two parts. -/
lemma appendAll_append (d : Definition) (ns ms : List Node) :
    d.appendAll (ns ++ ms) = (d.appendAll ns).appendAll ms := by
  simp [appendAll]

/-- The definition goes on when nodes are appended. -/
lemma continues_appendAll (d : Definition) (ns : List Node) : d.Continues (d.appendAll ns) :=
  ⟨⟨rfl, List.prefix_rfl, List.prefix_rfl, by simp [appendAll], List.prefix_rfl, id⟩, rfl, rfl⟩

/-- The definition goes on from one of the nodes to a later one. -/
lemma continues_take {i k : Nat} (hik : i ≤ k) :
    (d.appendAll (nodes.take i)).Continues (d.appendAll (nodes.take k)) := by
  obtain ⟨more, hmore⟩ := List.take_prefix_take_left (l := nodes) hik
  rw [← hmore, appendAll_append]
  exact continues_appendAll _ more

/-- What is offered at first is offered after some of the nodes. -/
lemma Offers.appendAll {i j : Nat} (h : d.Offers i r) (hij : i ≤ j) (ns : List Node) :
    (d.appendAll ns).Offers j r :=
  h.mono (continues_appendAll d ns).toExtends hij

/-- The outputs of the first nodes are offered to the later ones. -/
lemma offers_output {i k slot : Nat} {n : Node} (hn : nodes[i]? = some n) (hik : i < k)
    (hslot : slot < n.outputs.length) :
    (d.appendAll (nodes.take k)).Offers (d.nodes.size + k) ⟨(d.nodes.size + i : Nat), slot⟩ := by
  refine .output (Nat.add_lt_add_left hik _) ?_ hslot
  rw [appendAll, Array.getElem?_append_right (Nat.le_add_right _ _), Nat.add_sub_cancel_left,
    List.getElem?_toArray, List.getElem?_take_of_lt hik, hn]

/-- The number of nodes once the first ones of a list have been appended. -/
lemma size_appendAll_take {k : Nat} (hk : k ≤ nodes.length) :
    (d.appendAll (nodes.take k)).nodes.size = d.nodes.size + k := by
  simp [appendAll, hk]

/-- The next node of a list is appended when it is one that can be. -/
lemma apply_node_take {k m : Nat} {className : String} {rate : Rate} {inputs : List Reference}
    {special : Int}
    (hn : nodes[k]? = some ⟨className, rate, inputs, List.replicate m rate, special⟩)
    (hclass : IsShortName className) (hspecial : Edit.specialFits special = true)
    (hinputs : ∀ r ∈ inputs, (d.appendAll (nodes.take k)).Offers (d.nodes.size + k) r) :
    (Edit.node className rate.code inputs m special).apply (d.appendAll (nodes.take k)) =
      (.ok (d.nodes.size + k), d.appendAll (nodes.take (k + 1))) := by
  obtain ⟨hk, -⟩ := List.getElem?_eq_some_iff.mp hn
  have hsize := size_appendAll_take (d := d) (Nat.le_of_lt hk)
  have hnode : (d.appendAll (nodes.take k)).newNode className rate.code inputs m special =
      .ok ⟨className, rate, inputs, List.replicate m rate, special⟩ :=
    newNode_code_eq_ok_iff.mpr
      ⟨⟨hclass, Int.natCast_nonneg m, hspecial, hsize.symm ▸ hinputs⟩, by rw [Int.toNat_natCast]⟩
  refine Edit.apply_node_eq_ok.mpr ⟨_, hnode, hsize.symm, ?_⟩
  rw [append_appendAll, take_succ_of_getElem? hn]

/-- An output of one of the first nodes can be referred to. -/
lemma apply_output_take {i k slot : Nat} {n : Node} (hn : nodes[i]? = some n) (hik : i < k)
    (hslot : slot < n.outputs.length) :
    (Template.output (d.nodes.size + i) slot).apply (d.appendAll (nodes.take k)) =
      (.ok ⟨(d.nodes.size + i : Nat), slot⟩, d.appendAll (nodes.take k)) := by
  rw [Template.output, Edit.apply_ask, reference_of_offers (offers_output hn hik hslot)]

/-- The next node of a list is a unit, to whose output the reference is returned. -/
lemma apply_unit_take {k : Nat} {className : String} {rate : Rate} {inputs : List Reference}
    {special : Int} (hn : nodes[k]? = some ⟨className, rate, inputs, [rate], special⟩)
    (hclass : IsShortName className) (hspecial : Edit.specialFits special = true)
    (hinputs : ∀ r ∈ inputs, (d.appendAll (nodes.take k)).Offers (d.nodes.size + k) r) :
    (Edit.unit className rate.code inputs special).apply (d.appendAll (nodes.take k)) =
      (.ok ⟨(d.nodes.size + k : Nat), 0⟩, d.appendAll (nodes.take (k + 1))) := by
  have hnode := apply_node_take (m := 1) hn hclass hspecial hinputs
  rw [Edit.unit]
  exact (Edit.apply_bind_of_eq_ok hnode).trans
    (apply_output_take hn (Nat.lt_succ_self k) Nat.one_pos)

end Definition

/-! ### The seven nodes -/

/-- The nodes of the output stage behind a number of other nodes. -/
def outputNodes (first : Nat) (signal pan outBus : Reference) (c : UnitConstants) : List Node :=
  [⟨"Pan2", .audio, [signal, pan, c.one], [.audio, .audio], 0⟩,
    ⟨"Clip", .audio, [⟨(first + 0 : Nat), 0⟩, c.minusOne, c.one], [.audio], 0⟩,
    ⟨"Clip", .audio, [⟨(first + 0 : Nat), 1⟩, c.minusOne, c.one], [.audio], 0⟩,
    ⟨"BinaryOpUGen", .control, [outBus, c.zero], [.control], BinaryOperator.lte.special⟩,
    ⟨"Select", .audio,
      [⟨(first + 3 : Nat), 0⟩, ⟨(first + 0 : Nat), 0⟩, ⟨(first + 1 : Nat), 0⟩], [.audio], 0⟩,
    ⟨"Select", .audio,
      [⟨(first + 3 : Nat), 0⟩, ⟨(first + 0 : Nat), 1⟩, ⟨(first + 2 : Nat), 0⟩], [.audio], 0⟩,
    ⟨"Out", .audio, [outBus, ⟨(first + 4 : Nat), 0⟩, ⟨(first + 5 : Nat), 0⟩], [], 0⟩]

namespace Template

open Definition

variable {d : Definition} {signal pan outBus : Reference} {c : UnitConstants}

/-- A parameter that has a reference is looked up. -/
lemma apply_parameter_of_eq_ok {name : String} {r : Reference}
    (h : d.parameterReference name = .ok r) : (parameter name).apply d = (.ok r, d) := by
  rw [parameter, Edit.apply_ask, h]

/-- When the output stage is appended, the position and the output bus have been looked up. -/
lemma parameterReference_of_apply_outputStage {d' : Definition} {index : Nat}
    (h : (outputStage signal c).apply d = (.ok index, d')) :
    ∃ pan outBus, d.parameterReference panName = .ok pan ∧
      d.parameterReference outBusName = .ok outBus := by
  obtain ⟨pan, _, hpan, hrest⟩ := Edit.apply_bind_eq_ok.mp h
  rw [parameter, Edit.apply_ask, Prod.mk.injEq] at hpan
  obtain ⟨hpan, rfl⟩ := hpan
  obtain ⟨outBus, _, houtBus, -⟩ := Edit.apply_bind_eq_ok.mp hrest
  rw [parameter, Edit.apply_ask, Prod.mk.injEq] at houtBus
  exact ⟨pan, outBus, hpan, houtBus.1⟩

/-- The references that the output stage reads are offered. -/
structure Readable (d : Definition) (signal pan outBus : Reference) (c : UnitConstants) : Prop where
  signal : d.Offers d.nodes.size signal
  pan : d.Offers d.nodes.size pan
  outBus : d.Offers d.nodes.size outBus
  zero : d.Offers d.nodes.size c.zero
  one : d.Offers d.nodes.size c.one
  minusOne : d.Offers d.nodes.size c.minusOne

/-- The output stage appends its seven nodes. -/
theorem apply_outputStage (hpan : d.parameterReference panName = .ok pan)
    (houtBus : d.parameterReference outBusName = .ok outBus)
    (h : Readable d signal pan outBus c) :
    (outputStage signal c).apply d =
      (.ok (d.nodes.size + 6), d.appendAll (outputNodes d.nodes.size signal pan outBus c)) := by
  generalize hnodes : outputNodes d.nodes.size signal pan outBus c = nodes
  have hget (k : Nat) : nodes[k]? = (outputNodes d.nodes.size signal pan outBus c)[k]? := by
    rw [hnodes]
  have hold {r : Reference} (k : Nat) (hr : d.Offers d.nodes.size r) :
      (d.appendAll (nodes.take k)).Offers (d.nodes.size + k) r :=
    hr.appendAll (Nat.le_add_right _ _) _
  -- Each of the nodes is appended to those before it.
  have hpanned : (audioNode "Pan2" [signal, pan, c.one] 2).apply (d.appendAll (nodes.take 0)) =
      (.ok (d.nodes.size + 0), d.appendAll (nodes.take 1)) :=
    apply_node_take (m := 2) (hget 0) (by decide) (by decide)
      (forall_mem_triple (hold 0 h.signal) (hold 0 h.pan) (hold 0 h.one))
  have hclippedLeft : (audioNode "Clip" [⟨(d.nodes.size + 0 : Nat), 0⟩, c.minusOne, c.one] 1).apply
      (d.appendAll (nodes.take 1)) = (.ok (d.nodes.size + 1), d.appendAll (nodes.take 2)) :=
    apply_node_take (m := 1) (hget 1) (by decide) (by decide)
      (forall_mem_triple (offers_output (hget 0) (by decide) Nat.two_pos) (hold 1 h.minusOne)
        (hold 1 h.one))
  have hclippedRight :
      (audioNode "Clip" [⟨(d.nodes.size + 0 : Nat), 1⟩, c.minusOne, c.one] 1).apply
        (d.appendAll (nodes.take 2)) = (.ok (d.nodes.size + 2), d.appendAll (nodes.take 3)) :=
    apply_node_take (m := 1) (hget 2) (by decide) (by decide)
      (forall_mem_triple (offers_output (hget 0) (by decide) Nat.one_lt_two) (hold 2 h.minusOne)
        (hold 2 h.one))
  have htoHardware : (Edit.binary .lte Rate.control.code outBus c.zero).apply
      (d.appendAll (nodes.take 3)) =
        (.ok ⟨(d.nodes.size + 3 : Nat), 0⟩, d.appendAll (nodes.take 4)) :=
    apply_unit_take (hget 3) (by decide) (by decide)
      (by simpa using ⟨hold 3 h.outBus, hold 3 h.zero⟩)
  have hselectLeft : (audioNode "Select" [⟨(d.nodes.size + 3 : Nat), 0⟩,
      ⟨(d.nodes.size + 0 : Nat), 0⟩, ⟨(d.nodes.size + 1 : Nat), 0⟩] 1).apply
        (d.appendAll (nodes.take 4)) = (.ok (d.nodes.size + 4), d.appendAll (nodes.take 5)) :=
    apply_node_take (m := 1) (hget 4) (by decide) (by decide)
      (forall_mem_triple (offers_output (hget 3) (by decide) Nat.one_pos)
        (offers_output (hget 0) (by decide) Nat.two_pos)
        (offers_output (hget 1) (by decide) Nat.one_pos))
  have hselectRight : (audioNode "Select" [⟨(d.nodes.size + 3 : Nat), 0⟩,
      ⟨(d.nodes.size + 0 : Nat), 1⟩, ⟨(d.nodes.size + 2 : Nat), 0⟩] 1).apply
        (d.appendAll (nodes.take 5)) = (.ok (d.nodes.size + 5), d.appendAll (nodes.take 6)) :=
    apply_node_take (m := 1) (hget 5) (by decide) (by decide)
      (forall_mem_triple (offers_output (hget 3) (by decide) Nat.one_pos)
        (offers_output (hget 0) (by decide) Nat.one_lt_two)
        (offers_output (hget 2) (by decide) Nat.one_pos))
  have hout : (audioNode "Out" [outBus, ⟨(d.nodes.size + 4 : Nat), 0⟩,
      ⟨(d.nodes.size + 5 : Nat), 0⟩] 0).apply (d.appendAll (nodes.take 6)) =
        (.ok (d.nodes.size + 6), d.appendAll (nodes.take 7)) :=
    apply_node_take (m := 0) (hget 6) (by decide) (by decide)
      (forall_mem_triple (hold 6 h.outBus) (offers_output (hget 4) (by decide) Nat.one_pos)
        (offers_output (hget 5) (by decide) Nat.one_pos))
  -- In between, the outputs of earlier nodes are looked up.
  have hfirst {i k : Nat} {n : Node} (hn : nodes[i]? = some n) (hik : i < k)
      (hpos : 0 < n.outputs.length) : (output (d.nodes.size + i) 0).apply
        (d.appendAll (nodes.take k)) =
          (.ok ⟨(d.nodes.size + i : Nat), 0⟩, d.appendAll (nodes.take k)) :=
    apply_output_take hn hik hpos
  have hsecond : (output (d.nodes.size + 0) 1).apply (d.appendAll (nodes.take 1)) =
      (.ok ⟨(d.nodes.size + 0 : Nat), 1⟩, d.appendAll (nodes.take 1)) :=
    apply_output_take (hget 0) (by decide) Nat.one_lt_two
  rw [List.take_zero, appendAll_nil] at hpanned
  rw [outputStage, Edit.apply_bind_of_eq_ok (apply_parameter_of_eq_ok hpan),
    Edit.apply_bind_of_eq_ok (apply_parameter_of_eq_ok houtBus), Edit.apply_bind_of_eq_ok hpanned,
    Edit.apply_bind_of_eq_ok (hfirst (hget 0) (by decide) Nat.two_pos),
    Edit.apply_bind_of_eq_ok hsecond, Edit.apply_bind_of_eq_ok hclippedLeft,
    Edit.apply_bind_of_eq_ok hclippedRight, Edit.apply_bind_of_eq_ok htoHardware,
    Edit.apply_bind_of_eq_ok (hfirst (hget 1) (by decide) Nat.one_pos),
    Edit.apply_bind_of_eq_ok hselectLeft,
    Edit.apply_bind_of_eq_ok (hfirst (hget 2) (by decide) Nat.one_pos),
    Edit.apply_bind_of_eq_ok hselectRight,
    Edit.apply_bind_of_eq_ok (hfirst (hget 4) (by decide) Nat.one_pos),
    Edit.apply_bind_of_eq_ok (hfirst (hget 5) (by decide) Nat.one_pos), hout, ← hnodes]
  rfl

end Template

end SynthGraph
