import SynthGraph.Proofs.Graph.Binding
import SynthGraph.Proofs.Graph.Dag

/-!
# References are valid for good

An operation that returns a reference returns one that the definition offers to its next node, be it
a slot of the pool, an output of a node, or the output that a parameter is bound to.  Since
definitions only grow, whatever operations follow, whether they succeed or fail, the reference is
accepted as an input and stands for the same literal or the same output of the same node.
-/

namespace SynthGraph

/-- What a reference stands for. -/
inductive Denotation where
  /-- A stored literal. -/
  | constant (value : Binary32)
  /-- An output of the node at an index. -/
  | output (index : Nat) (node : Node) (slot : Nat)
  deriving DecidableEq

namespace Definition

variable {d d' : Definition} {r : Reference} {m : Denotation}

/-- What a reference stands for in a definition, when it stands for anything. -/
def denotation? (d : Definition) (r : Reference) : Option Denotation :=
  if r.isConstant then
    if 0 ≤ r.slot then d.constants.values[r.slot.toNat]?.map .constant else none
  else
    (d.node? r.node).bind fun source =>
      if 0 ≤ r.slot ∧ r.slot < source.outputs.length then
        some (.output r.node.toNat source r.slot.toNat)
      else none

/-- A node that reads the reference is never refused for it: it is appended whenever its other
inputs pass their check and its class, its number of outputs and its special index are in order. -/
def Accepts (d : Definition) (r : Reference) : Prop :=
  ∀ (className : String) (rate : Rate) (inputs : List Reference) (outputs special : Int),
    IsShortName className → 0 ≤ outputs → -32768 ≤ special → special ≤ 32767 →
    (∀ q ∈ inputs, q ≠ r → d.checkInput q = .ok ()) →
    ∃ d', (Edit.node className rate.code inputs outputs special).apply d = (.ok d.nodes.size, d')

/-! ### What is offered -/

/-- A slot of the pool stands for what is stored there. -/
lemma denotation?_constant (d : Definition) (slot : Nat) :
    d.denotation? (.constant slot) = d.constants.values[slot]?.map .constant := by
  simp [denotation?, Reference.constant, Reference.isConstant]

/-- An output stands for itself when its node has it. -/
lemma denotation?_output (d : Definition) (n slot : Nat) :
    d.denotation? ⟨n, slot⟩ = d.nodes[n]?.bind fun source =>
      if slot < source.outputs.length then some (.output n source slot) else none := by
  have hnode : (⟨n, slot⟩ : Reference).isConstant = false := by simp [Reference.isConstant]
  simp [denotation?, hnode, node?_natCast]

/-- What a definition offers stands for something. -/
lemma Offers.exists_denotation {i : Nat} (h : d.Offers i r) : ∃ m, d.denotation? r = some m := by
  cases h with
  | @constant slot hslot =>
    have hlt : slot < d.constants.values.length := by simpa using hslot
    exact ⟨_, by rw [denotation?_constant, List.getElem?_eq_getElem hlt, Option.map_some]⟩
  | output hn hsource hslot =>
    exact ⟨_, by rw [denotation?_output, hsource, Option.bind_some, if_pos hslot]⟩

/-- What a definition offers stands for the same thing in every extension. -/
lemma Offers.denotation?_eq {i : Nat} (hr : d.Offers i r) (h : d.Extends d') :
    d'.denotation? r = d.denotation? r := by
  cases hr with
  | @constant slot hslot =>
    have hlt : slot < d.constants.values.length := by simpa using hslot
    have hvalue := List.getElem?_eq_getElem hlt
    rw [denotation?_constant, denotation?_constant, getElem?_of_prefix h.constants hvalue, hvalue]
  | output hn hsource hslot =>
    rw [denotation?_output, denotation?_output, h.getElem?_nodes hsource, hsource]

/-- What is offered to the next node is accepted. -/
lemma Offers.accepts (h : d.Offers d.nodes.size r) : d.Accepts r := by
  intro className rate inputs outputs special hname houtputs hlow hhigh hothers
  have hinputs : ∀ q ∈ inputs, d.Offers d.nodes.size q := by
    intro q hq
    by_cases hqr : q = r
    · exact hqr ▸ h
    · exact checkInput_eq_ok_iff.mp (hothers q hq hqr)
  have hspecial : Edit.specialFits special = true := specialFits_iff.mpr ⟨hlow, hhigh⟩
  have hnode := newNode_eq_ok_iff.mpr
    ⟨hname, houtputs, hspecial, hinputs, rate, Rate.ofCode?_code rate, rfl⟩
  exact ⟨_, Edit.apply_node_eq_ok.mpr ⟨_, hnode, rfl, rfl⟩⟩

/-! ### What operations return -/

/-- The slot of a literal that has been interned exists. -/
lemma offers_of_apply_constant {v : Binary64} (h : (Edit.constant v).apply d = (.ok r, d')) :
    d'.Offers d'.nodes.size r := by
  obtain ⟨slot, pool, hintern, rfl, rfl⟩ := Edit.apply_constant_eq_ok.mp h
  refine .constant ?_
  rcases ConstantPool.intern_eq_ok_iff.mp hintern with ⟨hslot, rfl⟩ | ⟨-, rfl, x, -, rfl⟩
  · exact ConstantPool.lt_size_of_slot? hslot
  · simp [ConstantPool.push, ConstantPool.size]

/-- The output of a unit that has been appended exists. -/
lemma offers_of_apply_unit {className : String} {rate : Int} {inputs : List Reference}
    {special : Int} (h : (Edit.unit className rate inputs special).apply d = (.ok r, d')) :
    d'.Offers d'.nodes.size r := by
  obtain ⟨n, hnode, rfl, rfl⟩ := Edit.apply_unit_eq_ok.mp h
  have houtputs : 0 < n.outputs.length := by
    obtain ⟨-, -, -, -, rate', -, rfl⟩ := newNode_eq_ok_iff.mp hnode
    simp
  have hnew : (d.append n).nodes[d.nodes.size]? = some n := Array.getElem?_push_size
  exact .output (by simp [append]) hnew houtputs

/-- A slot that has been looked up exists. -/
lemma offers_of_constantReference {slot : Int} (h : d.constantReference slot = .ok r) :
    d.Offers d.nodes.size r := by
  obtain ⟨k, -, hk, rfl⟩ := constantReference_eq_ok_iff.mp h
  exact .constant hk

/-- An output that has been looked up exists. -/
lemma offers_of_reference {index slot : Int} (h : d.reference index slot = .ok r) :
    d.Offers d.nodes.size r := by
  obtain ⟨n, k, source, -, -, hsource, hk, rfl⟩ := reference_eq_ok_iff.mp h
  exact .output (Array.getElem?_eq_some_iff.mp hsource).1 hsource hk

/-- The reference to a parameter comes from a binding that shows the parameter. -/
lemma WellBound.binds_of_parameterReference (hd : d.WellBound) {name : String}
    (h : d.parameterReference name = .ok r) :
    ∃ p ∈ d.parameters.toList, p.name = name ∧ (name, r) ∈ d.bindings ∧ d.Binds (name, r) p := by
  obtain ⟨shown, hprefix, hshown⟩ := hd.shown
  obtain ⟨_, -, h⟩ := bind_eq_ok.mp h
  unfold binding? at h
  split at h
  case h_2 => cases h
  case h_1 found hfound =>
    obtain rfl := Except.ok.inj h
    obtain ⟨b, hb, rfl⟩ := Option.map_eq_some_iff.mp hfound
    have hname : b.1 = name := by simpa using List.find?_some hb
    subst hname
    have hmem := List.mem_of_find?_eq_some hb
    obtain ⟨i, hi, rfl⟩ := List.getElem_of_mem hmem
    have hi' : i < shown.length := hshown.length_eq ▸ hi
    have hbinds : d.Binds d.bindings[i] shown[i] := hshown.get hi hi'
    exact ⟨shown[i], hprefix.subset (List.getElem_mem hi'), hbinds.1.symm, hmem, hbinds⟩

/-- The output that a parameter is bound to exists. -/
lemma WellBound.offers_of_parameterReference (hd : d.WellBound) {name : String}
    (h : d.parameterReference name = .ok r) : d.Offers d.nodes.size r := by
  obtain ⟨p, -, -, -, -, n, slot, source, rfl, hsource, hslot, -⟩ :=
    hd.binds_of_parameterReference h
  exact .output (Array.getElem?_eq_some_iff.mp hsource).1 hsource hslot

/-- A signal within limits is the output of a unit. -/
lemma offers_of_apply_clamped {signal : Reference} {clamp : Clamp} {rate : Rate}
    (h : (Template.clamped signal clamp rate).apply d = (.ok r, d')) :
    d'.Offers d'.nodes.size r := by
  cases clamp with
  | range low high =>
    obtain ⟨_, _, -, h⟩ := Edit.apply_bind_eq_ok.mp h
    obtain ⟨_, _, -, h⟩ := Edit.apply_bind_eq_ok.mp h
    exact offers_of_apply_unit h
  | floor low =>
    obtain ⟨_, _, -, h⟩ := Edit.apply_bind_eq_ok.mp h
    exact offers_of_apply_unit h

/-- The value of a parameter is the output that it is bound to, or that of the unit that adds its
modulation. -/
lemma WellBound.offers_of_apply_modulated (hd : d.WellBound) {p : ParamSpec} {rate : Rate}
    (h : (Template.modulated p).apply d = (.ok (r, rate), d')) : d'.Offers d'.nodes.size r := by
  obtain ⟨base, d₁, hbase, h⟩ := Edit.apply_bind_eq_ok.mp h
  rw [Template.parameter, Edit.apply_ask, Prod.mk.injEq] at hbase
  obtain ⟨hbase, rfl⟩ := hbase
  cases hmod : p.modName with
  | none =>
    rw [hmod] at h
    obtain ⟨hr, rfl⟩ := Edit.apply_pure_eq_ok.mp h
    obtain ⟨rfl, -⟩ := Prod.mk.inj hr
    exact hd.offers_of_parameterReference hbase
  | some modName =>
    rw [hmod] at h
    obtain ⟨_, _, -, h⟩ := Edit.apply_bind_eq_ok.mp h
    obtain ⟨sum, _, hsum, h⟩ := Edit.apply_bind_eq_ok.mp h
    obtain ⟨hr, rfl⟩ := Edit.apply_pure_eq_ok.mp h
    obtain ⟨rfl, -⟩ := Prod.mk.inj hr
    exact offers_of_apply_unit hsum

/-- What a parameter contributes is offered. -/
lemma WellBound.offers_of_apply_contribution (hd : d.WellBound) {p : ParamSpec}
    (h : (Template.contribution p).apply d = (.ok r, d')) : d'.Offers d'.nodes.size r := by
  obtain ⟨⟨signal, rate⟩, d₁, hmodulated, h⟩ := Edit.apply_bind_eq_ok.mp h
  dsimp only at h
  cases hclamp : p.effectiveClamp with
  | none =>
    rw [hclamp] at h
    obtain ⟨rfl, rfl⟩ := Edit.apply_pure_eq_ok.mp h
    exact hd.offers_of_apply_modulated hmodulated
  | some clamp =>
    rw [hclamp] at h
    exact offers_of_apply_clamped h

/-- The result of an edit, made into something else, is that of the edit. -/
lemma apply_map_some_eq_ok {e : Edit Reference} (h : (some <$> e).apply d = (.ok (some r), d')) :
    e.apply d = (.ok r, d') := by
  rw [map_eq_pure_bind] at h
  obtain ⟨found, d₁, he, h⟩ := Edit.apply_bind_eq_ok.mp h
  obtain ⟨hr, rfl⟩ := Edit.apply_pure_eq_ok.mp h
  exact Option.some.inj hr ▸ he

/-- An edit that returns no reference. -/
lemma not_apply_bind_none {α : Type} {e : Edit α} :
    (e >>= fun _ => pure none).apply d ≠ (.ok (some r), d') := by
  intro h
  obtain ⟨a, d₁, -, h⟩ := Edit.apply_bind_eq_ok.mp h
  cases (Edit.apply_pure_eq_ok.mp h).1

/-- Every reference that an operation returns is offered to the next node. -/
theorem WellBound.offers_of_apply (hd : d.WellBound) {op : Operation}
    (h : op.edit.apply d = (.ok (some r), d')) : d'.Offers d'.nodes.size r := by
  cases op with
  | declare name default rate => exact absurd h not_apply_bind_none
  | constant v => exact offers_of_apply_constant (apply_map_some_eq_ok h)
  | constantReference slot =>
    have hask := apply_map_some_eq_ok h
    rw [Edit.apply_ask, Prod.mk.injEq] at hask
    obtain ⟨hfound, rfl⟩ := hask
    exact offers_of_constantReference hfound
  | reference index slot =>
    have hask := apply_map_some_eq_ok h
    rw [Edit.apply_ask, Prod.mk.injEq] at hask
    obtain ⟨hfound, rfl⟩ := hask
    exact offers_of_reference hfound
  | node className rate inputs outputs special => exact absurd h not_apply_bind_none
  | binary op rate left right => exact offers_of_apply_unit (apply_map_some_eq_ok h)
  | controls => exact absurd h not_apply_bind_none
  | parameterReference name =>
    have hask := apply_map_some_eq_ok h
    rw [Template.parameter, Edit.apply_ask, Prod.mk.injEq] at hask
    obtain ⟨hfound, rfl⟩ := hask
    exact hd.offers_of_parameterReference hfound
  | contribution p => exact hd.offers_of_apply_contribution (apply_map_some_eq_ok h)
  | outputStage signal c => exact absurd h not_apply_bind_none

/-! ### References over a run -/

/-- Whatever operations a definition has been through and whatever follow, whether they succeed or
fail: the literals, the parameters and the nodes stay as the first ones, and a sealed table stays
sealed.  A reference that an operation returns is accepted as an input there and then and in every
later state, and stands for the same literal or the same output of the same node. -/
theorem Reachable.references_last (h : d.Reachable) (op : Operation) (later : List Operation) :
    (d.constants.values <+: (d.run later).constants.values ∧
        d.parameters.toList <+: (d.run later).parameters.toList ∧
        d.nodes.toList <+: (d.run later).nodes.toList ∧
        (d.parameters.isSealed = true → (d.run later).parameters.isSealed = true)) ∧
      ∀ r, (op.edit.apply d).1 = .ok (some r) →
        (op.run d).Accepts r ∧ ((op.run d).run later).Accepts r ∧
          ∃ m, (op.run d).denotation? r = some m ∧
            ((op.run d).run later).denotation? r = some m := by
  have hextends := extends_run d later
  refine ⟨⟨hextends.constants, hextends.parameters, hextends.nodes, hextends.isSealed⟩, ?_⟩
  intro r hr
  have hreturned : op.edit.apply d = (.ok (some r), op.run d) := Prod.ext hr rfl
  have hoffers : (op.run d).Offers (op.run d).nodes.size r := h.wellBound.offers_of_apply hreturned
  have hgrows := extends_run (op.run d) later
  obtain ⟨m, hm⟩ := hoffers.exists_denotation
  refine ⟨hoffers.accepts, (hoffers.mono hgrows hgrows.nodes_size_le).accepts, m, hm, ?_⟩
  rw [hoffers.denotation?_eq hgrows, hm]

/-- A definition whose parameters are exposed, behind a node and a literal. -/
def exposedTone : Definition :=
  (⟨"tone", .empty, .empty, #[], []⟩ : Definition).run
    [.constant (.ofInt 1), .node "WhiteNoise" 2 [] 1 0, .declare "freq" (.ofInt 440) "control",
      .declare "freq_mod" (.ofInt 0) "audio", .controls]

/-- The contribution of a parameter that is modulated and limited is the output of a new node, and
stands for it also after an output stage that fails and a node that reads it. -/
theorem references_last_exposedTone :
    let limited : Operation :=
      .contribution ⟨"freq", .ofInt 440, .core, some "freq_mod", some (.floor (.ofInt 1))⟩
    let later : List Operation :=
      [.outputStage ⟨4, 0⟩ ⟨⟨-1, 0⟩, ⟨-1, 0⟩, ⟨-1, 0⟩⟩, .node "Saw" 2 [⟨4, 0⟩] 1 0]
    exposedTone.Reachable ∧ (limited.edit.apply exposedTone).1 = .ok (some ⟨4, 0⟩) ∧
      ((limited.run exposedTone).run later).nodes.size = 6 ∧
      ((limited.run exposedTone).run later).Accepts ⟨4, 0⟩ ∧
      ((limited.run exposedTone).run later).denotation? ⟨4, 0⟩ = some (.output 4
        ⟨"BinaryOpUGen", .audio, [⟨3, 0⟩, ⟨-1, 0⟩], [.audio], 13⟩ 0) := by
  intro limited later
  have hnew : Definition.new "tone" = .ok ⟨"tone", .empty, .empty, #[], []⟩ := by rfl
  have hreach : exposedTone.Reachable := (Reachable.new hnew).run _
  have hreturned : (limited.edit.apply exposedTone).1 = .ok (some ⟨4, 0⟩) := by decide +kernel
  obtain ⟨-, hreferences⟩ := hreach.references_last limited later
  obtain ⟨-, haccepts, -⟩ := hreferences ⟨4, 0⟩ hreturned
  exact ⟨hreach, hreturned, by decide +kernel, haccepts, by decide +kernel⟩

end Definition

end SynthGraph
