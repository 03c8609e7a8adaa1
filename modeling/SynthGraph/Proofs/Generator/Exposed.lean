import SynthGraph.Proofs.Generator.Reachable
import SynthGraph.Proofs.Graph.Lifetime
import SynthGraph.Proofs.Graph.Reading

/-!
# Exposed generators

Before a generator is wired, there are the three literals and its control nodes, one or two of them,
and nothing is read yet.  What is pending then is listed: the slots of the literals, and the outputs
that the parameters are bound to, which are all outputs that there are.
-/

namespace SynthGraph

-- Powers are those of the core library, also where a larger library brings its own.
attribute [local instance (2000)] instPowNat

open Definition

variable {g : GeneratorSpec} {d d' : Definition} {rs : List Reference} {c : UnitConstants}

/-! ### Declarations -/

/-- The references to the three literals. -/
def UnitConstants.references (c : UnitConstants) : List Reference := [c.minusOne, c.one, c.zero]

/-- After the declarations the slots of the pool are those of the three literals. -/
lemma constant_mem_references {name : String} (hnew : Definition.new name = .ok d)
    (hrun : (Template.declarations g).apply d = (.ok c, d')) {slot : Nat}
    (hslot : slot < d'.constants.size) : .constant slot ∈ c.references := by
  obtain ⟨zero, d₀, hzero, h₁⟩ := Edit.apply_bind_eq_ok.mp hrun
  obtain ⟨one, d₁, hone, h₂⟩ := Edit.apply_bind_eq_ok.mp h₁
  obtain ⟨minusOne, d₂, hminusOne, h₃⟩ := Edit.apply_bind_eq_ok.mp h₂
  obtain ⟨_, d₃, hblock, h₄⟩ := Edit.apply_bind_eq_ok.mp h₃
  obtain ⟨_, d₄, hmods, h₅⟩ := Edit.apply_bind_eq_ok.mp h₄
  obtain ⟨rfl, rfl⟩ := Edit.apply_pure_eq_ok.mp h₅
  rw [(apply_declareAll hmods).1, (apply_declareAll hblock).1] at hslot
  obtain ⟨i, pool, hintern₀, rfl, rfl⟩ := Edit.apply_constant_eq_ok.mp hzero
  obtain ⟨j, pool', hintern₁, rfl, rfl⟩ := Edit.apply_constant_eq_ok.mp hone
  obtain ⟨k, pool'', hintern₂, rfl, rfl⟩ := Edit.apply_constant_eq_ok.mp hminusOne
  have hpending := (((pending_of_new hnew).intern hintern₀).intern hintern₁).intern hintern₂
  exact hpending.constant_mem hslot

/-! ### Control nodes -/

/-- How many control nodes a generator has: one, and another one when it has modulations. -/
def GeneratorSpec.controlCount (g : GeneratorSpec) : Nat :=
  1 + if 0 < g.params.countP ParamSpec.modulated then 1 else 0

/-- The parameters of a generator are as many runs as it has control nodes. -/
lemma GeneratorSpec.Declared.length_runs (hd : g.Declared d c) :
    (Edit.runs d.parameters.toList).length = g.controlCount := by
  obtain ⟨block, mods, hlist, hblock, hmods⟩ := hd.entries
  have hblockRate := rate_of_declares hblock
  have hmodsRate := rate_of_declares hmods
  have hne : block ≠ [] := by
    rintro rfl
    simpa [Template.blockDeclarations] using hblock.length_eq
  have hlength : mods.length = g.params.countP ParamSpec.modulated := by
    rw [← hmods.length_eq, Template.modDeclarations, List.length_map,
      List.length_filterMap_eq_countP]
    rfl
  have hruns : Edit.runs (block ++ mods) = (.control, block) :: Edit.runs mods :=
    runs_append_of_rate hne hblockRate fun p hp => by rw [hmodsRate p hp]; decide
  rw [hlist, hruns, List.length_cons, controlCount, ← hlength, Nat.add_comm]
  cases mods with
  | nil => rfl
  | cons p mods =>
    have hlater : Edit.runs ((p :: mods) ++ []) = (.audio, p :: mods) :: Edit.runs [] :=
      runs_append_of_rate (List.cons_ne_nil p mods) hmodsRate (List.forall_mem_nil _)
    rw [List.append_nil] at hlater
    rw [hlater, if_pos (by simp)]
    rfl

/-- A definition in which the parameters of a generator are exposed, and in which there are the
literals besides, all of which are pending. -/
structure GeneratorSpec.Exposed (g : GeneratorSpec) (d : Definition) (c : UnitConstants) :
    Prop where
  wired : g.Wired [.ofInt 0, .ofInt 1, .ofInt (-1)] d
  isSealed : d.parameters.isSealed = true
  rate : ∀ p ∈ d.parameters.toList, p.rate = .control ∨ p.rate = .audio
  bound : d.OutputsBound
  offers : ∀ r ∈ c.references, d.Offers d.nodes.size r
  pending : d.Pending g.controlCount g.parameterNames c.references

namespace GeneratorSpec

/-- When all outputs are bound, each is the one of a parameter that its node is a control node
for. -/
lemma Wired.exists_parameter_of_output {literals : List Binary64} (hd : g.Wired literals d)
    (hbound : d.OutputsBound) {i slot : Nat} {n : Node} (hn : d.nodes[i]? = some n)
    (hslot : slot < n.outputs.length) :
    ∃ p ∈ d.parameters.toList, n.className = p.rate.nodeClass ∧
      d.parameterReference p.name = .ok ⟨i, slot⟩ := by
  obtain ⟨name, hmem⟩ := hbound i slot n hn hslot
  obtain ⟨p, hp, ⟨hname, k, slot', source, houtput, hsource, -, -, hclass, -⟩, href⟩ :=
    parameterReference_of_mem hd.table hd.binds hmem
  obtain ⟨hik, -⟩ := Reference.mk.inj houtput
  obtain rfl := Int.ofNat.inj hik
  obtain rfl := Option.some.inj (hn.symm.trans hsource)
  exact ⟨p, hp, hclass, hname ▸ href⟩

/-- All that an exposed definition offers are the literals and the outputs of its parameters. -/
lemma Wired.readBut {literals : List Binary64} (hd : g.Wired literals d) (hbound : d.OutputsBound)
    (hslots : ∀ slot : Nat, slot < d.constants.size → .constant slot ∈ rs) :
    d.ReadBut g.parameterNames rs := by
  intro r hr
  cases hr with
  | @constant slot hslot => exact .inr (.inl (hslots slot hslot))
  | output hi hn hslot =>
    obtain ⟨p, hp, -, href⟩ := hd.exists_parameter_of_output hbound hn hslot
    exact .inr (.inr ⟨p.name, hd.names ▸ List.mem_map_of_mem hp, href⟩)

/-- The control nodes expose the parameters that have been declared. -/
lemma Declared.exposed {indices : List Nat} (hd : g.Declared d c)
    (hslots : ∀ slot : Nat, slot < d.constants.size → .constant slot ∈ c.references)
    (hrun : Edit.controls.apply d = (.ok indices, d')) : g.Exposed d' c := by
  obtain ⟨hwired, hconstants, -⟩ := apply_controls_declared hd hrun
  have hclosed := parameters_of_apply_controls hd.isOpen hrun
  have hkept : d.constants.values <+: d'.constants.values :=
    ⟨[], by rw [List.append_nil, hconstants]⟩
  rw [Edit.apply_controls_of_not_isSealed hd.isOpen] at hrun
  obtain rfl : d' = d.exposeAll (Edit.runs d.parameters.toList) :=
    Edit.apply_controlNodes_eq_ok hrun
  have hnodes := nodes_exposeAll (Edit.runs d.parameters.toList) d
  rw [hd.nodes, List.nil_append] at hnodes
  have hbound : (d.exposeAll (Edit.runs d.parameters.toList)).OutputsBound := by
    refine OutputsBound.foldl_expose _ fun i slot n hn => ?_
    simp [hd.nodes] at hn
  refine ⟨hwired, by rw [hclosed]; rfl, ?_, hbound, forall_mem_triple
    (hd.minusOne.mono hkept).offers (hd.one.mono hkept).offers (hd.zero.mono hkept).offers,
    ?_, ?_, hwired.readBut hbound (hconstants ▸ hslots)⟩
  · obtain ⟨block, mods, hlist, hblock, hmods⟩ := hd.entries
    rw [hclosed, ParameterTable.toList_close, hlist, List.forall_mem_append]
    exact ⟨fun p hp => .inl (rate_of_declares hblock p hp),
      fun p hp => .inr (rate_of_declares hmods p hp)⟩
  · rw [← Array.length_toList, hnodes, List.length_map, hd.length_runs]
  · rw [hnodes, List.forall_mem_map]
    intro run hmem
    have hne := (areRuns_runs d.parameters.toList).ne_nil run hmem
    simpa [exposingNode] using List.length_pos_iff.mpr hne

/-- The nodes of an exposed definition are control nodes, and each of their outputs is the one of a
parameter. -/
lemma Exposed.control (he : g.Exposed d c) {i : Nat} {n : Node} (hn : d.nodes[i]? = some n) :
    (n.className = "Control" ∨ n.className = "AudioControl") ∧
      ∀ slot : Nat, slot < n.outputs.length →
        ∃ p ∈ d.parameters.toList, d.parameterReference p.name = .ok ⟨i, slot⟩ := by
  have hparameter {slot : Nat} (hslot : slot < n.outputs.length) :=
    he.wired.exists_parameter_of_output he.bound hn hslot
  constructor
  · have hpos := he.pending.outputs n (Array.mem_toList_iff.mpr (Array.mem_of_getElem? hn))
    obtain ⟨p, hp, hclass, -⟩ := hparameter hpos
    rw [hclass]
    rcases he.rate p hp with hrate | hrate
    · exact .inl (by rw [hrate]; rfl)
    · exact .inr (by rw [hrate]; rfl)
  · intro slot hslot
    obtain ⟨p, hp, -, href⟩ := hparameter hslot
    exact ⟨p, hp, href⟩

/-- Every parameter of an exposed definition is an output of one of its nodes. -/
lemma Exposed.parameter (he : g.Exposed d c) {p : Parameter} (hp : p ∈ d.parameters.toList) :
    ∃ (i slot : Nat) (n : Node), d.nodes[i]? = some n ∧ slot < n.outputs.length ∧
      d.parameterReference p.name = .ok ⟨i, slot⟩ := by
  obtain ⟨r, href, -, -, i, slot, n, rfl, hn, hslot, -⟩ :=
    parameterReference_of_binds he.wired.table he.wired.binds hp
  exact ⟨i, slot, n, hn, hslot, href⟩

/-! ### The stages of the wiring -/

/-- The wiring of an exposed generator appends the contributions, the unit generator, its scaling by
an amplitude, and behind these the nodes of the output stage. -/
lemma Exposed.apply_wiring_eq_ok (he : g.Exposed d c) (h : d.Reachable) {index : Nat}
    (hrun : (Template.wiring g c).apply d = (.ok index, d')) :
    ∃ core amp d₁ source d₂ signal d₃ pan outBus,
      (Template.contributions g.params).apply d = (.ok (core, amp), d₁) ∧
      (Edit.unit g.ugen Rate.audio.code core 0).apply d₁ = (.ok source, d₂) ∧
      (amp = none ∧ signal = source ∧ d₃ = d₂ ∨ ∃ a, amp = some a ∧
        (Edit.binary .mul Rate.audio.code source a).apply d₂ = (.ok signal, d₃)) ∧
      d₃.parameterReference panName = .ok pan ∧ d₃.parameterReference outBusName = .ok outBus ∧
      d' = d₃.appendAll (outputNodes d₃.nodes.size signal pan outBus c) := by
  obtain ⟨⟨core, amp⟩, d₁, hcontributions, h₁⟩ := Edit.apply_bind_eq_ok.mp hrun
  obtain ⟨source, d₂, hsource, h₂⟩ := Edit.apply_bind_eq_ok.mp h₁
  obtain ⟨hreach₁, hextends₁⟩ := (Template.isRun_contributions g.params).reachable h hcontributions
  obtain ⟨hreach₂, hextends₂⟩ := (Edit.isRun_unit _ _ _ _).reachable hreach₁ hsource
  have hextends := hextends₁.trans hextends₂
  -- What the output stage reads is offered once the literals and the signal are.
  have hstage {d₃ : Definition} {signal : Reference} (hreach : d₃.Reachable)
      (hmore : d₂.Extends d₃) (hsignal : d₃.Offers d₃.nodes.size signal)
      (hlast : (Template.outputStage signal c).apply d₃ = (.ok index, d')) :
      ∃ pan outBus, d₃.parameterReference panName = .ok pan ∧
        d₃.parameterReference outBusName = .ok outBus ∧
        d' = d₃.appendAll (outputNodes d₃.nodes.size signal pan outBus c) := by
    obtain ⟨pan, outBus, hpan, houtBus⟩ := Template.parameterReference_of_apply_outputStage hlast
    have hkept : ∀ r ∈ c.references, d₃.Offers d₃.nodes.size r := fun r hr =>
      (he.offers r hr).mono (hextends.trans hmore) (hextends.trans hmore).nodes_size_le
    simp only [UnitConstants.references, List.forall_mem_cons] at hkept
    have hbound := hreach.wellBound
    have happly := Template.apply_outputStage hpan houtBus
      ⟨hsignal, hbound.offers_of_parameterReference hpan,
        hbound.offers_of_parameterReference houtBus, hkept.2.2.1, hkept.2.1, hkept.1⟩
    obtain ⟨-, rfl⟩ := Prod.mk.inj (hlast.symm.trans happly)
    exact ⟨pan, outBus, hpan, houtBus, rfl⟩
  cases amp with
  | none =>
    obtain ⟨pan, outBus, hpan, houtBus, hd'⟩ :=
      hstage hreach₂ (.refl _) (offers_of_apply_unit hsource) h₂
    exact ⟨core, none, d₁, source, d₂, source, d₂, pan, outBus, hcontributions, hsource,
      .inl ⟨rfl, rfl, rfl⟩, hpan, houtBus, hd'⟩
  | some amp =>
    obtain ⟨signal, d₃, hsignal, h₃⟩ := Edit.apply_bind_eq_ok.mp h₂
    obtain ⟨hreach₃, hextends₃⟩ := (Edit.isRun_binary _ _ _ _).reachable hreach₂ hsignal
    obtain ⟨pan, outBus, hpan, houtBus, hd'⟩ :=
      hstage hreach₃ hextends₃ (offers_of_apply_unit hsignal) h₃
    exact ⟨core, some amp, d₁, source, d₂, signal, d₃, pan, outBus, hcontributions, hsource,
      .inr ⟨amp, rfl, hsignal⟩, hpan, houtBus, hd'⟩

end GeneratorSpec

end SynthGraph
