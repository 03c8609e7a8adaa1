import SynthGraph.Proofs.Generator.Contribution
import SynthGraph.Proofs.Generator.Exposed

/-!
# The rates of a built generator

The rate of a limit or a sum is chosen from the parameter that it belongs to, and not from what the
node reads.  That no node at control rate reads a signal at audio rate rests on the control nodes:
a parameter without a modulation is exposed at control rate, and what is limited at control rate is
the value of such a parameter.  All other nodes are at audio rate, but the comparison of the output
bus.
-/

namespace SynthGraph

-- Powers are those of the core library, also where a larger library brings its own.
attribute [local instance (2000)] instPowNat

namespace Definition

variable {d d' : Definition} {r : Reference} {rate rate' : Rate} {n : Node} {ns : List Node}
  {pool : ConstantPool} {names : List String} {p : ParamSpec} {ps : List ParamSpec}

/-! ### Outputs and their rates -/

/-- The reference is to an output at a rate. -/
def OutputsAt (d : Definition) (rate : Rate) (r : Reference) : Prop :=
  ∃ (i slot : Nat) (n : Node), r = ⟨i, slot⟩ ∧ d.nodes[i]? = some n ∧ n.outputs[slot]? = some rate

/-- An output keeps its rate when nodes are appended. -/
lemma OutputsAt.extendBy (h : d.OutputsAt rate r) (pool : ConstantPool) (ns : List Node) :
    (d.extendBy pool ns).OutputsAt rate r := by
  obtain ⟨i, slot, n, hr, hn, hrate⟩ := h
  have hprefix : d.nodes.toList <+: (d.extendBy pool ns).nodes.toList := by
    simp [Definition.extendBy]
  refine ⟨i, slot, n, hr, ?_, hrate⟩
  rw [← Array.getElem?_toList] at hn ⊢
  exact getElem?_of_prefix hprefix hn

/-- An output has one rate. -/
lemma OutputsAt.unique (h : d.OutputsAt rate r) (h' : d.OutputsAt rate' r) : rate = rate' := by
  obtain ⟨i, slot, n, rfl, hn, hrate⟩ := h
  obtain ⟨i', slot', n', hr, hn', hrate'⟩ := h'
  obtain ⟨hi, hslot⟩ := Reference.mk.inj hr
  obtain rfl := Int.ofNat.inj hi
  obtain rfl := Int.ofNat.inj hslot
  obtain rfl := Option.some.inj (hn.symm.trans hn')
  exact Option.some.inj (hrate.symm.trans hrate')

/-- An output is no constant. -/
lemma OutputsAt.isConstant_eq_false (h : d.OutputsAt rate r) : r.isConstant = false := by
  obtain ⟨i, slot, n, rfl, -, -⟩ := h
  rw [Reference.isConstant, beq_eq_false_iff_ne]
  change (i : Int) ≠ -1
  omega

/-- The outputs of the nodes that are appended. -/
lemma outputsAt_extendBy {i slot : Nat} (hn : ns[i]? = some n)
    (hrate : n.outputs[slot]? = some rate) :
    (d.extendBy pool ns).OutputsAt rate ⟨(d.nodes.size + i : Nat), slot⟩ := by
  refine ⟨d.nodes.size + i, slot, n, rfl, ?_, hrate⟩
  rw [Definition.extendBy, Array.getElem?_append_right (Nat.le_add_right _ _),
    Nat.add_sub_cancel_left, List.getElem?_toArray, hn]

/-! ### The discipline of rates -/

/-- A node is at control or at audio rate, and at control rate it reads constants and outputs at
control rate. -/
def KeepsRates (d : Definition) (n : Node) : Prop :=
  n.rate = .audio ∨
    n.rate = .control ∧ ∀ r ∈ n.inputs, r.isConstant = true ∨ d.OutputsAt .control r

/-- All nodes keep the discipline of rates. -/
def KeepsAllRates (d : Definition) : Prop := ∀ n ∈ d.nodes, d.KeepsRates n

/-- Nodes keep the discipline when others are appended. -/
lemma KeepsRates.extendBy (h : d.KeepsRates n) (pool : ConstantPool) (ns : List Node) :
    (d.extendBy pool ns).KeepsRates n :=
  h.imp_right fun ⟨hrate, hinputs⟩ =>
    ⟨hrate, fun r hr => (hinputs r hr).imp_right fun hr => hr.extendBy pool ns⟩

/-- The discipline is kept when nodes are appended that keep it. -/
lemma KeepsAllRates.extendBy (h : d.KeepsAllRates) (hns : ∀ n ∈ ns, d.KeepsRates n) :
    (d.extendBy pool ns).KeepsAllRates := by
  intro n hn
  rcases Array.mem_append.mp hn with hn | hn
  · exact (h n hn).extendBy pool ns
  · exact (hns n (List.mem_toArray.mp hn)).extendBy pool ns

/-- The parameters of some names are outputs at control rate. -/
def BindsAtControl (d : Definition) (names : List String) : Prop :=
  ∀ name ∈ names, ∀ r, d.parameterReference name = .ok r → d.OutputsAt .control r

/-- Parameters stay what they are when nodes are appended. -/
lemma BindsAtControl.extendBy (h : d.BindsAtControl names) (pool : ConstantPool)
    (ns : List Node) : (d.extendBy pool ns).BindsAtControl names :=
  fun name hname r hr => (h name hname r hr).extendBy pool ns

end Definition

open Definition

variable {g : GeneratorSpec} {d d' : Definition} {r signal : Reference} {p : ParamSpec}
  {ps : List ParamSpec} {names : List String} {nodes : List Node} {c : UnitConstants}

/-! ### Contributions -/

/-- A limit reads the signal and constants. -/
lemma Limited.inputs {pool pool' : ConstantPool} {index : Nat} {rate : Rate} {clamp : Option Clamp}
    (h : Limited pool index rate signal clamp r pool' nodes) :
    ∀ n ∈ nodes, ∀ q ∈ n.inputs, q = signal ∨ q.isConstant = true := by
  cases h <;> simp [Reference.isConstant, Reference.constant]

/-- Without a modulation the signal of a parameter is the parameter. -/
lemma Summed.eq_nil_of_not_modulated (h : Summed d p signal nodes) (hmod : p.modulated = false) :
    d.parameterReference p.name = .ok signal ∧ nodes = [] := by
  cases h with
  | plain _ hbase => exact ⟨hbase, rfl⟩
  | modulated hsome =>
    rw [ParamSpec.modulated, hsome] at hmod
    cases hmod

/-- A contribution is at audio rate when the parameter has a modulation, and otherwise limits the
parameter itself. -/
lemma Definition.Reachable.keepsAllRates_contribution (h : d.Reachable) (hd : d.KeepsAllRates)
    (hnames : d.BindsAtControl names) (hp : p.name ∈ names)
    (hrun : (Template.contribution p).apply d = (.ok r, d')) :
    d'.KeepsAllRates ∧ d'.BindsAtControl names := by
  obtain ⟨signal, sum, pool, limit, hsum, hlimit, rfl⟩ := h.apply_contribution_eq_ok hrun
  refine ⟨hd.extendBy fun n hn => ?_, hnames.extendBy pool _⟩
  have hrate : n.rate = p.signalRate := by
    rcases List.mem_append.mp hn with hn | hn
    · exact hsum.rate_eq n hn
    · exact hlimit.rate_eq n hn
  cases hmod : p.modulated with
  | true =>
    rw [ParamSpec.signalRate, hmod] at hrate
    exact .inl hrate
  | false =>
    rw [ParamSpec.signalRate, hmod] at hrate
    obtain ⟨hbase, rfl⟩ := hsum.eq_nil_of_not_modulated hmod
    refine .inr ⟨hrate, fun q hq => ?_⟩
    rcases hlimit.inputs n hn q hq with rfl | hconstant
    · exact .inr (hnames p.name hp q hbase)
    · exact .inl hconstant

/-- The contributions keep the discipline of rates. -/
lemma Definition.Reachable.keepsAllRates_contributions (h : d.Reachable) (hd : d.KeepsAllRates)
    (hnames : d.BindsAtControl names) (hps : ∀ p ∈ ps, p.name ∈ names)
    {result : List Reference × Option Reference}
    (hrun : (Template.contributions ps).apply d = (.ok result, d')) :
    d'.KeepsAllRates ∧ d'.BindsAtControl names := by
  induction ps generalizing d result with
  | nil =>
    obtain ⟨-, rfl⟩ := Edit.apply_pure_eq_ok.mp hrun
    exact ⟨hd, hnames⟩
  | cons p ps ih =>
    rw [List.forall_mem_cons] at hps
    obtain ⟨signal, d₁, hfirst, hrest⟩ := Edit.apply_bind_eq_ok.mp hrun
    obtain ⟨others, d₂, hothers, hlast⟩ := Edit.apply_bind_eq_ok.mp hrest
    obtain ⟨-, rfl⟩ := Edit.apply_pure_eq_ok.mp hlast
    obtain ⟨hd₁, hnames₁⟩ := h.keepsAllRates_contribution hd hnames hps.1 hfirst
    have hreach₁ := ((Template.isRun_contribution p).reachable h hfirst).1
    exact ih hreach₁ hd₁ hnames₁ hps.2 hothers

/-- A unit at audio rate keeps the discipline of rates, whatever it reads. -/
lemma Definition.KeepsAllRates.unit (hd : d.KeepsAllRates) (hnames : d.BindsAtControl names)
    {className : String} {inputs : List Reference} {special : Int}
    (hrun : (Edit.unit className Rate.audio.code inputs special).apply d = (.ok r, d')) :
    d'.KeepsAllRates ∧ d'.BindsAtControl names := by
  obtain ⟨n, hnode, -, rfl⟩ := Edit.apply_unit_eq_ok.mp hrun
  obtain ⟨-, rfl⟩ := newNode_code_eq_ok_iff.mp hnode
  have hsame (n : Node) : d.append n = d.extendBy d.constants [n] := append_constants d _ n
  rw [hsame]
  exact ⟨hd.extendBy (List.forall_mem_singleton.mpr (.inl rfl)), hnames.extendBy _ _⟩

/-! ### The output stage -/

/-- A definition in which no node at control rate reads a signal at audio rate, and which ends with
a node that writes signals at audio rate to the output bus. -/
structure Definition.WritesAudio (d : Definition) : Prop where
  keeps : d.KeepsAllRates
  last : ∃ bus left right, d.nodes.back? = some ⟨"Out", .audio, [bus, left, right], [], 0⟩ ∧
    d.parameterReference outBusName = .ok bus ∧ d.OutputsAt .control bus ∧
    d.OutputsAt .audio left ∧ d.OutputsAt .audio right

/-- The output stage compares the output bus at control rate, and everything else in it is at audio
rate. -/
lemma Definition.KeepsAllRates.outputStage (hd : d.KeepsAllRates) (hnames : d.BindsAtControl names)
    (hbus : outBusName ∈ names) (hzero : c.zero.isConstant = true) {pan outBus : Reference}
    (houtBus : d.parameterReference outBusName = .ok outBus) :
    (d.appendAll (outputNodes d.nodes.size signal pan outBus c)).WritesAudio := by
  have hcontrol := hnames outBusName hbus outBus houtBus
  rw [← extendBy_constants]
  refine ⟨hd.extendBy ?_, outBus, ⟨(d.nodes.size + 4 : Nat), 0⟩, ⟨(d.nodes.size + 5 : Nat), 0⟩, ?_,
    houtBus, hcontrol.extendBy _ _, outputsAt_extendBy rfl rfl, outputsAt_extendBy rfl rfl⟩
  · have hcompare : d.KeepsRates
        ⟨"BinaryOpUGen", .control, [outBus, c.zero], [.control], BinaryOperator.lte.special⟩ :=
      .inr ⟨rfl, by simp [hcontrol, hzero]⟩
    simp only [outputNodes, List.forall_mem_cons]
    exact ⟨.inl rfl, .inl rfl, .inl rfl, hcompare, .inl rfl, .inl rfl, .inl rfl,
      List.forall_mem_nil _⟩
  · simp [Definition.extendBy, outputNodes]

/-! ### Control nodes -/

namespace GeneratorSpec

/-- Control nodes read nothing. -/
lemma Declared.keepsAllRates (hd : g.Declared d c) {indices : List Nat}
    (hrun : Edit.controls.apply d = (.ok indices, d')) : d'.KeepsAllRates := by
  rw [Edit.apply_controls_of_not_isSealed hd.isOpen] at hrun
  obtain rfl : d' = d.exposeAll (Edit.runs d.parameters.toList) :=
    Edit.apply_controlNodes_eq_ok hrun
  have hnodes := nodes_exposeAll (Edit.runs d.parameters.toList) d
  rw [hd.nodes, List.nil_append] at hnodes
  intro n hn
  rw [← Array.mem_toList_iff, hnodes] at hn
  obtain ⟨⟨rate, run⟩, -, rfl⟩ := List.mem_map.mp hn
  cases rate with
  | audio => exact .inl rfl
  | control => exact .inr ⟨rfl, List.forall_mem_nil _⟩
  | trigger => exact .inr ⟨rfl, List.forall_mem_nil _⟩

/-- The parameters that change once per block are bound to outputs at control rate. -/
lemma Declared.bindsAtControl (hd : g.Declared d c) (h : d'.Reachable)
    (hsame : d'.parameters.toList = d.parameters.toList) :
    d'.BindsAtControl ((Template.blockDeclarations g).map Prod.fst) := by
  intro name hname r href
  obtain ⟨q, hq, rfl, -, -, i, slot, source, rfl, hsource, hslot, -, -, hrate⟩ :=
    h.wellBound.binds_of_parameterReference href
  obtain ⟨block, mods, hlist, hblock, -⟩ := hd.entries
  rw [← map_name_of_declares hblock] at hname
  obtain ⟨q', hq', hname'⟩ := List.mem_map.mp hname
  have hmem : q' ∈ d'.parameters.toList := by
    rw [hsame, hlist]
    exact List.mem_append_left _ hq'
  -- Names are distinct, so that the parameter is the one that was declared for a block.
  have htable := h.wellBound.table
  have hfound := htable.find?_name hmem
  rw [hname', htable.find?_name hq] at hfound
  obtain rfl := Option.some.inj hfound
  rw [rate_of_declares hblock q hq'] at hrate
  have houtput := (h.isDag i source hsource).outputs _ (List.getElem_mem hslot)
  refine ⟨i, slot, source, rfl, hsource, ?_⟩
  rw [List.getElem?_eq_getElem hslot, houtput, hrate]
  rfl

/-! ### The whole build -/

/-- Wiring a generator keeps the discipline of rates. -/
lemma Exposed.writesAudio_of_apply_wiring (he : g.Exposed d c) (h : d.Reachable)
    (hd : d.KeepsAllRates)
    (hnames : d.BindsAtControl ((Template.blockDeclarations g).map Prod.fst))
    (hzero : c.zero.isConstant = true) {index : Nat}
    (hrun : (Template.wiring g c).apply d = (.ok index, d')) : d'.WritesAudio := by
  obtain ⟨core, amp, d₁, source, d₂, signal, d₃, pan, outBus, hcontributions, hsource, hscaled, -,
    houtBus, rfl⟩ := he.apply_wiring_eq_ok h hrun
  have hparams : ∀ p ∈ g.params, p.name ∈ (Template.blockDeclarations g).map Prod.fst := by
    intro p hp
    simp only [Template.blockDeclarations, List.map_append, List.map_map, List.mem_append]
    exact .inl (List.mem_map_of_mem hp)
  have hbus : outBusName ∈ (Template.blockDeclarations g).map Prod.fst := by
    simp [Template.blockDeclarations]
  obtain ⟨hd₁, hnames₁⟩ := h.keepsAllRates_contributions hd hnames hparams hcontributions
  obtain ⟨hd₂, hnames₂⟩ := hd₁.unit hnames₁ hsource
  rcases hscaled with ⟨rfl, rfl, rfl⟩ | ⟨a, rfl, hsignal⟩
  · exact hd₂.outputStage hnames₂ hbus hzero houtBus
  · obtain ⟨hd₃, hnames₃⟩ := hd₂.unit hnames₂ hsignal
    exact hd₃.outputStage hnames₃ hbus hzero houtBus

end GeneratorSpec

/-- A definition in which every node can read what it reads at its rate. -/
structure Definition.RespectsRates (d : Definition) : Prop where
  /-- No node is evaluated only once. -/
  rates : ∀ n ∈ d.nodes, n.rate = .control ∨ n.rate = .audio
  /-- A node at control rate reads constants of the pool and outputs at control rate. -/
  control : ∀ n ∈ d.nodes, n.rate = .control → ∀ r ∈ n.inputs,
    (∃ slot : Nat, slot < d.constants.size ∧ r = .constant slot) ∨ d.OutputsAt .control r
  /-- A node that reads an output at audio rate is at audio rate. -/
  audio : ∀ n ∈ d.nodes, (∃ r ∈ n.inputs, d.OutputsAt .audio r) → n.rate = .audio
  /-- The last node writes outputs at audio rate to the output bus, which is at control rate. -/
  last : ∃ bus left right, d.nodes.back? = some ⟨"Out", .audio, [bus, left, right], [], 0⟩ ∧
    d.parameterReference outBusName = .ok bus ∧ d.OutputsAt .control bus ∧
    d.OutputsAt .audio left ∧ d.OutputsAt .audio right

/-- The discipline of rates in a reachable definition. -/
lemma Definition.WritesAudio.respectsRates (hd : d.WritesAudio) (h : d.Reachable) :
    d.RespectsRates := by
  have hinputs : ∀ n ∈ d.nodes, n.rate = .control → ∀ r ∈ n.inputs,
      r.isConstant = true ∨ d.OutputsAt .control r := by
    intro n hn hrate
    rcases hd.keeps n hn with haudio | ⟨-, hinputs⟩
    · rw [hrate] at haudio
      cases haudio
    · exact hinputs
  constructor
  case rates => exact fun n hn => (hd.keeps n hn).symm.imp_left And.left
  case control =>
    intro n hn hrate r hr
    rcases hinputs n hn hrate r hr with hconstant | houtput
    · obtain ⟨i, hi, hni⟩ := Array.mem_iff_getElem.mp hn
      have hoffers := (h.isDag i n (Array.getElem?_eq_some_iff.mpr ⟨hi, hni⟩)).inputs r hr
      cases hoffers with
      | @constant slot hslot => exact .inl ⟨slot, hslot, rfl⟩
      | @output k slot source hk hsource hslot =>
        have houtput : d.OutputsAt source.outputs[slot] ⟨k, slot⟩ :=
          ⟨k, slot, source, rfl, hsource, List.getElem?_eq_getElem hslot⟩
        rw [houtput.isConstant_eq_false] at hconstant
        cases hconstant
    · exact .inr houtput
  case audio =>
    rintro n hn ⟨r, hr, haudio⟩
    rcases hd.keeps n hn with hrate | ⟨hrate, -⟩
    · exact hrate
    · rcases hinputs n hn hrate r hr with hconstant | hcontrol
      · rw [haudio.isConstant_eq_false] at hconstant
        cases hconstant
      · cases haudio.unique hcontrol
  case last => exact hd.last

/-- A built generator respects rates: every node of it is at control or at audio rate, a node at
control rate reads only constants and outputs at control rate, so that whatever reads a signal at
audio rate is at audio rate itself, and the last node writes signals at audio rate to the output
bus. -/
theorem GeneratorSpec.respectsRates_of_build (h : g.build = .ok d) : d.RespectsRates := by
  obtain ⟨d₀, c, d₁, indices, d₂, index, hnew, hdeclarations, hcontrols, hwiring⟩ :=
    GeneratorSpec.build_eq_ok_iff.mp h
  have hreach₁ := ((Template.isRun_declarations g).reachable (.new hnew) hdeclarations).1
  have hreach₂ := (Edit.isRun_controls.reachable hreach₁ hcontrols).1
  have hdeclared := apply_declarations hnew hdeclarations
  have hexposed := hdeclared.exposed
    (fun slot hslot => constant_mem_references hnew hdeclarations hslot) hcontrols
  have hsame : d₂.parameters.toList = d₁.parameters.toList := by
    rw [parameters_of_apply_controls hdeclared.isOpen hcontrols, ParameterTable.toList_close]
  obtain ⟨slot, hzero, -⟩ := hdeclared.zero
  have hwritten := hexposed.writesAudio_of_apply_wiring hreach₂ (hdeclared.keepsAllRates hcontrols)
    (hdeclared.bindsAtControl hreach₂ hsame) (by rw [hzero]; rfl) hwiring
  exact hwritten.respectsRates (GeneratorSpec.reachable_of_build h)

/-- The saw with modulations respects rates: it has nodes at both rates, and the only ones at
control rate are its control node and the comparison of the output bus. -/
theorem GeneratorSpec.respectsRates_of_build_modulatedSaw :
    ∃ d, modulatedSaw.build = .ok d ∧ d.RespectsRates ∧
      (d.nodes.toList.filter (·.rate == .control)).map Node.className =
        ["Control", "BinaryOpUGen"] := by
  obtain ⟨d, hbuild⟩ := exists_build_modulatedSaw
  have hclasses : modulatedSaw.build.map (fun d =>
      (d.nodes.toList.filter (·.rate == .control)).map Node.className) =
        .ok ["Control", "BinaryOpUGen"] := by decide +kernel
  rw [hbuild] at hclasses
  exact ⟨d, hbuild, respectsRates_of_build hbuild, Except.ok.inj hclasses⟩

end SynthGraph
