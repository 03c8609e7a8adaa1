import SynthGraph.Proofs.Generator.Wiring

/-!
# A built generator computes its signals

The definition that is built for a generator has the parameters of the generator in their order, and
what its last node writes out are the signals that the spec asks for.  The proof follows the three
stages of a build: the declarations, the control nodes, and the wiring.
-/

namespace SynthGraph

open Edit

variable {g : GeneratorSpec} {d d' : Definition}

/-! ### Declarations -/

/-- A parameter is declared from a name and a default at a rate. -/
def Declares (rate : ParameterRate) (declared : String × Binary64) (p : Parameter) : Prop :=
  p.name = declared.1 ∧ declared.2.narrow? = some p.default ∧ p.rate = rate

/-- Declaring parameters adds them to the table in their order and changes nothing else. -/
lemma apply_declareAll {rate : ParameterRate} {declared : List (String × Binary64)}
    (h : (Template.declareAll rate declared).apply d = (.ok (), d')) :
    d'.constants = d.constants ∧ d'.nodes = d.nodes ∧ d'.bindings = d.bindings ∧
      d'.parameters.isSealed = d.parameters.isSealed ∧
      (d.parameters.WellFormed → d'.parameters.WellFormed) ∧
      ∃ added, d'.parameters.toList = d.parameters.toList ++ added ∧
        List.Forall₂ (Declares rate) declared added := by
  induction declared generalizing d with
  | nil =>
    obtain ⟨-, rfl⟩ := apply_pure_eq_ok.mp h
    exact ⟨rfl, rfl, rfl, rfl, id, [], by simp, .nil⟩
  | cons entry declared ih =>
    obtain ⟨name, default⟩ := entry
    obtain ⟨index, d₁, hfirst, hrest⟩ := apply_bind_eq_ok.mp h
    obtain ⟨first, hdeclare, rfl⟩ := apply_declare_eq_ok.mp hfirst
    obtain ⟨hconstants, hnodes, hbindings, hsealed, hformed, added, hlist, hadded⟩ := ih hrest
    obtain ⟨-, r, x, hrate, -, -, -, hnarrow, -, hpush⟩ :=
      ParameterTable.declare_eq_ok_iff.mp hdeclare
    rw [ParameterRate.ofName?_name] at hrate
    obtain rfl := Option.some.inj hrate
    refine ⟨hconstants, hnodes, hbindings, ?_, fun ht => hformed (ht.declare hdeclare),
      ⟨name, x, rate, d.parameters.size⟩ :: added, ?_, .cons ⟨rfl, hnarrow, rfl⟩ hadded⟩
    · rw [hsealed, hpush]
      rfl
    · rw [hlist, hpush, ParameterTable.toList_push, List.append_assoc]
      rfl

/-- The names of declared parameters are those that were asked for. -/
lemma map_name_of_declares {rate : ParameterRate} {declared : List (String × Binary64)}
    {added : List Parameter} (h : List.Forall₂ (Declares rate) declared added) :
    added.map Parameter.name = declared.map Prod.fst := by
  induction h with
  | nil => rfl
  | cons hfirst _ ih => rw [List.map_cons, List.map_cons, hfirst.1, ih]

/-- Declared parameters have the rate that was asked for. -/
lemma rate_of_declares {rate : ParameterRate} {declared : List (String × Binary64)}
    {added : List Parameter} (h : List.Forall₂ (Declares rate) declared added) :
    ∀ p ∈ added, p.rate = rate := by
  induction h with
  | nil => exact List.forall_mem_nil _
  | cons hfirst _ ih => exact List.forall_mem_cons.mpr ⟨hfirst.2.2, ih⟩

/-- The names of the parameters are those that are declared, in the order of their declaration. -/
lemma GeneratorSpec.parameterNames_eq (g : GeneratorSpec) :
    g.parameterNames = (Template.blockDeclarations g).map Prod.fst ++
      (Template.modDeclarations g).map Prod.fst := by
  simp [parameterNames, Template.blockDeclarations, Template.modDeclarations, Function.comp_def]

/-- The reference is to a slot that stores a literal. -/
def Definition.Stores (d : Definition) (r : Reference) (x : Binary32) : Prop :=
  ∃ slot : Nat, r = .constant slot ∧ d.constants.values[slot]? = some x

/-- A stored literal is the signal of its reference. -/
lemma Definition.Stores.signal? {r : Reference} {x : Binary32} (h : d.Stores r x) :
    d.signal? r = some (.constant x) := by
  obtain ⟨slot, rfl, hx⟩ := h
  exact signal?_constant hx

/-- A stored literal is offered. -/
lemma Definition.Stores.offers {r : Reference} {x : Binary32} (h : d.Stores r x) :
    d.Offers d.nodes.size r := by
  obtain ⟨slot, rfl, hx⟩ := h
  exact offers_of_getElem?_values hx

/-- What is stored is stored for good. -/
lemma Definition.Stores.mono {r : Reference} {x : Binary32} (h : d.Stores r x)
    (hkept : d.constants.values <+: d'.constants.values) : d'.Stores r x := by
  obtain ⟨slot, rfl, hx⟩ := h
  exact ⟨slot, rfl, getElem?_of_prefix hkept hx⟩

/-- An interned literal is stored as the first one that shares its slot. -/
lemma apply_constant_stores {literals : List Binary64} {v : Binary64} {r : Reference}
    (hholds : d.constants.Holds literals) (h : (constant v).apply d = (.ok r, d')) :
    d.Continues d' ∧ d'.nodes = d.nodes ∧ d'.constants.Holds (literals ++ [v]) ∧
      d'.Stores r (firstStored (literals ++ [v]) v) := by
  obtain ⟨slot, pool, hintern, rfl, rfl⟩ := apply_constant_eq_ok.mp h
  obtain ⟨hholds', hvalue⟩ := hholds.intern hintern
  have hextends := (Definition.Step.constant (d := d) hintern).extends
  exact ⟨⟨hextends, rfl, rfl⟩, rfl, hholds', slot, rfl, hvalue⟩

/-- The three literals of every generator have slots of their own. -/
lemma firstStored_units :
    firstStored [.ofInt 0] (.ofInt 0) = .ofInt 0 ∧
      firstStored [.ofInt 0, .ofInt 1] (.ofInt 1) = .ofInt 1 ∧
      firstStored [.ofInt 0, .ofInt 1, .ofInt (-1)] (.ofInt (-1)) = .ofInt (-1) := by
  decide +kernel

/-- A definition in which the parameters of a generator are declared but not yet exposed. -/
structure GeneratorSpec.Declared (g : GeneratorSpec) (d : Definition) (c : UnitConstants) :
    Prop where
  holds : d.constants.Holds [.ofInt 0, .ofInt 1, .ofInt (-1)]
  zero : d.Stores c.zero (.ofInt 0)
  one : d.Stores c.one (.ofInt 1)
  minusOne : d.Stores c.minusOne (.ofInt (-1))
  table : d.parameters.WellFormed
  names : d.parameters.toList.map Parameter.name = g.parameterNames
  entries : ∃ block mods, d.parameters.toList = block ++ mods ∧
    List.Forall₂ (Declares .control) (Template.blockDeclarations g) block ∧
    List.Forall₂ (Declares .audio) (Template.modDeclarations g) mods
  nodes : d.nodes = #[]
  bindings : d.bindings = []
  isOpen : d.parameters.isSealed = false

/-- The declarations intern the three literals and declare the parameters in their order. -/
lemma apply_declarations {name : String} {c : UnitConstants} (hnew : Definition.new name = .ok d)
    (h : (Template.declarations g).apply d = (.ok c, d')) : g.Declared d' c := by
  obtain ⟨-, rfl⟩ := Definition.new_eq_ok_iff.mp hnew
  obtain ⟨hstored₀, hstored₁, hstored₂⟩ := firstStored_units
  obtain ⟨zero, d₀, hrunZero, h₁⟩ := apply_bind_eq_ok.mp h
  obtain ⟨continues₀, hnodes₀, hholds₀, hzero⟩ :=
    apply_constant_stores ConstantPool.holds_empty hrunZero
  obtain ⟨one, d₁, hrunOne, h₂⟩ := apply_bind_eq_ok.mp h₁
  obtain ⟨continues₁, hnodes₁, hholds₁, hone⟩ := apply_constant_stores hholds₀ hrunOne
  obtain ⟨minusOne, d₂, hrunMinusOne, h₃⟩ := apply_bind_eq_ok.mp h₂
  obtain ⟨continues₂, hnodes₂, hholds₂, hminusOne⟩ := apply_constant_stores hholds₁ hrunMinusOne
  obtain ⟨_, d₃, hrunBlock, h₄⟩ := apply_bind_eq_ok.mp h₃
  obtain ⟨hconstants₃, hnodes₃, hbindings₃, hopen₃, hformed₃, block, hlist₃, hblock⟩ :=
    apply_declareAll hrunBlock
  obtain ⟨_, d₄, hrunMods, h₅⟩ := apply_bind_eq_ok.mp h₄
  obtain ⟨hconstants₄, hnodes₄, hbindings₄, hopen₄, hformed₄, mods, hlist₄, hmods⟩ :=
    apply_declareAll hrunMods
  obtain ⟨rfl, rfl⟩ := apply_pure_eq_ok.mp h₅
  have hconstants : d₄.constants = d₂.constants := hconstants₄.trans hconstants₃
  have until₂ := continues₀.trans (continues₁.trans continues₂)
  have hparameters : d₂.parameters = .empty := until₂.parameters_eq
  have hkept : d₂.constants.values <+: d₄.constants.values :=
    ⟨[], by rw [List.append_nil, hconstants]⟩
  simp only [List.nil_append, List.cons_append] at hholds₂ hzero hone hminusOne
  rw [hstored₀] at hzero
  rw [hstored₁] at hone
  rw [hstored₂] at hminusOne
  have hempty : d₂.parameters.toList = [] := by rw [hparameters]; rfl
  have hlist : d₄.parameters.toList = block ++ mods := by
    rw [hlist₄, hlist₃, hempty, List.nil_append]
  refine ⟨?_, ?_, ?_, ?_, ?_, ?_, ⟨block, mods, hlist, hblock, hmods⟩, ?_, ?_, ?_⟩
  · rw [hconstants]
    exact hholds₂
  · exact hzero.mono ((continues₁.trans continues₂).constants.trans hkept)
  · exact hone.mono (continues₂.constants.trans hkept)
  · exact hminusOne.mono hkept
  · rw [hparameters] at hformed₃
    exact hformed₄ (hformed₃ ParameterTable.wellFormed_empty)
  · rw [hlist, List.map_append, map_name_of_declares hblock, map_name_of_declares hmods,
      g.parameterNames_eq]
  · rw [hnodes₄, hnodes₃, hnodes₂, hnodes₁, hnodes₀]
  · rw [hbindings₄, hbindings₃, until₂.bindings_eq]
  · rw [hopen₄, hopen₃, hparameters]
    rfl

/-! ### Control nodes and wiring -/

/-- The bindings of a declared definition are in order, since there are none. -/
lemma GeneratorSpec.Declared.wellBound {c : UnitConstants} (hd : g.Declared d c) : d.WellBound :=
  ⟨hd.table, fun _ => hd.bindings, [], List.nil_prefix, hd.bindings ▸ .nil⟩

/-- Emitting the control nodes closes the table. -/
lemma parameters_of_apply_controls {indices : List Nat} (hopen : d.parameters.isSealed = false)
    (h : controls.apply d = (.ok indices, d')) : d'.parameters = d.parameters.close := by
  rw [apply_controls_of_not_isSealed hopen] at h
  obtain rfl := apply_controlNodes_eq_ok h
  exact Definition.parameters_exposeAll _ d

/-- Exposing the declared parameters wires the definition, and its control nodes are the first
ones. -/
lemma apply_controls_declared {c : UnitConstants} {indices : List Nat} (hd : g.Declared d c)
    (h : controls.apply d = (.ok indices, d')) :
    g.Wired [.ofInt 0, .ofInt 1, .ofInt (-1)] d' ∧ d'.constants = d.constants ∧
      ∀ i, d'.isControl i = true ↔ 0 ≤ i ∧ i < (runs d'.parameters.toList).length := by
  have hbound := hd.wellBound
  rw [apply_controls_of_not_isSealed hd.isOpen] at h
  obtain rfl := apply_controlNodes_eq_ok h
  obtain ⟨-, hconstants, hparameters, -⟩ := Definition.foldl_expose_frame
    (runs d.parameters.toList) { d with parameters := d.parameters.close }
  have hbinds := hbound.binds_exposeAll_runs hd.isOpen
  refine ⟨⟨?_, ?_, ?_, ?_⟩, hconstants, fun i => ?_⟩
  · rw [hconstants]
    exact hd.holds
  · rw [hparameters]
    exact hd.table.close
  · rw [hparameters]
    exact hd.names
  · rw [hparameters]
    exact hbinds
  · have hruns := areRuns_runs d.parameters.toList
    have hnone : ({ d with parameters := d.parameters.close } : Definition).isControl i =
        false := by
      rw [Definition.isControl, List.any_eq_false]
      simp [hd.bindings]
    have hempty : d.nodes.size = 0 := by rw [hd.nodes]; rfl
    rw [Definition.isControl_foldl_expose hruns.ne_nil, hnone, hparameters, hempty]
    simp

/-- An optional reference keeps its signal when the definition goes on. -/
lemma Definition.Continues.map_signal? {α : Type} {r : Option Reference} {o : Option α}
    {t : α → Signal} (h : d.Continues d') (hr : r.map d.signal? = o.map fun a => some (t a)) :
    r.map d'.signal? = o.map fun a => some (t a) := by
  cases o with
  | none =>
    rw [Option.map_none, Option.map_eq_none_iff] at hr
    rw [hr]
    rfl
  | some a =>
    rw [Option.map_some, Option.map_eq_some_iff] at hr
    obtain ⟨found, rfl, hfound⟩ := hr
    rw [Option.map_some, h.signal? hfound]
    rfl

/-- A unit generator can be scaled by the amplitude and written out. -/
lemma GeneratorSpec.Wired.exists_scaledOutput {literals : List Binary64} {c : UnitConstants}
    {source : Reference} {amp : Option Reference} (hd : g.Wired literals d)
    (hsource : d.signal? source = some g.source)
    (hamp : amp.map d.signal? =
      (g.params.filter (·.role == .amp)).getLast?.map fun p => some (g.value p))
    (hzero : d.signal? c.zero = some (.number 0)) (hone : d.signal? c.one = some (.number 1))
    (hminusOne : d.signal? c.minusOne = some (.number (-1))) :
    ∃ index d', (do
        let signal ← match amp with
          | none => pure source
          | some amp => Edit.binary .mul Rate.audio.code source amp
        Template.outputStage signal c).apply d = (.ok index, d') ∧
      g.Stage literals d d' ∧ ∃ inputs,
        d'.nodes.back? = some ⟨"Out", .audio, inputs, [], 0⟩ ∧ d'.Signals inputs g.written := by
  cases hlast : (g.params.filter (·.role == .amp)).getLast? with
  | none =>
    have hscaled : g.scaled = g.source := by
      rw [GeneratorSpec.scaled, GeneratorSpec.amplitudes, hlast]
    rw [hlast, Option.map_none, Option.map_eq_none_iff] at hamp
    subst hamp
    exact hd.exists_outputStage (hscaled ▸ hsource) hzero hone hminusOne
  | some p =>
    have hscaled : g.scaled = .binary .mul .audio g.source (g.value p) := by
      rw [GeneratorSpec.scaled, GeneratorSpec.amplitudes, hlast]
    rw [hlast, Option.map_some, Option.map_eq_some_iff] at hamp
    obtain ⟨amplitude, rfl, hamplitude⟩ := hamp
    obtain ⟨signal, d₁, hrunSignal, stage₁, hsignal⟩ :=
      hd.exists_binary .mul .audio hsource hamplitude
    obtain ⟨index, d₂, hrunOutput, stage₂, hwritten⟩ := stage₁.wired.exists_outputStage
      (hscaled ▸ hsignal) (stage₁.continues.signal? hzero) (stage₁.continues.signal? hone)
      (stage₁.continues.signal? hminusOne)
    exact ⟨index, d₂, (apply_bind_of_eq_ok hrunSignal).trans hrunOutput, stage₁.trans stage₂,
      hwritten⟩

/-- The wiring writes out the signals of the generator. -/
lemma GeneratorSpec.Wired.apply_wiring {c : UnitConstants} {index : Nat}
    (hd : g.Wired [.ofInt 0, .ofInt 1, .ofInt (-1)] d) (hzero : d.signal? c.zero = some (.number 0))
    (hone : d.signal? c.one = some (.number 1))
    (hminusOne : d.signal? c.minusOne = some (.number (-1)))
    (h : (Template.wiring g c).apply d = (.ok index, d')) :
    g.Stage g.literals d d' ∧ ∃ inputs,
      d'.nodes.back? = some ⟨"Out", .audio, inputs, [], 0⟩ ∧ d'.Signals inputs g.written := by
  obtain ⟨⟨core, amp⟩, d₁, hrunContributions, h₁⟩ := apply_bind_eq_ok.mp h
  obtain ⟨stage₁, hcore, hamp⟩ := hd.apply_contributions List.prefix_rfl hrunContributions
  obtain ⟨source, d₂, hrunSource, h₂⟩ := apply_bind_eq_ok.mp h₁
  obtain ⟨stage₂, hsource⟩ := stage₁.wired.apply_unit hcore hrunSource
  have stages := stage₁.trans stage₂
  obtain ⟨_, _, hrun, stage₃, hwritten⟩ := stages.wired.exists_scaledOutput hsource
    (stage₂.continues.map_signal? hamp) (stages.continues.signal? hzero)
    (stages.continues.signal? hone) (stages.continues.signal? hminusOne)
  obtain ⟨-, rfl⟩ := Prod.mk.inj (h₂.symm.trans hrun)
  exact ⟨stages.trans stage₃, hwritten⟩

/-- A generator is built when its graph is appended to a new definition. -/
lemma GeneratorSpec.build_eq_ok_iff_graph :
    g.build = .ok d ↔ ∃ d₀ index, Definition.new g.name = .ok d₀ ∧
      (Template.graph g).apply d₀ = (.ok index, d) := by
  constructor
  · intro h
    obtain ⟨d₀, hnew, hrun⟩ := bind_eq_ok.mp h
    split at hrun
    case h_2 => cases hrun
    case h_1 index d' hgraph =>
      obtain rfl := Except.ok.inj hrun
      exact ⟨d₀, index, hnew, hgraph⟩
  · rintro ⟨d₀, index, hnew, hgraph⟩
    refine bind_eq_ok.mpr ⟨d₀, hnew, ?_⟩
    rw [hgraph]
    rfl

/-- A generator is built from a new definition in three stages. -/
lemma GeneratorSpec.build_eq_ok_iff :
    g.build = .ok d ↔ ∃ d₀ c d₁ indices d₂ index, Definition.new g.name = .ok d₀ ∧
      (Template.declarations g).apply d₀ = (.ok c, d₁) ∧ controls.apply d₁ = (.ok indices, d₂) ∧
      (Template.wiring g c).apply d₂ = (.ok index, d) := by
  rw [build_eq_ok_iff_graph]
  constructor
  · rintro ⟨d₀, index, hnew, hgraph⟩
    obtain ⟨c, d₁, hdeclarations, h₁⟩ := apply_bind_eq_ok.mp hgraph
    obtain ⟨indices, d₂, hcontrols, hwiring⟩ := apply_bind_eq_ok.mp h₁
    exact ⟨d₀, c, d₁, indices, d₂, index, hnew, hdeclarations, hcontrols, hwiring⟩
  · rintro ⟨d₀, c, d₁, indices, d₂, index, hnew, hdeclarations, hcontrols, hwiring⟩
    refine ⟨d₀, index, hnew, ?_⟩
    rw [Template.graph, apply_bind_of_eq_ok hdeclarations, apply_bind_of_eq_ok hcontrols, hwiring]

/-- When a generator is built, its definition has the parameters of the generator at their places,
its first nodes are the control nodes, one for each run of parameters, and the last node is an
output without outputs of its own that writes the signals of the generator. -/
theorem GeneratorSpec.signals_of_build (h : g.build = .ok d) :
    d.parameters.toList.map Parameter.name = g.parameterNames ∧
      d.parameters.toList.map Parameter.index = List.range g.parameterNames.length ∧
      (∀ i, d.isControl i = true ↔ 0 ≤ i ∧ i < (runs d.parameters.toList).length) ∧
      ∃ out, d.nodes.back? = some out ∧ out.className = "Out" ∧ out.rate = .audio ∧
        out.outputs = [] ∧ out.inputs.map d.signal? = g.written.map some := by
  obtain ⟨d₀, c, d₁, indices, d₂, index, hnew, hdeclarations, hcontrols, hwiring⟩ :=
    GeneratorSpec.build_eq_ok_iff.mp h
  have hdeclared := apply_declarations hnew hdeclarations
  obtain ⟨hwired, hconstants, hcontrol⟩ := apply_controls_declared hdeclared hcontrols
  have hkept : d₁.constants.values <+: d₂.constants.values :=
    ⟨[], by rw [List.append_nil, hconstants]⟩
  obtain ⟨stage, inputs, hlast, hsignals⟩ := hwired.apply_wiring
    (hdeclared.zero.mono hkept).signal? (hdeclared.one.mono hkept).signal?
    (hdeclared.minusOne.mono hkept).signal? hwiring
  refine ⟨stage.wired.names, ?_, fun i => ?_, _, hlast, rfl, rfl, rfl, ?_⟩
  · rw [stage.wired.table.index, ← stage.wired.names, List.length_map,
      ParameterTable.length_toList]
  · rw [Definition.isControl, stage.continues.bindings_eq, stage.continues.parameters_eq]
    exact hcontrol i
  · rw [← List.forall₂_eq_eq_eq, List.forall₂_map_left_iff, List.forall₂_map_right_iff]
    exact hsignals

/-- A generator with a modulated frequency within limits, an input that is read as it is, and a
modulated amplitude. -/
def modulatedSaw : GeneratorSpec :=
  ⟨"saw", "LFSaw",
    [⟨"freq", .ofInt 440, .core, some "freq_mod", some (.range (.ofInt 20) (.ofInt 20000))⟩,
      ⟨"iphase", .ofInt 0, .core, none, none⟩,
      ⟨"amp", .ofInt 1, .amp, some "amp_mod", none⟩]⟩

/-- The generator is built. -/
lemma exists_build_modulatedSaw : ∃ d, modulatedSaw.build = .ok d :=
  exists_eq_ok_of_isOk (by decide +kernel)

/-- The generator is built and writes out its signals, in which the amplitude is never negative. -/
theorem signals_of_build_modulatedSaw :
    (∃ d, modulatedSaw.build = .ok d ∧ ∃ out, d.nodes.back? = some out ∧
      out.className = "Out" ∧ out.inputs.map d.signal? = modulatedSaw.written.map some) ∧
    modulatedSaw.scaled =
      .binary .mul .audio
        (.output "LFSaw" .audio 0 0
          [.output "Clip" .audio 0 0
            [.binary .add .audio (.parameter 0) (.parameter 5), .number 20, .number 20000],
            .parameter 1])
        (.binary .max .audio (.binary .add .audio (.parameter 2) (.parameter 6)) (.number 0)) ∧
    modulatedSaw.panned 1 =
      .output "Pan2" .audio 0 1 [modulatedSaw.scaled, .parameter 3, .number 1] ∧
    modulatedSaw.selected 1 =
      .output "Select" .audio 0 0
        [.binary .lte .control (.parameter 4) (.number 0), modulatedSaw.panned 1,
          .output "Clip" .audio 0 0 [modulatedSaw.panned 1, .number (-1), .number 1]] := by
  refine ⟨?_, by decide +kernel, by decide +kernel, by decide +kernel⟩
  obtain ⟨d, hbuild⟩ := exists_build_modulatedSaw
  obtain ⟨-, -, -, out, hlast, hclass, -, -, hinputs⟩ := GeneratorSpec.signals_of_build hbuild
  exact ⟨d, hbuild, out, hlast, hclass, hinputs⟩

end SynthGraph
