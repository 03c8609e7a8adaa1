import SynthGraph.Proofs.File.Layout
import SynthGraph.Proofs.Generator.Parameters
import SynthGraph.Proofs.Graph.Parallel

/-!
# Names and defaults stay out of the graph

Two generators that differ in their names and in the defaults of their parameters only are built
into the same graph: the two builds run in parallel, and no step of them looks at the name of the
definition or at a default.  In the files of both, the name and the changed defaults are all that
differs.
-/

namespace SynthGraph

-- Powers are those of the core library, also where a larger library brings its own.
attribute [local instance (2000)] instPowNat

variable {g g' : GeneratorSpec} {d d' : Definition} {ps ps' : List ParamSpec}

/-- The parameters are the same but for their defaults. -/
def SameButDefaults (ps ps' : List ParamSpec) : Prop :=
  List.Forall₂ (fun p p' => ∃ v, p' = { p with default := v }) ps ps'

/-- The second generator is the first one under another name and with other defaults. -/
structure GeneratorSpec.Relabels (g g' : GeneratorSpec) : Prop where
  ugen : g'.ugen = g.ugen
  params : SameButDefaults g.params g'.params

/-! ### Two builds in parallel -/

namespace Template

open Edit

/-- A parameter is looked up by its name. -/
lemma parallel_parameter (name : String) : (parameter name).Parallel (parameter name) :=
  .ask fun _ _ _ _ hd h h' => hd.parameterReference h h'

/-- A signal within limits. -/
lemma parallel_clamped (signal : Reference) (clamp : Clamp) (rate : Rate) :
    (clamped signal clamp rate).Parallel (clamped signal clamp rate) := by
  cases clamp with
  | range low high =>
    exact (parallel_constant low).bind fun _ => (parallel_constant high).bind fun _ =>
      parallel_unit _ _ _ _
  | floor low => exact (parallel_constant low).bind fun _ => parallel_binary _ _ _ _

/-- A contribution does not look at the default. -/
lemma parallel_contribution (p : ParamSpec) : (contribution p).Parallel (contribution p) := by
  have hmodulated : (modulated p).Parallel (modulated p) := by
    refine (parallel_parameter p.name).bind fun base => ?_
    cases p.modName with
    | none => exact .pure _
    | some modName =>
      exact (parallel_parameter modName).bind fun _ => (parallel_binary _ _ _ _).bind fun _ =>
        .pure _
  refine hmodulated.bind fun ⟨signal, rate⟩ => ?_
  cases p.effectiveClamp with
  | none => exact .pure signal
  | some clamp => exact parallel_clamped signal clamp rate

/-- The contributions of parameters, one after another. -/
lemma parallel_contributions (h : SameButDefaults ps ps') :
    (contributions ps).Parallel (contributions ps') := by
  induction h with
  | nil => exact .pure _
  | @cons p p' ps ps' hp _ ih =>
    obtain ⟨v, rfl⟩ := hp
    exact (parallel_contribution p).bind fun _ => ih.bind fun _ => .pure _

/-- A node at audio rate. -/
lemma parallel_audioNode (className : String) (inputs : List Reference) (outputs : Int) :
    (audioNode className inputs outputs).Parallel (audioNode className inputs outputs) :=
  parallel_node _ _ _ _ _

/-- The output stage. -/
lemma parallel_outputStage (signal : Reference) (c : UnitConstants) :
    (outputStage signal c).Parallel (outputStage signal c) := by
  refine (parallel_parameter _).bind fun pan => (parallel_parameter _).bind fun outBus => ?_
  refine (parallel_audioNode _ _ _).bind fun panned => ?_
  refine (parallel_reference _ _).bind fun left => (parallel_reference _ _).bind fun right => ?_
  refine (parallel_audioNode _ _ _).bind fun clippedLeft => ?_
  refine (parallel_audioNode _ _ _).bind fun clippedRight => ?_
  refine (parallel_binary _ _ _ _).bind fun toHardware => ?_
  refine (parallel_reference _ _).bind fun _ => (parallel_audioNode _ _ _).bind fun _ => ?_
  refine (parallel_reference _ _).bind fun _ => (parallel_audioNode _ _ _).bind fun _ => ?_
  refine (parallel_reference _ _).bind fun _ => (parallel_reference _ _).bind fun _ => ?_
  exact parallel_audioNode _ _ _

/-- The wiring of two generators that differ in names and defaults. -/
lemma parallel_wiring (h : g.Relabels g') (c : UnitConstants) :
    (wiring g c).Parallel (wiring g' c) := by
  unfold wiring
  rw [h.ugen]
  refine (parallel_contributions h.params).bind fun ⟨core, amp⟩ => ?_
  refine (parallel_unit _ _ _ _).bind fun source => ?_
  cases amp with
  | none => exact parallel_outputStage source c
  | some amp => exact (parallel_binary _ _ _ _).bind fun signal => parallel_outputStage signal c

/-- Parameters of the same names are declared alike, whatever their defaults are. -/
lemma parallel_declareAll (rate : ParameterRate) {declared declared' : List (String × Binary64)}
    (h : List.Forall₂ (fun e e' => e'.1 = e.1) declared declared') :
    (declareAll rate declared).Parallel (declareAll rate declared') := by
  induction h with
  | nil => exact .pure ()
  | @cons e e' declared declared' hname _ ih =>
    obtain ⟨name, v⟩ := e
    obtain ⟨name', v'⟩ := e'
    obtain rfl : name' = name := hname
    exact (parallel_declare name' v v' rate.name).bind fun _ => ih

/-- The parameters that change once per block have the same names. -/
lemma forall₂_blockDeclarations (h : g.Relabels g') :
    List.Forall₂ (fun e e' => e'.1 = e.1) (blockDeclarations g) (blockDeclarations g') := by
  refine List.rel_append ?_ (.cons rfl (.cons rfl .nil))
  rw [List.forall₂_map_left_iff, List.forall₂_map_right_iff]
  refine h.params.imp fun p p' hp => ?_
  obtain ⟨v, rfl⟩ := hp
  rfl

/-- The modulation inputs are the same, and all of them start at zero. -/
lemma modDeclarations_eq (h : g.Relabels g') : modDeclarations g' = modDeclarations g := by
  have hnames : g.params.map ParamSpec.modName = g'.params.map ParamSpec.modName := by
    refine map_eq_map_of_forall₂ h.params fun p p' hp => ?_
    obtain ⟨v, rfl⟩ := hp
    rfl
  have hfilter (ps : List ParamSpec) :
      ps.filterMap ParamSpec.modName = (ps.map ParamSpec.modName).filterMap id := by
    rw [List.filterMap_map, Function.id_comp]
  rw [modDeclarations, modDeclarations, hfilter, hfilter, hnames]

/-- The declarations of two generators that differ in names and defaults. -/
lemma parallel_declarations (h : g.Relabels g') :
    (declarations g).Parallel (declarations g') := by
  -- Only the block declarations carry the defaults of the generator.
  have hblock := parallel_declareAll .control (forall₂_blockDeclarations h)
  have hmods := parallel_declareAll .audio
    (List.forall₂_same.mpr fun e (_ : e ∈ modDeclarations g) => rfl)
  unfold declarations
  rw [modDeclarations_eq h]
  refine (parallel_constant _).bind fun _ => (parallel_constant _).bind fun _ => ?_
  refine (parallel_constant _).bind fun _ => hblock.bind fun _ => ?_
  exact hmods.bind fun _ => .pure _

/-- The graphs of two generators that differ in names and defaults. -/
lemma parallel_graph (h : g.Relabels g') : (graph g).Parallel (graph g') :=
  (parallel_declarations h).bind fun c => parallel_controls.bind fun _ => parallel_wiring h c

end Template

/-! ### The documents of both -/

/-- Generators that differ in names and defaults are built into the same graph. -/
lemma GeneratorSpec.Relabels.sameGraph (hsame : g.Relabels g') (h : g.build = .ok d)
    (h' : g'.build = .ok d') : d.SameGraph d' := by
  obtain ⟨d₀, index, hnew, hgraph⟩ := build_eq_ok_iff_graph.mp h
  obtain ⟨d₀', index', hnew', hgraph'⟩ := build_eq_ok_iff_graph.mp h'
  obtain ⟨-, rfl⟩ := Definition.new_eq_ok_iff.mp hnew
  obtain ⟨-, rfl⟩ := Definition.new_eq_ok_iff.mp hnew'
  have hempty : Definition.SameGraph ⟨g.name, .empty, .empty, #[], []⟩
      ⟨g'.name, .empty, .empty, #[], []⟩ := ⟨rfl, .nil, rfl, rfl, rfl⟩
  exact (Template.parallel_graph hsame hempty hgraph hgraph').2

/-- Two definitions that differ in the labels of their generators only, and their files. -/
structure GeneratorSpec.SameDocument (g g' : GeneratorSpec) (d d' : Definition) : Prop where
  /-- Both have the same literals and nodes, and parameters of the same names, rates and indices. -/
  graph : d.SameGraph d'
  /-- The index of a parameter is its position, in the table of defaults as well. -/
  index : d.parameters.toList.map Parameter.index = List.range d.parameters.size
  /-- One can be written whenever the other can. -/
  encodes : (∃ bytes, DefinitionFile.encode [d] = .ok bytes) ↔
    ∃ bytes, DefinitionFile.encode [d'] = .ok bytes
  /-- Both can as long as counts of thirty-two bits are enough. -/
  encoded : g.parameterNames.length < 2 ^ (28 : Nat) →
    ∃ bytes, DefinitionFile.encode [d] = .ok bytes
  /-- The files differ in the names and in the defaults of the generators. -/
  files : ∀ bytes bytes', DefinitionFile.encode [d] = .ok bytes →
    DefinitionFile.encode [d'] = .ok bytes' →
    DefinitionFile.Relabelled d.constants.size g.name g'.name g.parameterDefaults
      g'.parameterDefaults bytes bytes'

/-- Names and defaults do not get into the graph.  Two generators that differ in them only and are
both built have the same literals, the same nodes, and parameters of the same names, rates and
indices.  Their files are the same around the name and the table of defaults, in which each default
stands in single precision at the index of its parameter; with names of the same length, all bytes
but those of the name and of the defaults that differ are the same at the same offsets. -/
theorem GeneratorSpec.sameDocument_of_build (hsame : g.Relabels g') (h : g.build = .ok d)
    (h' : g'.build = .ok d') : g.SameDocument g' d d' := by
  have hgraph := hsame.sameGraph h h'
  have hshort := (reachable_of_build h).isShortName_name
  have hshort' := (reachable_of_build h').isShortName_name
  refine ⟨hgraph, (reachable_of_build h).wellBound.table.index,
    ⟨hgraph.exists_encode hshort', hgraph.symm.exists_encode hshort⟩,
    exists_encode_of_build h, fun bytes bytes' hbytes hbytes' => ?_⟩
  rw [← name_of_build h, ← name_of_build h', ← defaults_of_build h, ← defaults_of_build h']
  exact hgraph.relabelled hbytes hbytes'

/-- The saw with modulations under another name of the same length, an octave lower and silent. -/
def lowSaw : GeneratorSpec :=
  ⟨"low", "LFSaw",
    [⟨"freq", .ofInt 220, .core, some "freq_mod", some (.range (.ofInt 20) (.ofInt 20000))⟩,
      ⟨"iphase", .ofInt 0, .core, none, none⟩,
      ⟨"amp", .ofInt 0, .amp, some "amp_mod", none⟩]⟩

/-- The saw with modulations and the low one are built into the same graph, and their files differ
in the three letters of the name and in the defaults at the indices `0` and `2`. -/
theorem GeneratorSpec.sameDocument_of_build_lowSaw :
    modulatedSaw.Relabels lowSaw ∧ lowSaw.name.length = modulatedSaw.name.length ∧
      modulatedSaw.parameterDefaults = [440, 0, 1, 0, 0, 0, 0].map .ofInt ∧
      lowSaw.parameterDefaults = [220, 0, 0, 0, 0, 0, 0].map .ofInt ∧
      ∃ d d' bytes bytes', modulatedSaw.build = .ok d ∧ lowSaw.build = .ok d' ∧
        modulatedSaw.SameDocument lowSaw d d' ∧
        DefinitionFile.encode [d] = .ok bytes ∧ DefinitionFile.encode [d'] = .ok bytes' ∧
        bytes'.length = bytes.length := by
  have hsame : modulatedSaw.Relabels lowSaw :=
    ⟨rfl, .cons ⟨_, rfl⟩ (.cons ⟨_, rfl⟩ (.cons ⟨_, rfl⟩ .nil))⟩
  obtain ⟨d, hd⟩ := exists_build_modulatedSaw
  obtain ⟨d', hd'⟩ := exists_eq_ok_of_isOk (show lowSaw.build.isOk = true by decide +kernel)
  have hdocument := sameDocument_of_build hsame hd hd'
  obtain ⟨bytes, hbytes⟩ := hdocument.encoded (by decide)
  obtain ⟨bytes', hbytes'⟩ := hdocument.encodes.mp ⟨bytes, hbytes⟩
  have hname : lowSaw.name.length = modulatedSaw.name.length := by decide +kernel
  have hlength := ((hdocument.files bytes bytes' hbytes hbytes').offsets hname).1
  exact ⟨hsame, hname, by decide +kernel, by decide +kernel, d, d', bytes, bytes', hd, hd',
    hdocument, hbytes, hbytes', hlength⟩

end SynthGraph
