import SynthGraph.Proofs.Generator.Build
import SynthGraph.Proofs.Generator.Limits
import SynthGraph.Proofs.Graph.Addressing

/-!
# Which generators can be built

A generator is built exactly when its names are ASCII texts, the names of its parameters are
distinct, and none of its numbers overflows; otherwise it is refused for one of these reasons.  The
condition is collected along the stages of a build: a stage that reads references finds them, so
that nothing but names and numbers can stand in its way.
-/

namespace SynthGraph

-- Powers are those of the core library, also where a larger library brings its own.
attribute [local instance (2000)] instPowNat

open Edit

variable {g : GeneratorSpec} {literals : List Binary64} {d d' : Definition}

/-! ### Declarations -/

/-- Declaring parameters succeeds exactly when all names are short, no name is declared twice, and
no default overflows. -/
lemma succeedsIff_declareAll (rate : ParameterRate) (declared : List (String × Binary64))
    (hopen : d.parameters.isSealed = false) (hlate : d.parameters.tooLate? rate = none)
    (hnodup : (d.parameters.toList.map Parameter.name).Nodup) :
    (Template.declareAll rate declared).SucceedsIff d
      ((∀ p ∈ declared, IsShortName p.1) ∧
        (d.parameters.toList.map Parameter.name ++ declared.map Prod.fst).Nodup ∧
        ∀ p ∈ declared, ¬p.2.Overflows) := by
  induction declared generalizing d with
  | nil => exact (SucceedsIff.pure () d).congr (by simpa using hnodup)
  | cons entry declared ih =>
    obtain ⟨name, default⟩ := entry
    have hrest : ∀ index d',
        IsShortName name ∧ name ∉ d.parameters.toList.map Parameter.name ∧ ¬default.Overflows →
        (declare name default rate.name).apply d = (.ok index, d') →
        (Template.declareAll rate declared).SucceedsIff d' ((∀ p ∈ declared, IsShortName p.1) ∧
          (d.parameters.toList.map Parameter.name ++ name :: declared.map Prod.fst).Nodup ∧
          ∀ p ∈ declared, ¬p.2.Overflows) := by
      intro index d' hC hrun
      obtain ⟨table, hdeclare, rfl⟩ := apply_declare_eq_ok.mp hrun
      obtain ⟨-, r, x, hrate, -, -, -, -, -, rfl⟩ := ParameterTable.declare_eq_ok_iff.mp hdeclare
      rw [ParameterRate.ofName?_name] at hrate
      obtain rfl := Option.some.inj hrate
      have hnames : (d.parameters.push name x rate).toList.map Parameter.name =
          d.parameters.toList.map Parameter.name ++ [name] := by simp
      have hlater := ih (d := { d with parameters := d.parameters.push name x rate }) hopen
        (by rw [ParameterTable.tooLate?_push, hlate])
        (by
          rw [hnames, List.nodup_append_comm]
          exact List.nodup_cons.mpr ⟨hC.2.1, hnodup⟩)
      rw [hnames, List.append_assoc, List.singleton_append] at hlater
      exact hlater
    refine ((succeedsIff_declare hopen hlate name default).bind hrest).congr ?_
    simp only [List.forall_mem_cons, List.map_cons]
    constructor
    · rintro ⟨⟨hname, -, hdefault⟩, hnames, hdistinct, hdefaults⟩
      exact ⟨⟨hname, hnames⟩, hdistinct, hdefault, hdefaults⟩
    · rintro ⟨⟨hname, hnames⟩, hdistinct, hdefault, hdefaults⟩
      have hfresh : name ∉ d.parameters.toList.map Parameter.name := fun hold =>
        (List.nodup_append.mp hdistinct).2.2 name hold name List.mem_cons_self rfl
      exact ⟨⟨hname, hfresh, hdefault⟩, hnames, hdistinct, hdefaults⟩

/-- After the block-rate parameters the modulation inputs are declared exactly when their names are
short and no name of the generator stands twice. -/
lemma succeedsIff_modDeclarations {u : Unit} (hempty : d.parameters = .empty)
    (hrun : (Template.declareAll .control (Template.blockDeclarations g)).apply d = (.ok u, d')) :
    (Template.declareAll .audio (Template.modDeclarations g)).SucceedsIff d'
      ((∀ p ∈ Template.modDeclarations g, IsShortName p.1) ∧ g.parameterNames.Nodup ∧
        ∀ p ∈ Template.modDeclarations g, ¬p.2.Overflows) := by
  obtain ⟨-, -, -, hopen, hformed, block, hlist, hblock⟩ := apply_declareAll hrun
  rw [hempty] at hopen hformed hlist
  have hnames : d'.parameters.toList.map Parameter.name =
      (Template.blockDeclarations g).map Prod.fst := by
    rw [hlist, List.map_append, map_name_of_declares hblock]
    rfl
  have hdeclared := succeedsIff_declareAll .audio (Template.modDeclarations g) hopen rfl
    (hformed ParameterTable.wellFormed_empty).nodup
  rwa [hnames, ← g.parameterNames_eq] at hdeclared

/-- A literal that does not overflow is added to any pool. -/
lemma exists_constant {v : Binary64} (hv : ¬v.Overflows) (d : Definition) :
    ∃ r pool, (constant v).apply d = (.ok r, { d with constants := pool }) := by
  obtain ⟨slot, pool, hintern⟩ := d.constants.exists_intern_eq_ok hv
  exact ⟨.constant slot, pool, apply_constant_eq_ok.mpr ⟨slot, pool, hintern, rfl, rfl⟩⟩

/-- The three literals of every generator do not overflow. -/
lemma not_overflows_units :
    ∀ v ∈ ([.ofInt 0, .ofInt 1, .ofInt (-1)] : List Binary64), ¬v.Overflows := by
  decide +kernel

/-- The default of a parameter that the generator adds does not overflow. -/
lemma not_overflows_zero : ¬(.zero false : Binary64).Overflows := by
  decide +kernel

/-- The defaults of the block-rate parameters are those of the spec and two zeros. -/
lemma defaults_fit_iff : (∀ p ∈ Template.blockDeclarations g, ¬p.2.Overflows) ↔
    ∀ p ∈ g.params, ¬p.default.Overflows := by
  simp [Template.blockDeclarations, or_imp, forall_and, not_overflows_zero]

/-- The defaults of the modulation inputs are zeros. -/
lemma modDefaults_fit (g : GeneratorSpec) : ∀ p ∈ Template.modDeclarations g, ¬p.2.Overflows := by
  intro p hp
  obtain ⟨name, -, rfl⟩ := List.mem_map.mp hp
  exact not_overflows_zero

/-- The declarations succeed exactly when the names of the parameters are short and distinct and no
default overflows. -/
lemma succeedsIff_declarations {name : String} (hnew : Definition.new name = .ok d) :
    (Template.declarations g).SucceedsIff d
      ((∀ n ∈ g.parameterNames, IsShortName n) ∧ g.parameterNames.Nodup ∧
        ∀ p ∈ g.params, ¬p.default.Overflows) := by
  obtain ⟨-, rfl⟩ := Definition.new_eq_ok_iff.mp hnew
  obtain ⟨zero, pool₀, hzero⟩ := exists_constant (not_overflows_units (.ofInt 0) (by simp))
    ⟨name, .empty, .empty, #[], []⟩
  obtain ⟨one, pool₁, hone⟩ := exists_constant (not_overflows_units (.ofInt 1) (by simp))
    ⟨name, pool₀, .empty, #[], []⟩
  obtain ⟨minusOne, pool₂, hminusOne⟩ :=
    exists_constant (not_overflows_units (.ofInt (-1)) (by simp)) ⟨name, pool₁, .empty, #[], []⟩
  have hblock := succeedsIff_declareAll (d := ⟨name, pool₂, .empty, #[], []⟩) .control
    (Template.blockDeclarations g) rfl rfl List.nodup_nil
  refine .bind_of_eq_ok hzero (.bind_of_eq_ok hone (.bind_of_eq_ok hminusOne ?_))
  refine (hblock.bind fun _ d' _ hrun =>
    (succeedsIff_modDeclarations rfl hrun).bind_total fun _ d'' _ => .pure _ d'').congr ?_
  have hnames : (∀ n ∈ g.parameterNames, IsShortName n) ↔
      (∀ p ∈ Template.blockDeclarations g, IsShortName p.1) ∧
        ∀ p ∈ Template.modDeclarations g, IsShortName p.1 := by
    rw [g.parameterNames_eq, List.forall_mem_append, List.forall_mem_map, List.forall_mem_map]
  have hdistinct : g.parameterNames.Nodup → ((Template.blockDeclarations g).map Prod.fst).Nodup :=
    fun h => (g.parameterNames_eq ▸ h).of_append_left
  rw [hnames, ← defaults_fit_iff]
  constructor
  · rintro ⟨⟨hshort, -, hfits⟩, hshort', hnodup, -⟩
    exact ⟨⟨hshort, hshort'⟩, hnodup, hfits⟩
  · rintro ⟨⟨hshort, hshort'⟩, hnodup, hfits⟩
    exact ⟨⟨hshort, hdistinct hnodup, hfits⟩, hshort', hnodup, modDefaults_fit g⟩

/-! ### Control nodes and wiring -/

/-- The control nodes of a generator with at most `32767` parameters can be emitted. -/
lemma succeedsIff_controls {c : UnitConstants} (hd : g.Declared d c)
    (hcount : g.parameterNames.length ≤ 32767) : controls.SucceedsIff d True := by
  have hsize : d.parameters.size = g.parameterNames.length := by
    rw [← hd.names, List.length_map, ParameterTable.length_toList]
  exact .of_eq_ok (hd.wellBound.apply_controls hd.isOpen (hsize ▸ hcount)) trivial

/-- A literal of a parameter overflows only when a bound of its clamp does. -/
lemma ParamSpec.literals_fit_iff (p : ParamSpec) :
    (∀ b ∈ p.literals, ¬b.Overflows) ↔ ∀ c ∈ p.clamp, ∀ b ∈ c.bounds, ¬b.Overflows := by
  rw [ParamSpec.literals, ParamSpec.effectiveClamp]
  cases p.clamp with
  | some c => simp
  | none =>
    split
    case h_1 c hclamp => cases hclamp
    case h_2 => split <;> simp [Clamp.bounds, not_overflows_zero]

namespace GeneratorSpec

/-- A parameter can be referred to and modulated. -/
lemma Wired.succeedsIff_modulated (hd : g.Wired literals d) {p : ParamSpec} (hp : p ∈ g.params) :
    (Template.modulated p).SucceedsIff d True := by
  have hname : p.name ∈ g.parameterNames := by
    simp only [parameterNames, List.mem_append, List.mem_map]
    exact .inl (.inl ⟨p, hp, rfl⟩)
  obtain ⟨base, hbase, hbaseSignal⟩ := hd.exists_parameter p.name hname
  refine .bind_of_eq_ok (Template.apply_parameter_of_eq_ok hbase) ?_
  cases hmod : p.modName with
  | none => exact .pure _ d
  | some modName =>
    have hmodName : modName ∈ g.parameterNames := by
      simp only [parameterNames, List.mem_append, List.mem_filterMap]
      exact .inr ⟨p, hp, hmod⟩
    obtain ⟨modulation, hmodulation, hmodulationSignal⟩ := hd.exists_parameter modName hmodName
    obtain ⟨sum, d₁, hsum, -⟩ := hd.exists_binary .add .audio hbaseSignal hmodulationSignal
    exact .bind_of_eq_ok (Template.apply_parameter_of_eq_ok hmodulation)
      (.bind_of_eq_ok hsum (.pure _ d₁))

/-- The contribution of a parameter can be appended exactly when none of its literals overflows. -/
lemma Wired.succeedsIff_contribution (hd : g.Wired literals d) {p : ParamSpec} (hp : p ∈ g.params)
    (hfit : ∀ w ∈ literals, ¬w.Overflows) :
    (Template.contribution p).SucceedsIff d (∀ b ∈ p.literals, ¬b.Overflows) := by
  refine ((hd.succeedsIff_modulated hp).bind fun result d₁ _ hmodulated => ?_).congr
    (by rw [true_and])
  obtain ⟨stage, -, hsignal⟩ := hd.apply_modulated hmodulated
  obtain ⟨signal, rate⟩ := result
  rw [ParamSpec.literals]
  dsimp only at hsignal ⊢
  cases p.effectiveClamp with
  | none => exact (SucceedsIff.pure signal d₁).congr (by simp)
  | some clamp =>
    exact Definition.succeedsIff_clamped stage.wired.holds hfit
      (Definition.offers_of_signal? hsignal) clamp

/-- The contributions of parameters can be appended exactly when none of their literals
overflows. -/
lemma Wired.succeedsIff_contributions {ps : List ParamSpec} (hd : g.Wired literals d)
    (hps : ∀ p ∈ ps, p ∈ g.params) (hfit : ∀ w ∈ literals, ¬w.Overflows)
    (hnext : literals ++ ps.flatMap ParamSpec.literals <+: g.literals) :
    (Template.contributions ps).SucceedsIff d
      (∀ b ∈ ps.flatMap ParamSpec.literals, ¬b.Overflows) := by
  induction ps generalizing literals d with
  | nil => exact (SucceedsIff.pure _ d).congr (by simp)
  | cons p ps ih =>
    rw [List.forall_mem_cons] at hps
    rw [List.flatMap_cons, ← List.append_assoc] at hnext
    have hfirst := (List.prefix_append _ _).trans hnext
    have hrest : ∀ signal d₁, (∀ b ∈ p.literals, ¬b.Overflows) →
        (Template.contribution p).apply d = (.ok signal, d₁) →
        (Template.contributions ps).SucceedsIff d₁
          (∀ b ∈ ps.flatMap ParamSpec.literals, ¬b.Overflows) := by
      intro signal d₁ hfits hrun
      obtain ⟨stage, -⟩ := hd.apply_contribution hfirst hrun
      exact ih stage.wired hps.2 (List.forall_mem_append.mpr ⟨hfit, hfits⟩) hnext
    refine ((hd.succeedsIff_contribution hps.1 hfit).bind fun signal d₁ hfits hrun =>
      (hrest signal d₁ hfits hrun).bind_total fun _ d₂ _ => .pure _ d₂).congr ?_
    rw [List.flatMap_cons, List.forall_mem_append]

/-- The wiring succeeds exactly when no literal of a parameter overflows and the unit generator has
a short name. -/
lemma Wired.succeedsIff_wiring {c : UnitConstants}
    (hd : g.Wired [.ofInt 0, .ofInt 1, .ofInt (-1)] d) (hzero : d.signal? c.zero = some (.number 0))
    (hone : d.signal? c.one = some (.number 1))
    (hminusOne : d.signal? c.minusOne = some (.number (-1))) :
    (Template.wiring g c).SucceedsIff d
      ((∀ b ∈ g.params.flatMap ParamSpec.literals, ¬b.Overflows) ∧ IsShortName g.ugen) := by
  refine (hd.succeedsIff_contributions (fun p hp => hp) not_overflows_units List.prefix_rfl).bind
    fun ⟨core, amp⟩ d₁ _ hrun => ?_
  obtain ⟨stage₁, hcore, hamp⟩ := hd.apply_contributions List.prefix_rfl hrun
  refine (succeedsIff_unit hcore.offers (by decide)).bind_total fun source d₂ hsource => ?_
  obtain ⟨stage₂, hsource⟩ := stage₁.wired.apply_unit hcore hsource
  have stages := stage₁.trans stage₂
  obtain ⟨index, d₃, hrun, -⟩ := stages.wired.exists_scaledOutput hsource
    (stage₂.continues.map_signal? hamp) (stages.continues.signal? hzero)
    (stages.continues.signal? hone) (stages.continues.signal? hminusOne)
  exact .of_eq_ok hrun trivial

/-! ### The whole build -/

/-- The graph of a generator can be appended to a new definition exactly when the names of its
parameters are short and distinct, no number overflows, and the unit generator has a short name. -/
lemma succeedsIff_graph {name : String} (hnew : Definition.new name = .ok d)
    (hcount : g.parameterNames.length ≤ 32767) :
    (Template.graph g).SucceedsIff d
      (((∀ n ∈ g.parameterNames, IsShortName n) ∧ g.parameterNames.Nodup ∧
          ∀ p ∈ g.params, ¬p.default.Overflows) ∧
        (∀ b ∈ g.params.flatMap ParamSpec.literals, ¬b.Overflows) ∧ IsShortName g.ugen) := by
  refine (succeedsIff_declarations hnew).bind fun c d₁ _ hdeclarations => ?_
  have hdeclared := apply_declarations hnew hdeclarations
  refine ((succeedsIff_controls hdeclared hcount).bind fun indices d₂ _ hcontrols => ?_).congr
    (by rw [true_and])
  obtain ⟨hwired, hconstants, -⟩ := apply_controls_declared hdeclared hcontrols
  have hkept : d₁.constants.values <+: d₂.constants.values :=
    ⟨[], by rw [List.append_nil, hconstants]⟩
  exact hwired.succeedsIff_wiring (hdeclared.zero.mono hkept).signal?
    (hdeclared.one.mono hkept).signal? (hdeclared.minusOne.mono hkept).signal?

/-- What makes a generator buildable: all names are ASCII texts, the names of the parameters are
distinct, and no default and no bound of a clamp is a finite number that becomes infinite in single
precision. -/
structure Buildable (g : GeneratorSpec) : Prop where
  name : isAscii g.name = true
  ugen : isAscii g.ugen = true
  parameterNames : ∀ n ∈ g.parameterNames, isAscii n = true
  nodup : g.parameterNames.Nodup
  defaults : ∀ p ∈ g.params, ¬p.default.Overflows
  bounds : ∀ p ∈ g.params, ∀ c ∈ p.clamp, ∀ b ∈ c.bounds, ¬b.Overflows

instance (g : GeneratorSpec) : Decidable g.Buildable :=
  decidable_of_iff (isAscii g.name = true ∧ isAscii g.ugen = true ∧
      (∀ n ∈ g.parameterNames, isAscii n = true) ∧ g.parameterNames.Nodup ∧
      (∀ p ∈ g.params, ¬p.default.Overflows) ∧
      ∀ p ∈ g.params, ∀ c ∈ p.clamp, ∀ b ∈ c.bounds, ¬b.Overflows)
    ⟨fun ⟨hn, hu, hp, hd, hf, hb⟩ => ⟨hn, hu, hp, hd, hf, hb⟩,
      fun h => ⟨h.name, h.ugen, h.parameterNames, h.nodup, h.defaults, h.bounds⟩⟩

/-- An ASCII text that is a label is a short name. -/
lemma isShortName_iff_isAscii {s : String} (hs : IsLabel s) : IsShortName s ↔ isAscii s = true :=
  and_iff_left hs.2

/-- The names of the parameters of a valid generator are labels. -/
lemma Valid.isLabel_parameterNames (hvalid : g.Valid) : ∀ n ∈ g.parameterNames, IsLabel n := by
  simp only [GeneratorSpec.parameterNames, List.forall_mem_append, List.forall_mem_map,
    List.forall_mem_cons]
  refine ⟨⟨fun p hp => (hvalid.params p hp).name, ?_, ?_, List.forall_mem_nil _⟩, fun n hn => ?_⟩
  · exact ⟨by decide, by decide⟩
  · exact ⟨by decide, by decide⟩
  · obtain ⟨p, hp, hmod⟩ := List.mem_filterMap.mp hn
    exact (hvalid.params p hp).modName n hmod

/-- A build on a new definition is a run of the graph of the generator. -/
lemma build_of_new (hnew : Definition.new g.name = .ok d) :
    g.build = ((Template.graph g).apply d).1.map fun _ => ((Template.graph g).apply d).2 := by
  rw [build, hnew]
  rcases hrun : (Template.graph g).apply d with ⟨x | index, d'⟩ <;>
    simp only [bind, Except.bind, hrun] <;> rfl

/-- A valid generator is buildable exactly when every stage of its build finds what it needs. -/
lemma Valid.buildable_iff (hvalid : g.Valid) :
    g.Buildable ↔ IsShortName g.name ∧
      ((∀ n ∈ g.parameterNames, IsShortName n) ∧ g.parameterNames.Nodup ∧
        ∀ p ∈ g.params, ¬p.default.Overflows) ∧
      (∀ b ∈ g.params.flatMap ParamSpec.literals, ¬b.Overflows) ∧ IsShortName g.ugen := by
  have hnames : (∀ n ∈ g.parameterNames, IsShortName n) ↔
      ∀ n ∈ g.parameterNames, isAscii n = true :=
    forall₂_congr fun n hn => isShortName_iff_isAscii (hvalid.isLabel_parameterNames n hn)
  have hliterals : (∀ b ∈ g.params.flatMap ParamSpec.literals, ¬b.Overflows) ↔
      ∀ p ∈ g.params, ∀ c ∈ p.clamp, ∀ b ∈ c.bounds, ¬b.Overflows := by
    rw [List.forall_mem_flatMap]
    exact forall₂_congr fun p _ => p.literals_fit_iff
  rw [isShortName_iff_isAscii hvalid.name, isShortName_iff_isAscii hvalid.ugen, hnames, hliterals]
  constructor
  · intro h
    exact ⟨h.name, ⟨h.parameterNames, h.nodup, h.defaults⟩, h.bounds, h.ugen⟩
  · rintro ⟨hname, ⟨hparameters, hnodup, hdefaults⟩, hbounds, hugen⟩
    exact ⟨hname, hugen, hparameters, hnodup, hdefaults, hbounds⟩

/-- A valid generator with at most `32767` parameters is built exactly when it is buildable, and
otherwise it is refused for a name that is not ASCII, a name that stands twice or a number that
overflows. -/
theorem Valid.build_iff (hvalid : g.Valid) (hcount : g.parameterNames.length ≤ 32767) :
    ((∃ d, g.build = .ok d) ↔ g.Buildable) ∧
      ∀ e, g.build = .error e →
        e.kind = .nameLength ∨ e.kind = .duplicateParameter ∨ e.kind = .format := by
  rw [hvalid.buildable_iff]
  cases hnew : Definition.new g.name with
  | error x =>
    obtain ⟨hname, hrefused⟩ := Definition.new_eq_error hnew
    have hbuild : g.build = .error x := by
      rw [build, hnew]
      rfl
    rw [hbuild]
    refine ⟨⟨fun ⟨d, hd⟩ => (by cases hd), fun h => absurd h.1 hname⟩, ?_⟩
    rintro _ ⟨⟩
    exact hrefused
  | ok d₀ =>
    have hname := (Definition.new_eq_ok_iff.mp hnew).1
    rcases (succeedsIff_graph hnew hcount).cases with
      ⟨hC, index, d, hrun⟩ | ⟨hC, x, d, hrun, hrefused⟩
    · rw [build_of_new hnew, hrun]
      exact ⟨⟨fun _ => ⟨hname, hC⟩, fun _ => ⟨d, rfl⟩⟩, fun e he => by cases he⟩
    · rw [build_of_new hnew, hrun]
      refine ⟨⟨fun ⟨d, hd⟩ => (by cases hd), fun h => absurd h.2 hC⟩, ?_⟩
      rintro _ ⟨⟩
      exact hrefused

/-- A generator with an input whose upper limit is too great for single precision. -/
def unlimitedSaw : GeneratorSpec :=
  let limits := .range (.ofInt 0) (.ofInt (10 ^ (39 : Nat)))
  ⟨"saw", "LFSaw", [⟨"freq", .ofInt 440, .core, none, some limits⟩]⟩

/-- The saw with a modulated frequency is built, and the one without a limit in single precision is
refused for its format. -/
theorem Valid.build_iff_saws :
    (modulatedSaw.Valid ∧ modulatedSaw.Buildable ∧ ∃ d, modulatedSaw.build = .ok d) ∧
      unlimitedSaw.Valid ∧ ¬unlimitedSaw.Buildable ∧
        unlimitedSaw.build = .error (.notSingle (.ofInt (10 ^ (39 : Nat)))) := by
  have hvalid : modulatedSaw.Valid := by decide +kernel
  have hbuildable : modulatedSaw.Buildable := by decide +kernel
  have hvalid' : unlimitedSaw.Valid := by decide +kernel
  have hnot : ¬unlimitedSaw.Buildable := by decide +kernel
  have hbuilt := (build_iff hvalid (by decide)).1.mpr hbuildable
  refine ⟨⟨hvalid, hbuildable, hbuilt⟩, hvalid', hnot, ?_⟩
  decide +kernel

end GeneratorSpec

end SynthGraph
