import SynthGraph.Proofs.File.Legal
import SynthGraph.Proofs.Generator.Reachable

/-!
# How large a built generator is

The literals and the nodes of a built definition are bounded by the number of its parameters, and so
are the inputs and outputs of each node.  Bounds are put on edits, where they add up along a
sequence.  A generator with fewer than `2 ^ 28` parameters therefore has counts of thirty-two bits,
and a file.
-/

namespace SynthGraph

-- Powers are those of the core library, also where a larger library brings its own.
attribute [local instance (2000)] instPowNat

variable {α β : Type} {g : GeneratorSpec} {d d' : Definition} {k l m total : Nat}

/-- There are at most `total` literals and at most `total` nodes, each with at most `m` inputs and
at most `m` outputs. -/
structure Definition.Within (d : Definition) (total m : Nat) : Prop where
  constants : d.constants.size ≤ total
  nodes : d.nodes.size ≤ total
  arity : ∀ n ∈ d.nodes.toList, n.inputs.length ≤ m ∧ n.outputs.length ≤ m

/-- Greater bounds hold as well. -/
lemma Definition.Within.mono (h : d.Within total m) {more : Nat} (hmore : total ≤ more) :
    d.Within more m :=
  ⟨h.constants.trans hmore, h.nodes.trans hmore, h.arity⟩

/-- Interning adds at most one literal. -/
lemma ConstantPool.size_le_of_intern {pool pool' : ConstantPool} {v : Binary64} {slot : Nat}
    (h : pool.intern v = .ok (slot, pool')) : pool'.size ≤ pool.size + 1 := by
  obtain ⟨-, rfl⟩ | ⟨-, -, x, -, rfl⟩ := intern_eq_ok_iff.mp h
  · exact Nat.le_succ _
  · rw [← length_values, values_push, List.length_append, length_values]
    rfl

namespace Edit

/-- The edit adds at most `k` literals and at most `k` nodes, each with at most `m` inputs and at
most `m` outputs. -/
def AddsAtMost (e : Edit α) (k m : Nat) : Prop :=
  ∀ d total, d.Within total m → (e.apply d).2.Within (total + k) m

/-- Returning a value adds nothing. -/
lemma AddsAtMost.pure (a : α) : (pure a : Edit α).AddsAtMost 0 m := fun _ _ hd => hd

/-- Asking adds nothing. -/
lemma AddsAtMost.ask (q : Definition → Except Fault α) : (ask q).AddsAtMost 0 m := by
  intro d total hd
  rw [apply_ask]
  exact hd

/-- What adds little adds at most more. -/
lemma AddsAtMost.mono {e : Edit α} (he : e.AddsAtMost k m) (hkl : k ≤ l) : e.AddsAtMost l m :=
  fun d total hd => (he d total hd).mono (Nat.add_le_add_left hkl total)

/-- What the parts of a sequence add is put together, where the second part may use what is known of
the result of the first. -/
lemma AddsAtMost.bind_of {e : Edit α} {f : α → Edit β} {P : α → Prop} (he : e.AddsAtMost k m)
    (hresult : ∀ d a d', e.apply d = (.ok a, d') → P a) (hf : ∀ a, P a → (f a).AddsAtMost l m) :
    (e >>= f).AddsAtMost (l + k) m := by
  intro d total hd
  have hfirst := he d total hd
  rw [apply_bind]
  rcases hrun : e.apply d with ⟨x | a, d'⟩ <;> rw [hrun] at hfirst
  · exact hfirst.mono (by omega)
  · rw [Nat.add_comm l, ← Nat.add_assoc]
    exact hf a (hresult d a d' hrun) d' _ hfirst

/-- What the parts of a sequence add is put together. -/
lemma AddsAtMost.bind {e : Edit α} {f : α → Edit β} (he : e.AddsAtMost k m)
    (hf : ∀ a, (f a).AddsAtMost l m) : (e >>= f).AddsAtMost (l + k) m :=
  he.bind_of (P := fun _ => True) (fun _ _ _ _ => trivial) fun a _ => hf a

/-- A literal is one more at most. -/
lemma addsAtMost_constant (v : Binary64) : (constant v).AddsAtMost 1 m := by
  intro d total hd
  rw [apply_constant]
  cases hintern : d.constants.intern v with
  | error x => exact hd.mono (Nat.le_succ total)
  | ok result =>
    exact ⟨(ConstantPool.size_le_of_intern hintern).trans (Nat.succ_le_succ hd.constants),
      hd.nodes.trans (Nat.le_succ total), hd.arity⟩

/-- A parameter is neither a literal nor a node. -/
lemma addsAtMost_declare (name : String) (default : Binary64) (rate : String) :
    (declare name default rate).AddsAtMost 0 m := by
  intro d total hd
  rw [apply_declare]
  cases d.parameters.declare name default rate with
  | error x => exact hd
  | ok result => exact ⟨hd.constants, hd.nodes, hd.arity⟩

/-- A node is one more. -/
lemma addsAtMost_node {className : String} {rate : Int} {inputs : List Reference}
    {outputs special : Int} (hinputs : inputs.length ≤ m) (houtputs : outputs ≤ m) :
    (node className rate inputs outputs special).AddsAtMost 1 m := by
  intro d total hd
  rw [apply_node]
  cases hnode : d.newNode className rate inputs outputs special with
  | error x => exact hd.mono (Nat.le_succ total)
  | ok n =>
    obtain ⟨-, -, -, -, r, -, rfl⟩ := Definition.newNode_eq_ok_iff.mp hnode
    refine ⟨hd.constants.trans (Nat.le_succ total), ?_, ?_⟩
    · simpa [Definition.append] using hd.nodes
    · have hreplicate : outputs.toNat ≤ m := by omega
      simpa [Definition.append, or_imp, forall_and, hinputs, hreplicate] using hd.arity

/-- A unit is one more node. -/
lemma addsAtMost_unit {className : String} {rate : Int} {inputs : List Reference} {special : Int}
    (hinputs : inputs.length ≤ m) (hm : 1 ≤ m) :
    (unit className rate inputs special).AddsAtMost 1 m :=
  (addsAtMost_node hinputs (by omega)).bind fun _ => .ask _

/-- An arithmetic node is one more node. -/
lemma addsAtMost_binary {op : BinaryOperator} {rate : Int} {left right : Reference} (hm : 3 ≤ m) :
    (binary op rate left right).AddsAtMost 1 m :=
  addsAtMost_unit (by simp only [List.length_cons, List.length_nil]; omega) (by omega)

end Edit

namespace Template

open Edit

/-- Limiting a signal adds at most two literals and a node. -/
lemma addsAtMost_clamped (signal : Reference) (clamp : Clamp) (rate : Rate) (hm : 3 ≤ m) :
    (clamped signal clamp rate).AddsAtMost 3 m := by
  cases clamp with
  | range low high =>
    exact (addsAtMost_constant low).bind fun _ => (addsAtMost_constant high).bind fun _ =>
      addsAtMost_unit (by simpa using hm) (by omega)
  | floor low =>
    have hfloor : (clamped signal (.floor low) rate).AddsAtMost 2 m :=
      (addsAtMost_constant low).bind fun _ => addsAtMost_binary hm
    exact hfloor.mono (by omega)

/-- Modulating a parameter adds at most a node. -/
lemma addsAtMost_modulated (p : ParamSpec) (hm : 3 ≤ m) : (modulated p).AddsAtMost 1 m := by
  refine (AddsAtMost.ask _).bind fun base => ?_
  cases p.modName with
  | none => exact (AddsAtMost.pure _).mono (Nat.zero_le 1)
  | some modName =>
    exact (AddsAtMost.ask _).bind fun _ => (addsAtMost_binary hm).bind fun _ => .pure _

/-- What a parameter contributes adds at most three literals and nodes, and its modulation. -/
lemma addsAtMost_contribution (p : ParamSpec) (hm : 3 ≤ m) : (contribution p).AddsAtMost 4 m := by
  refine (addsAtMost_modulated p hm).bind fun ⟨signal, rate⟩ => ?_
  dsimp only
  cases p.effectiveClamp with
  | none => exact (AddsAtMost.pure _).mono (Nat.zero_le 3)
  | some clamp => exact addsAtMost_clamped signal clamp rate hm

/-- What parameters contribute adds at most four for each. -/
lemma addsAtMost_contributions (ps : List ParamSpec) (hm : 3 ≤ m) :
    (contributions ps).AddsAtMost (4 * ps.length) m := by
  induction ps with
  | nil => exact .pure _
  | cons p ps ih =>
    have hlength : 4 * (p :: ps).length = 0 + 4 * ps.length + 4 := by
      rw [List.length_cons]
      omega
    rw [hlength]
    exact (addsAtMost_contribution p hm).bind fun _ => ih.bind fun _ => .pure _

/-- There are at most as many core contributions as parameters. -/
lemma length_core_le {ps : List ParamSpec} {result : List Reference × Option Reference}
    (h : (contributions ps).apply d = (.ok result, d')) : result.1.length ≤ ps.length := by
  induction ps generalizing d d' result with
  | nil =>
    obtain ⟨rfl, -⟩ := apply_pure_eq_ok.mp h
    exact Nat.le_refl _
  | cons p ps ih =>
    obtain ⟨signal, d₁, -, hrest⟩ := apply_bind_eq_ok.mp h
    obtain ⟨⟨core, amp⟩, d₂, hothers, hlast⟩ := apply_bind_eq_ok.mp hrest
    obtain ⟨rfl, -⟩ := apply_pure_eq_ok.mp hlast
    have hcore : core.length ≤ ps.length := ih hothers
    rw [List.length_cons]
    cases p.role with
    | core => exact Nat.succ_le_succ hcore
    | amp => exact hcore.trans (Nat.le_succ _)

/-- The output stage adds seven nodes. -/
lemma addsAtMost_outputStage (signal : Reference) (c : UnitConstants) (hm : 3 ≤ m) :
    (outputStage signal c).AddsAtMost 7 m := by
  have hnode : ∀ {className : String} {inputs : List Reference} {outputs : Int},
      inputs.length ≤ 3 → outputs ≤ 3 → (audioNode className inputs outputs).AddsAtMost 1 m :=
    fun hinputs houtputs => addsAtMost_node (by omega) (by omega)
  refine (AddsAtMost.ask _).bind fun pan => (AddsAtMost.ask _).bind fun outBus => ?_
  refine (hnode (by simp) (by simp)).bind fun panned => ?_
  refine (AddsAtMost.ask _).bind fun left => (AddsAtMost.ask _).bind fun right => ?_
  refine (hnode (by simp) (by simp)).bind fun clippedLeft => ?_
  refine (hnode (by simp) (by simp)).bind fun clippedRight => ?_
  refine (addsAtMost_binary hm).bind fun toHardware => (AddsAtMost.ask _).bind fun _ => ?_
  refine (hnode (by simp) (by simp)).bind fun selectLeft => (AddsAtMost.ask _).bind fun _ => ?_
  refine (hnode (by simp) (by simp)).bind fun selectRight => (AddsAtMost.ask _).bind fun _ => ?_
  exact (AddsAtMost.ask _).bind fun _ => hnode (by simp) (by simp)

/-- The wiring adds at most four for each parameter and nine more. -/
lemma addsAtMost_wiring (g : GeneratorSpec) (c : UnitConstants) (hm : 3 ≤ m)
    (hparams : g.params.length ≤ m) : (wiring g c).AddsAtMost (9 + 4 * g.params.length) m := by
  refine (addsAtMost_contributions g.params hm).bind_of (fun _ _ _ h => length_core_le h)
    fun ⟨core, amp⟩ hcore => ?_
  refine (addsAtMost_unit (le_trans hcore hparams) (by omega)).bind fun source => ?_
  cases amp with
  | none => exact (addsAtMost_outputStage source c hm).mono (by omega)
  | some amp =>
    exact (addsAtMost_binary hm).bind fun signal => addsAtMost_outputStage signal c hm

/-- Declaring parameters adds neither literals nor nodes. -/
lemma addsAtMost_declareAll (rate : ParameterRate) (declared : List (String × Binary64)) :
    (declareAll rate declared).AddsAtMost 0 m := by
  induction declared with
  | nil => exact .pure ()
  | cons entry declared ih => exact (addsAtMost_declare _ _ _).bind fun _ => ih

/-- The declarations add three literals. -/
lemma addsAtMost_declarations (g : GeneratorSpec) : (declarations g).AddsAtMost 3 m := by
  refine (addsAtMost_constant _).bind fun _ => (addsAtMost_constant _).bind fun _ => ?_
  exact (addsAtMost_constant _).bind fun _ => (addsAtMost_declareAll _ _).bind fun _ =>
    (addsAtMost_declareAll _ _).bind fun _ => .pure _

end Template

/-! ### The counts of a built generator -/

/-- There are no more runs than parameters, and no run is longer than all of them. -/
lemma AreRuns.length_le {rs : List (ParameterRate × List Parameter)} {ps : List Parameter}
    (h : AreRuns rs ps) : rs.length ≤ ps.length ∧ ∀ r ∈ rs, r.2.length ≤ ps.length := by
  obtain ⟨rfl, hne, -, -⟩ := h
  induction rs with
  | nil => simp
  | cons r rs ih =>
    rw [List.forall_mem_cons] at hne ⊢
    obtain ⟨hcount, hlength⟩ := ih hne.2
    have hpos := List.length_pos_iff.mpr hne.1
    rw [List.flatMap_cons, List.length_append, List.length_cons]
    exact ⟨by omega, by omega, fun s hs => (hlength s hs).trans (Nat.le_add_left _ _)⟩

/-- Emitting the control nodes adds at most a node for each parameter. -/
lemma within_of_apply_controls {indices : List Nat} (hopen : d.parameters.isSealed = false)
    (hm : d.parameters.size ≤ m) (hd : d.Within total m)
    (h : Edit.controls.apply d = (.ok indices, d')) :
    d'.Within (total + d.parameters.size) m := by
  rw [Edit.apply_controls_of_not_isSealed hopen] at h
  obtain rfl := Edit.apply_controlNodes_eq_ok h
  obtain ⟨-, hconstants, -, hnodes⟩ := Definition.foldl_expose_frame
    (Edit.runs d.parameters.toList) { d with parameters := d.parameters.close }
  obtain ⟨hcount, hlength⟩ := (areRuns_runs d.parameters.toList).length_le
  rw [ParameterTable.length_toList] at hcount hlength
  refine ⟨?_, ?_, ?_⟩
  · rw [hconstants]
    exact hd.constants.trans (Nat.le_add_right _ _)
  · rw [← Array.length_toList, hnodes, List.length_append, List.length_map]
    exact Nat.add_le_add hd.nodes hcount
  · rw [hnodes, List.forall_mem_append, List.forall_mem_map]
    refine ⟨hd.arity, fun r hr => ⟨Nat.zero_le m, ?_⟩⟩
    rw [exposingNode, List.length_replicate]
    exact (hlength r hr).trans hm

/-- The counts of a built definition have thirty-two bits when its generator has fewer than
`2 ^ 28` parameters. -/
theorem GeneratorSpec.countsFit_of_build (h : g.build = .ok d)
    (hcount : g.parameterNames.length < 2 ^ (28 : Nat)) : d.CountsFit := by
  obtain ⟨d₀, c, d₁, indices, d₂, index, hnew, hdeclarations, hcontrols, hwiring⟩ :=
    GeneratorSpec.build_eq_ok_iff.mp h
  have hdeclared := apply_declarations hnew hdeclarations
  have hsize : d₁.parameters.size = g.parameterNames.length := by
    rw [← hdeclared.names, List.length_map, ParameterTable.length_toList]
  have hparams : g.params.length ≤ g.parameterNames.length := by
    simp only [GeneratorSpec.parameterNames, List.length_append, List.length_map]
    omega
  obtain ⟨-, rfl⟩ := Definition.new_eq_ok_iff.mp hnew
  -- Each stage goes on from the bounds that the stages before it leave.
  have within₀ : (⟨g.name, .empty, .empty, #[], []⟩ : Definition).Within 0
      (g.parameterNames.length + 3) := ⟨Nat.le_refl 0, Nat.le_refl 0, by simp⟩
  have within₁ := Template.addsAtMost_declarations g _ _ within₀
  rw [hdeclarations] at within₁
  have within₂ := within_of_apply_controls hdeclared.isOpen (by omega) within₁ hcontrols
  have within₃ := Template.addsAtMost_wiring g c (by omega) (by omega) _ _ within₂
  rw [hwiring, hsize] at within₃
  have hparameters : d.parameters.size = g.parameterNames.length := by
    rw [← GeneratorSpec.names_of_build h, List.length_map, ParameterTable.length_toList]
  have hconstants : d.constants.size ≤ _ := within₃.constants
  have hnodes : d.nodes.size ≤ _ := within₃.nodes
  have harity : ∀ n ∈ d.nodes, _ := fun n hn => within₃.arity n (Array.mem_toList_iff.mpr hn)
  refine ⟨by omega, by omega, by omega, fun n hn => ?_, fun n hn => ?_⟩
  · exact (harity n hn).1.trans_lt (by omega)
  · exact (harity n hn).2.trans_lt (by omega)

/-- A built definition can be written into a file when its generator has fewer than `2 ^ 28`
parameters. -/
lemma GeneratorSpec.exists_encode_of_build (h : g.build = .ok d)
    (hcount : g.parameterNames.length < 2 ^ (28 : Nat)) :
    ∃ bytes, DefinitionFile.encode [d] = .ok bytes := by
  have hone : [d].length ≤ DefinitionFile.maxDefinitions := by
    simp [DefinitionFile.maxDefinitions]
  have hall : ∀ d' ∈ [d], d'.Reachable ∧ d'.CountsFit :=
    List.forall_mem_singleton.mpr ⟨reachable_of_build h, countsFit_of_build h hcount⟩
  exact ⟨_, DefinitionFile.encode_of_isLegal hone (DefinitionFile.isLegal_fields hone hall)⟩

end SynthGraph
