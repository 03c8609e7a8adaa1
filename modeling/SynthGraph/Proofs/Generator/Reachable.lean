import SynthGraph.Proofs.Generator.Build

/-!
# Built generators are reachable

A build is a sequence of the operations on definitions, so that everything that holds of reachable
definitions holds of a built one.  Edits that are sequences of operations are closed under
sequencing, and every stage of a build is such a sequence.  The operations after the control nodes
leave the table as it is, which therefore is the one that the generator declares.
-/

namespace SynthGraph

variable {α β : Type} {g : GeneratorSpec} {d : Definition}

/-- One sequence of operations after another one. -/
lemma Definition.run_append (d : Definition) (ops more : List Operation) :
    d.run (ops ++ more) = (d.run ops).run more :=
  List.foldl_append

namespace Edit

/-- What the edit does to a definition, operations do as well. -/
def IsRun (e : Edit α) : Prop := ∀ d, ∃ ops, (e.apply d).2 = d.run ops

/-- What is made of a result does not change the definition. -/
lemma snd_apply_bind_pure (e : Edit α) (f : α → β) (d : Definition) :
    ((e >>= fun a => pure (f a)).apply d).2 = (e.apply d).2 := by
  rw [apply_bind]
  rcases e.apply d with ⟨x | a, d'⟩ <;> rfl

/-- Operations keep what they find, and lead to a reachable definition from a reachable one. -/
lemma IsRun.reachable {e : Edit α} {a : α} {d' : Definition} (he : e.IsRun) (h : d.Reachable)
    (hrun : e.apply d = (.ok a, d')) : d'.Reachable ∧ d.Extends d' := by
  obtain ⟨ops, hops⟩ := he d
  rw [hrun] at hops
  obtain rfl : d' = d.run ops := hops
  exact ⟨h.run ops, Definition.extends_run d ops⟩

/-- The edit of an operation is that operation. -/
lemma IsRun.of_operation {e : Edit α} (op : Operation) (f : α → Option Reference)
    (h : op.edit = e >>= fun a => pure (f a)) : e.IsRun := by
  intro d
  refine ⟨[op], ?_⟩
  rw [← snd_apply_bind_pure e f d, ← h]
  rfl

/-- Returning a value takes no operation. -/
lemma IsRun.pure (a : α) : (pure a : Edit α).IsRun := fun _ => ⟨[], rfl⟩

/-- Asking takes no operation. -/
lemma IsRun.ask (q : Definition → Except Fault α) : (ask q).IsRun := fun d =>
  ⟨[], by rw [apply_ask]; rfl⟩

/-- A sequence takes the operations of its parts. -/
lemma IsRun.bind {e : Edit α} {f : α → Edit β} (he : e.IsRun) (hf : ∀ a, (f a).IsRun) :
    (e >>= f).IsRun := by
  intro d
  obtain ⟨ops, hops⟩ := he d
  rw [apply_bind]
  rcases hrun : e.apply d with ⟨x | a, d'⟩ <;> rw [hrun] at hops
  · exact ⟨ops, hops⟩
  · obtain ⟨more, hmore⟩ := hf a d'
    exact ⟨ops ++ more, by rw [Definition.run_append, ← hops, hmore]⟩

/-- Adding a literal is an operation. -/
lemma isRun_constant (v : Binary64) : (constant v).IsRun :=
  .of_operation (.constant v) some (map_eq_pure_bind _ _)

/-- Declaring a parameter is an operation. -/
lemma isRun_declare (name : String) (default : Binary64) (rate : String) :
    (declare name default rate).IsRun :=
  .of_operation (.declare name default rate) (fun _ => none) rfl

/-- Appending a node is an operation. -/
lemma isRun_node (className : String) (rate : Int) (inputs : List Reference)
    (outputs special : Int) : (node className rate inputs outputs special).IsRun :=
  .of_operation (.node className rate inputs outputs special) (fun _ => none) rfl

/-- Appending a unit is an operation. -/
lemma isRun_unit (className : String) (rate : Int) (inputs : List Reference) (special : Int) :
    (unit className rate inputs special).IsRun :=
  (isRun_node _ _ _ _ _).bind fun _ => .ask _

/-- Appending an arithmetic node is an operation. -/
lemma isRun_binary (op : BinaryOperator) (rate : Int) (left right : Reference) :
    (binary op rate left right).IsRun :=
  .of_operation (.binary op rate left right) some (map_eq_pure_bind _ _)

/-- Emitting the control nodes is an operation. -/
lemma isRun_controls : controls.IsRun :=
  .of_operation .controls (fun _ => none) rfl

end Edit

namespace Template

open Edit

/-- The contribution of a parameter is an operation. -/
lemma isRun_contribution (p : ParamSpec) : (contribution p).IsRun :=
  .of_operation (.contribution p) some (map_eq_pure_bind _ _)

/-- The output stage is an operation. -/
lemma isRun_outputStage (signal : Reference) (c : UnitConstants) : (outputStage signal c).IsRun :=
  .of_operation (.outputStage signal c) (fun _ => none) rfl

/-- Declaring parameters takes one operation for each. -/
lemma isRun_declareAll (rate : ParameterRate) (declared : List (String × Binary64)) :
    (declareAll rate declared).IsRun := by
  induction declared with
  | nil => exact .pure ()
  | cons entry declared ih => exact (isRun_declare _ _ _).bind fun _ => ih

/-- The contributions of parameters take one operation for each. -/
lemma isRun_contributions (ps : List ParamSpec) : (contributions ps).IsRun := by
  induction ps with
  | nil => exact .pure _
  | cons p ps ih => exact (isRun_contribution p).bind fun _ => ih.bind fun _ => .pure _

/-- The wiring is a sequence of operations. -/
lemma isRun_wiring (g : GeneratorSpec) (c : UnitConstants) : (wiring g c).IsRun := by
  refine (isRun_contributions g.params).bind fun ⟨core, amp⟩ => ?_
  refine (isRun_unit _ _ _ _).bind fun source => ?_
  cases amp with
  | none => exact isRun_outputStage source c
  | some amp => exact (isRun_binary _ _ _ _).bind fun signal => isRun_outputStage signal c

/-- The declarations are a sequence of operations. -/
lemma isRun_declarations (g : GeneratorSpec) : (declarations g).IsRun := by
  refine (isRun_constant _).bind fun _ => (isRun_constant _).bind fun _ => ?_
  exact (isRun_constant _).bind fun _ => (isRun_declareAll _ _).bind fun _ =>
    (isRun_declareAll _ _).bind fun _ => .pure _

/-- The graph of a generator is a sequence of operations. -/
lemma isRun_graph (g : GeneratorSpec) : (graph g).IsRun :=
  (isRun_declarations g).bind fun c => isRun_controls.bind fun _ => isRun_wiring g c

end Template

/-- Operations lead to every definition that is built for a generator. -/
theorem GeneratorSpec.reachable_of_build (h : g.build = .ok d) : d.Reachable := by
  obtain ⟨d₀, index, hnew, hgraph⟩ := build_eq_ok_iff_graph.mp h
  obtain ⟨ops, hops⟩ := Template.isRun_graph g d₀
  have hd : d = d₀.run ops := by rw [← hops, hgraph]
  exact hd ▸ (Definition.Reachable.new hnew).run ops

/-- A built definition has the name of its generator. -/
lemma GeneratorSpec.name_of_build (h : g.build = .ok d) : d.name = g.name := by
  obtain ⟨d₀, index, hnew, hgraph⟩ := build_eq_ok_iff_graph.mp h
  obtain ⟨ops, hops⟩ := Template.isRun_graph g d₀
  rw [hgraph] at hops
  have hkept := (Definition.steps_run d₀ ops).extends.name
  rw [← hops, (Definition.new_eq_ok_iff.mp hnew).2] at hkept
  exact hkept

/-! ### The table of a built definition -/

/-- The parameters of a built definition are those that its generator declares. -/
lemma GeneratorSpec.entries_of_build (h : g.build = .ok d) :
    ∃ block mods, d.parameters.toList = block ++ mods ∧
      List.Forall₂ (Declares .control) (Template.blockDeclarations g) block ∧
      List.Forall₂ (Declares .audio) (Template.modDeclarations g) mods := by
  obtain ⟨d₀, c, d₁, indices, d₂, index, hnew, hdeclarations, hcontrols, hwiring⟩ :=
    GeneratorSpec.build_eq_ok_iff.mp h
  have hdeclared := apply_declarations hnew hdeclarations
  have hclosed := parameters_of_apply_controls hdeclared.isOpen hcontrols
  obtain ⟨ops, hops⟩ := Template.isRun_wiring g c d₂
  rw [hwiring] at hops
  -- The table is closed, so that the wiring does not change it.
  have hkept := ((Definition.steps_run d₂ ops).frozen (by rw [hclosed]; rfl)).1
  rw [← hops, hclosed] at hkept
  rw [hkept]
  exact hdeclared.entries

/-- The names of the parameters of a built definition are those of its generator. -/
lemma GeneratorSpec.names_of_build (h : g.build = .ok d) :
    d.parameters.toList.map Parameter.name = g.parameterNames := by
  obtain ⟨block, mods, hlist, hblock, hmods⟩ := entries_of_build h
  rw [hlist, List.map_append, map_name_of_declares hblock, map_name_of_declares hmods,
    g.parameterNames_eq]

end SynthGraph
