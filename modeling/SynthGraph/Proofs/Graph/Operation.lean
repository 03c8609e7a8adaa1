import Mathlib.Logic.Relation
import SynthGraph.Generator.Template
import SynthGraph.Proofs.Graph.Exposure

/-!
# Operations on a definition

The operations that build a definition, as data, so that statements can speak of every sequence of
them.  A definition is reachable when some sequence leads to it from a new one; operations of the
sequence may fail, and then they keep what they had appended before the failure.

Whatever an operation does is a sequence of elementary steps (`Definition.Step`): a literal, a
parameter, a node, or the control nodes.  What all steps preserve therefore holds of every reachable
definition, which is `Definition.Reachable.of_step`.
-/

namespace SynthGraph

/-- An operation with its arguments, none of which has been checked. -/
inductive Operation where
  /-- Declares a parameter. -/
  | declare (name : String) (default : Binary64) (rate : String)
  /-- Adds a literal to the pool. -/
  | constant (v : Binary64)
  /-- Refers to a slot of the pool. -/
  | constantReference (slot : Int)
  /-- Refers to an output of a node. -/
  | reference (index slot : Int)
  /-- Appends a node. -/
  | node (className : String) (rate : Int) (inputs : List Reference) (outputs special : Int)
  /-- Appends an arithmetic node. -/
  | binary (op : BinaryOperator) (rate : Int) (left right : Reference)
  /-- Appends the control nodes. -/
  | controls
  /-- Refers to a parameter. -/
  | parameterReference (name : String)
  /-- Appends what a parameter of a generator contributes. -/
  | contribution (p : ParamSpec)
  /-- Appends the output stage. -/
  | outputStage (signal : Reference) (c : UnitConstants)

namespace Operation

/-- The edit of an operation, with the reference that it returns when it returns one. -/
def edit : Operation → Edit (Option Reference)
  | declare name default rate => do let _ ← Edit.declare name default rate; return none
  | constant v => some <$> Edit.constant v
  | constantReference slot => some <$> Edit.ask fun d => d.constantReference slot
  | reference index slot => some <$> Edit.ask fun d => d.reference index slot
  | node className rate inputs outputs special => do
    let _ ← Edit.node className rate inputs outputs special
    return none
  | binary op rate left right => some <$> Edit.binary op rate left right
  | controls => do let _ ← Edit.controls; return none
  | parameterReference name => some <$> Template.parameter name
  | contribution p => some <$> Template.contribution p
  | outputStage signal c => do let _ ← Template.outputStage signal c; return none

/-- The definition after an operation, whether it succeeds or fails. -/
def run (op : Operation) (d : Definition) : Definition := (op.edit.apply d).2

end Operation

namespace Definition

/-- The definition after a sequence of operations. -/
def run (d : Definition) (ops : List Operation) : Definition :=
  ops.foldl (fun d op => op.run d) d

/-- The definitions that operations lead to from a new definition. -/
inductive Reachable : Definition → Prop where
  | new {name : String} {d : Definition} (h : Definition.new name = .ok d) : Reachable d
  | step {d : Definition} (h : Reachable d) (op : Operation) : Reachable (op.run d)

/-- Operations lead from a reachable definition to a reachable one. -/
lemma Reachable.run {d : Definition} (h : d.Reachable) (ops : List Operation) :
    (d.run ops).Reachable := by
  induction ops generalizing d with
  | nil => exact h
  | cons op ops ih => exact ih (h.step op)

/-! ### Elementary steps -/

/-- One elementary change of a definition, with everything that has been checked before it. -/
inductive Step (d : Definition) : Definition → Prop where
  /-- A literal is interned. -/
  | constant {v : Binary64} {slot : Nat} {pool : ConstantPool}
      (h : d.constants.intern v = .ok (slot, pool)) : Step d { d with constants := pool }
  /-- A parameter is declared. -/
  | declare {name : String} {default : Binary64} {rate : String} {index : Nat}
      {table : ParameterTable} (h : d.parameters.declare name default rate = .ok (index, table)) :
      Step d { d with parameters := table }
  /-- A node is appended. -/
  | node {className : String} {rate : Int} {inputs : List Reference} {outputs special : Int}
      {n : Node} (h : d.newNode className rate inputs outputs special = .ok n) :
      Step d (d.append n)
  /-- The table is closed and its first runs are exposed. -/
  | controls {exposed rest : List (ParameterRate × List Parameter)}
      (hopen : d.parameters.isSealed = false)
      (hruns : Edit.runs d.parameters.toList = exposed ++ rest)
      (hfits : ∀ r ∈ exposed, Edit.specialFits (firstIndex r.2) = true) :
      Step d (d.exposeAll exposed)

/-- Any number of elementary steps. -/
abbrev Steps : Definition → Definition → Prop := Relation.ReflTransGen Step

end Definition

/-! ### Edits are sequences of steps -/

namespace Edit

variable {α β : Type}

/-- An edit that makes elementary steps, also when it fails. -/
def MakesSteps (e : Edit α) : Prop := ∀ d, Definition.Steps d (e.apply d).2

/-- Returning a value makes no step. -/
lemma MakesSteps.pure (a : α) : MakesSteps (pure a : Edit α) := fun _ => .refl

/-- Asking makes no step. -/
lemma MakesSteps.ask (q : Definition → Except Fault α) : MakesSteps (ask q) := fun d => by
  rw [apply_ask]

/-- The steps of a sequence are those of its parts. -/
lemma MakesSteps.bind {e : Edit α} {f : α → Edit β} (he : MakesSteps e)
    (hf : ∀ a, MakesSteps (f a)) : MakesSteps (e >>= f) := by
  intro d
  have hfirst := he d
  rw [apply_bind]
  rcases hrun : e.apply d with ⟨_ | a, d'⟩ <;> rw [hrun] at hfirst
  · exact hfirst
  · exact hfirst.trans (hf a d')

/-- The steps of an edit do not depend on what is made of its result. -/
lemma MakesSteps.map {e : Edit α} (f : α → β) (he : MakesSteps e) : MakesSteps (f <$> e) := by
  rw [map_eq_pure_bind]
  exact he.bind fun a => .pure _

/-- Adding a literal is a step. -/
lemma makesSteps_constant {v : Binary64} : MakesSteps (constant v) := by
  intro d
  rw [apply_constant]
  cases h : d.constants.intern v with
  | error e => exact .refl
  | ok result => exact .single (.constant h)

/-- Declaring a parameter is a step. -/
lemma makesSteps_declare {name : String} {default : Binary64} {rate : String} :
    MakesSteps (declare name default rate) := by
  intro d
  rw [apply_declare]
  cases h : d.parameters.declare name default rate with
  | error e => exact .refl
  | ok result => exact .single (.declare h)

/-- Appending a node is a step. -/
lemma makesSteps_node {className : String} {rate : Int} {inputs : List Reference}
    {outputs special : Int} : MakesSteps (node className rate inputs outputs special) := by
  intro d
  rw [apply_node]
  cases h : d.newNode className rate inputs outputs special with
  | error e => exact .refl
  | ok n => exact .single (.node h)

/-- Appending a unit is a step. -/
lemma makesSteps_unit {className : String} {rate : Int} {inputs : List Reference}
    {special : Int} : MakesSteps (unit className rate inputs special) :=
  makesSteps_node.bind fun _ => .ask _

/-- Emitting the control nodes is a step. -/
lemma makesSteps_controls : MakesSteps controls := by
  intro d
  cases hopen : d.parameters.isSealed with
  | true => rw [apply_controls_of_isSealed hopen]
  | false =>
    rw [apply_controls_of_not_isSealed hopen]
    obtain ⟨exposed, rest, hruns, hfits, hafter⟩ := apply_controlNodes
      (runs d.parameters.toList) { d with parameters := d.parameters.close }
    rw [hafter]
    exact .single (.controls hopen hruns hfits)

end Edit

namespace Template

open Edit

/-- Limiting a signal makes steps. -/
lemma makesSteps_clamped (signal : Reference) (clamp : Clamp) (rate : Rate) :
    MakesSteps (clamped signal clamp rate) := by
  cases clamp with
  | range low high =>
    exact makesSteps_constant.bind fun _ => makesSteps_constant.bind fun _ =>
      makesSteps_unit
  | floor low => exact makesSteps_constant.bind fun _ => makesSteps_unit

/-- Modulating a parameter makes steps. -/
lemma makesSteps_modulated (p : ParamSpec) : MakesSteps (modulated p) := by
  refine (MakesSteps.ask _).bind fun base => ?_
  cases p.modName with
  | none => exact .pure _
  | some modName => exact (MakesSteps.ask _).bind fun _ => makesSteps_unit.bind fun _ => .pure _

/-- The contribution of a parameter makes steps. -/
lemma makesSteps_contribution (p : ParamSpec) : MakesSteps (contribution p) := by
  refine (makesSteps_modulated p).bind fun ⟨signal, rate⟩ => ?_
  dsimp only
  cases p.effectiveClamp with
  | none => exact .pure _
  | some clamp => exact makesSteps_clamped signal clamp rate

/-- The output stage makes steps. -/
lemma makesSteps_outputStage (signal : Reference) (c : UnitConstants) :
    MakesSteps (outputStage signal c) := by
  unfold outputStage parameter output audioNode Edit.binary
  refine (MakesSteps.ask _).bind fun pan => (MakesSteps.ask _).bind fun outBus => ?_
  refine makesSteps_node.bind fun panned => ?_
  refine (MakesSteps.ask _).bind fun left => (MakesSteps.ask _).bind fun right => ?_
  refine makesSteps_node.bind fun clippedLeft => ?_
  refine makesSteps_node.bind fun clippedRight => ?_
  refine makesSteps_unit.bind fun toHardware => (MakesSteps.ask _).bind fun _ => ?_
  refine makesSteps_node.bind fun selectLeft => (MakesSteps.ask _).bind fun _ => ?_
  refine makesSteps_node.bind fun selectRight => (MakesSteps.ask _).bind fun _ => ?_
  exact (MakesSteps.ask _).bind fun _ => makesSteps_node

end Template

/-- Every operation is a sequence of elementary steps, also when it fails. -/
theorem Operation.makesSteps (op : Operation) : op.edit.MakesSteps := by
  cases op with
  | declare name default rate => exact Edit.makesSteps_declare.bind fun _ => .pure _
  | constant v => exact Edit.makesSteps_constant.map _
  | constantReference slot => exact (Edit.MakesSteps.ask _).map _
  | reference index slot => exact (Edit.MakesSteps.ask _).map _
  | node className rate inputs outputs special =>
    exact Edit.makesSteps_node.bind fun _ => .pure _
  | binary op rate left right => exact Edit.makesSteps_unit.map _
  | controls => exact Edit.makesSteps_controls.bind fun _ => .pure _
  | parameterReference name => exact (Edit.MakesSteps.ask _).map _
  | contribution p => exact (Template.makesSteps_contribution p).map _
  | outputStage signal c => exact (Template.makesSteps_outputStage signal c).bind fun _ => .pure _

namespace Definition

/-- What every elementary step preserves holds after any number of steps. -/
lemma Steps.preserve {P : Definition → Prop} {d d' : Definition}
    (hstep : ∀ {d d'}, Step d d' → P d → P d') (h : Steps d d') (hd : P d) : P d' := by
  induction h with
  | refl => exact hd
  | tail _ hlast ih => exact hstep hlast ih

/-- What holds of new definitions and is preserved by every elementary step holds of every
reachable definition. -/
theorem Reachable.of_step {P : Definition → Prop}
    (hnew : ∀ {name d}, Definition.new name = .ok d → P d)
    (hstep : ∀ {d d'}, Step d d' → P d → P d') {d : Definition} (h : d.Reachable) : P d := by
  induction h with
  | new hname => exact hnew hname
  | step _ op ih => exact (op.makesSteps _).preserve hstep ih

end Definition

end SynthGraph
