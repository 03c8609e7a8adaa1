import SynthGraph.Proofs.Graph.Binding
import SynthGraph.Proofs.Graph.Exposure

/-!
# Two runs over the same graph

Two definitions have the same graph when they differ at most in their names and in the defaults of
their parameters.  No edit looks at either: of two runs of an edit that succeed, from definitions
with the same graph, both return the same and leave definitions with the same graph.  This holds of
the atomic edits and is closed under sequencing, so that it holds of whatever is made of them.
-/

namespace SynthGraph

/-! ### The same graph -/

/-- Two parameters that differ in their defaults at most. -/
structure Parameter.SameButDefault (p q : Parameter) : Prop where
  name : q.name = p.name
  rate : q.rate = p.rate
  index : q.index = p.index

/-- Two definitions that differ in their names and in the defaults of their parameters at most. -/
structure Definition.SameGraph (d d' : Definition) : Prop where
  constants : d'.constants = d.constants
  parameters : List.Forall₂ Parameter.SameButDefault d.parameters.toList d'.parameters.toList
  isSealed : d'.parameters.isSealed = d.parameters.isSealed
  nodes : d'.nodes = d.nodes
  bindings : d'.bindings = d.bindings

namespace Definition

variable {d d' : Definition} {name : String} {r : Reference}

/-- A parameter that is referred to has a binding. -/
lemma binding?_of_parameterReference (h : d.parameterReference name = .ok r) :
    d.binding? name = some r := by
  obtain ⟨_, -, hbinding⟩ := bind_eq_ok.mp h
  split at hbinding
  case h_1 found hfound =>
    rw [hfound, Except.ok.inj hbinding]
  case h_2 => cases hbinding

namespace SameGraph

/-- The same parameters are referred to by the same outputs. -/
lemma parameterReference (h : d.SameGraph d') {r' : Reference}
    (hr : d.parameterReference name = .ok r) (hr' : d'.parameterReference name = .ok r') :
    r' = r := by
  have hbinding := binding?_of_parameterReference hr
  have hbinding' := binding?_of_parameterReference hr'
  rw [binding?, h.bindings, ← binding?, hbinding] at hbinding'
  exact (Option.some.inj hbinding').symm

/-- The graph is the same with another pool. -/
lemma withConstants (h : d.SameGraph d') (pool : ConstantPool) :
    SameGraph { d with constants := pool } { d' with constants := pool } :=
  ⟨rfl, h.parameters, h.isSealed, h.nodes, h.bindings⟩

/-- The graph is the same with one more node. -/
lemma append (h : d.SameGraph d') (n : Node) : (d.append n).SameGraph (d'.append n) :=
  ⟨h.constants, h.parameters, h.isSealed, by rw [Definition.append, Definition.append, h.nodes],
    h.bindings⟩

/-- The graph is the same with one more parameter, whatever its default is. -/
lemma push (h : d.SameGraph d') (name : String) (x x' : Binary32) (rate : ParameterRate) :
    SameGraph { d with parameters := d.parameters.push name x rate }
      { d' with parameters := d'.parameters.push name x' rate } := by
  have hsize : d'.parameters.size = d.parameters.size := by
    rw [← ParameterTable.length_toList, ← ParameterTable.length_toList, h.parameters.length_eq]
  refine ⟨h.constants, ?_, h.isSealed, h.nodes, h.bindings⟩
  rw [ParameterTable.toList_push, ParameterTable.toList_push]
  exact List.rel_append h.parameters (.cons ⟨rfl, rfl, hsize⟩ .nil)

/-- The graph is the same when both tables are closed. -/
lemma close (h : d.SameGraph d') :
    SameGraph { d with parameters := d.parameters.close }
      { d' with parameters := d'.parameters.close } :=
  ⟨h.constants, h.parameters, rfl, h.nodes, h.bindings⟩

end SameGraph

end Definition

/-! ### Runs of parameters -/

/-- Two runs of parameters that differ in their defaults at most. -/
def SameRun (r r' : ParameterRate × List Parameter) : Prop :=
  r'.1 = r.1 ∧ List.Forall₂ Parameter.SameButDefault r.2 r'.2

/-- Parameters that differ in their defaults at most are divided into the same runs. -/
lemma sameRun_runs {ps qs : List Parameter} (h : List.Forall₂ Parameter.SameButDefault ps qs) :
    List.Forall₂ SameRun (Edit.runs ps) (Edit.runs qs) := by
  induction h with
  | nil => exact .nil
  | @cons p q ps qs hpq _ ih =>
    rw [Edit.runs, Edit.runs]
    generalize Edit.runs ps = rs at ih ⊢
    generalize Edit.runs qs = rs' at ih ⊢
    cases ih with
    | nil => exact .cons ⟨hpq.rate, .cons hpq .nil⟩ .nil
    | @cons r r' rs rs' hrun hrest =>
      obtain ⟨hrate, hparameters⟩ := hrun
      -- Whether a parameter joins the first run is decided by the two rates.
      dsimp only
      rw [hrate, hpq.rate]
      split
      · exact .cons ⟨rfl, .cons hpq hparameters⟩ hrest
      · exact .cons ⟨rfl, .cons hpq .nil⟩ (.cons ⟨rfl, hparameters⟩ hrest)

namespace SameRun

variable {r r' : ParameterRate × List Parameter}

/-- The first parameters have the same index. -/
lemma firstIndex_eq (h : SameRun r r') : firstIndex r'.2 = firstIndex r.2 := by
  obtain ⟨rate, ps⟩ := r
  obtain ⟨rate', qs⟩ := r'
  obtain ⟨-, hparameters⟩ := h
  unfold firstIndex
  cases hparameters with
  | nil => rfl
  | cons hfirst _ => simp [hfirst.index]

/-- The same node exposes both. -/
lemma exposingNode_eq (h : SameRun r r') : exposingNode r' = exposingNode r := by
  rw [exposingNode, exposingNode, h.firstIndex_eq, h.1, h.2.length_eq]

/-- Both are bound alike. -/
lemma runBindings_eq (h : SameRun r r') (index : Nat) :
    Edit.runBindings index r'.2 = Edit.runBindings index r.2 := by
  have hnames : r'.2.map Parameter.name = r.2.map Parameter.name := by
    exact (map_eq_map_of_forall₂ h.2 fun _ _ hpq => hpq.name.symm).symm
  have hpairs (ps : List Parameter) : Edit.runBindings index ps =
      (ps.map Parameter.name).zipIdx.map fun (name, slot) => (name, ⟨index, slot⟩) := by
    rw [Edit.runBindings, List.zipIdx_map, List.map_map]
    rfl
  rw [hpairs, hpairs, hnames]

/-- The graph is the same when both are exposed. -/
lemma expose {d d' : Definition} (h : SameRun r r') (hd : d.SameGraph d') :
    (d.expose r).SameGraph (d'.expose r') := by
  obtain ⟨hconstants, hparameters, hsealed, hnodes, hbindings⟩ := hd.append (exposingNode r)
  refine ⟨hconstants, hparameters, hsealed, ?_, ?_⟩
  · rw [Definition.expose, Definition.expose, h.exposingNode_eq]
    exact hnodes
  · rw [Definition.expose, Definition.expose, hd.nodes, hd.bindings, h.runBindings_eq]

end SameRun

/-! ### Runs of edits -/

namespace Edit

variable {α β : Type}

/-- Of two edits that succeed on definitions with the same graph, both return the same and leave
definitions with the same graph. -/
def Parallel (e e' : Edit α) : Prop :=
  ∀ ⦃d d' d₁ d₁' : Definition⦄ ⦃a a' : α⦄, d.SameGraph d' → e.apply d = (.ok a, d₁) →
    e'.apply d' = (.ok a', d₁') → a' = a ∧ d₁.SameGraph d₁'

/-- Returning a value changes nothing. -/
lemma Parallel.pure (a : α) : (pure a : Edit α).Parallel (pure a) := by
  intro d d' d₁ d₁' b b' hd h h'
  obtain ⟨rfl, rfl⟩ := apply_pure_eq_ok.mp h
  obtain ⟨rfl, rfl⟩ := apply_pure_eq_ok.mp h'
  exact ⟨rfl, hd⟩

/-- Asking changes nothing. -/
lemma Parallel.ask {q : Definition → Except Fault α}
    (hq : ∀ d d' a a', d.SameGraph d' → q d = .ok a → q d' = .ok a' → a' = a) :
    (ask q).Parallel (ask q) := by
  intro d d' d₁ d₁' a a' hd h h'
  rw [apply_ask, Prod.mk.injEq] at h h'
  obtain ⟨ha, rfl⟩ := h
  obtain ⟨ha', rfl⟩ := h'
  exact ⟨hq d d' a a' hd ha ha', hd⟩

/-- Sequences of edits run in parallel when their parts do. -/
lemma Parallel.bind {e e' : Edit α} {f f' : α → Edit β} (he : e.Parallel e')
    (hf : ∀ a, (f a).Parallel (f' a)) : (e >>= f).Parallel (e' >>= f') := by
  intro d d' d₁ d₁' b b' hd h h'
  obtain ⟨a, d₂, hfirst, hrest⟩ := apply_bind_eq_ok.mp h
  obtain ⟨a', d₂', hfirst', hrest'⟩ := apply_bind_eq_ok.mp h'
  obtain ⟨rfl, hd₂⟩ := he hd hfirst hfirst'
  exact hf a' hd₂ hrest hrest'

/-- The same literal gets the same slot. -/
lemma parallel_constant (v : Binary64) : (constant v).Parallel (constant v) := by
  intro d d' d₁ d₁' r r' hd h h'
  obtain ⟨slot, pool, hintern, rfl, rfl⟩ := apply_constant_eq_ok.mp h
  obtain ⟨slot', pool', hintern', rfl, rfl⟩ := apply_constant_eq_ok.mp h'
  rw [hd.constants, hintern] at hintern'
  obtain ⟨rfl, rfl⟩ := Prod.mk.inj (Except.ok.inj hintern')
  exact ⟨rfl, hd.withConstants pool⟩

/-- The same name gets the same index, whatever the default is. -/
lemma parallel_declare (name : String) (v v' : Binary64) (rate : String) :
    (declare name v rate).Parallel (declare name v' rate) := by
  intro d d' d₁ d₁' index index' hd h h'
  obtain ⟨table, hdeclare, rfl⟩ := apply_declare_eq_ok.mp h
  obtain ⟨table', hdeclare', rfl⟩ := apply_declare_eq_ok.mp h'
  obtain ⟨-, r, x, hrate, -, -, -, -, rfl, rfl⟩ := ParameterTable.declare_eq_ok_iff.mp hdeclare
  obtain ⟨-, r', x', hrate', -, -, -, -, rfl, rfl⟩ := ParameterTable.declare_eq_ok_iff.mp hdeclare'
  obtain rfl := Option.some.inj (hrate.symm.trans hrate')
  -- The index is the size of the table, which the defaults in it have no part in.
  have hsize := hd.parameters.length_eq
  rw [ParameterTable.length_toList, ParameterTable.length_toList] at hsize
  exact ⟨hsize.symm, hd.push name x x' r⟩

/-- The same node gets the same index. -/
lemma parallel_node (className : String) (rate : Int) (inputs : List Reference)
    (outputs special : Int) :
    (node className rate inputs outputs special).Parallel
      (node className rate inputs outputs special) := by
  intro d d' d₁ d₁' index index' hd h h'
  obtain ⟨n, hn, rfl, rfl⟩ := apply_node_eq_ok.mp h
  obtain ⟨n', hn', rfl, rfl⟩ := apply_node_eq_ok.mp h'
  obtain ⟨-, -, -, -, r, hr, rfl⟩ := Definition.newNode_eq_ok_iff.mp hn
  obtain ⟨-, -, -, -, r', hr', rfl⟩ := Definition.newNode_eq_ok_iff.mp hn'
  obtain rfl := Option.some.inj (hr.symm.trans hr')
  exact ⟨by rw [hd.nodes], hd.append _⟩

/-- An output is referred to by its place. -/
lemma parallel_reference (index slot : Int) :
    (ask fun d => d.reference index slot).Parallel (ask fun d => d.reference index slot) := by
  refine .ask fun d d' r r' _ h h' => ?_
  obtain ⟨n, k, _, hn, hk, -, -, rfl⟩ := Definition.reference_eq_ok_iff.mp h
  obtain ⟨n', k', _, hn', hk', -, -, rfl⟩ := Definition.reference_eq_ok_iff.mp h'
  rw [← hn, ← hk, ← hn', ← hk']

/-- The same unit gets the same output. -/
lemma parallel_unit (className : String) (rate : Int) (inputs : List Reference) (special : Int) :
    (unit className rate inputs special).Parallel (unit className rate inputs special) :=
  (parallel_node _ _ _ _ _).bind fun index => parallel_reference index 0

/-- The same arithmetic node gets the same output. -/
lemma parallel_binary (op : BinaryOperator) (rate : Int) (left right : Reference) :
    (binary op rate left right).Parallel (binary op rate left right) :=
  parallel_unit _ _ _ _

/-- The control nodes of runs that differ in the defaults of their parameters are the same. -/
lemma parallel_controlNodes {rs rs' : List (ParameterRate × List Parameter)}
    (h : List.Forall₂ SameRun rs rs') : (controlNodes rs).Parallel (controlNodes rs') := by
  induction h with
  | nil => exact .pure []
  | @cons r r' rs rs' hrun _ ih =>
    refine Parallel.bind ?_ fun index => ih.bind fun indices => .pure (index :: indices)
    intro d d' d₁ d₁' index index' hd h h'
    rw [apply_controlNode] at h h'
    split at h
    case isFalse => cases h
    split at h'
    case isFalse => cases h'
    obtain ⟨hindex, rfl⟩ := Prod.mk.inj h
    obtain ⟨hindex', rfl⟩ := Prod.mk.inj h'
    rw [← Except.ok.inj hindex, ← Except.ok.inj hindex', hd.nodes]
    exact ⟨rfl, hrun.expose hd⟩

/-- The control nodes of definitions with the same graph are the same. -/
lemma parallel_controls : controls.Parallel controls := by
  intro d d' d₁ d₁' indices indices' hd h h'
  cases hsealed : d.parameters.isSealed with
  | true =>
    rw [apply_controls_of_isSealed hsealed] at h
    cases h
  | false =>
    rw [apply_controls_of_not_isSealed hsealed] at h
    rw [apply_controls_of_not_isSealed (hd.isSealed.trans hsealed)] at h'
    exact parallel_controlNodes (sameRun_runs hd.parameters) hd.close h h'

end Edit

end SynthGraph
