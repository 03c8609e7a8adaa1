import Mathlib.Data.List.Forall2
import SynthGraph.Proofs.Graph.Growth

/-!
# Parameters are bound to their absolute index

A control node carries the absolute index of its first parameter, and its outputs are the parameters
from there on.  The file follows the indices through the runs of a table to the bindings of a
definition: as soon as the control nodes are there, every parameter is bound to the output that
stands for its index, and nothing that happens later changes a binding or adds a parameter.
-/

namespace SynthGraph

/-- Related elements are mapped to the same when their relation says so. -/
lemma map_eq_map_of_forall₂ {α β γ : Type} {R : α → β → Prop} {f : α → γ} {f' : β → γ}
    {xs : List α} {ys : List β} (h : List.Forall₂ R xs ys) (hf : ∀ x y, R x y → f x = f' y) :
    xs.map f = ys.map f' := by
  rw [← List.forall₂_eq_eq_eq, List.forall₂_map_left_iff, List.forall₂_map_right_iff]
  exact h.imp hf

/-! ### Consecutive indices -/

/-- The indices of the parameters count up from `k`. -/
def NumberedFrom (k : Nat) (ps : List Parameter) : Prop :=
  ps.map Parameter.index = List.range' k ps.length

/-- Two stretches of parameters are numbered when the second one goes on where the first one
ends. -/
lemma numberedFrom_append {k : Nat} {ps qs : List Parameter} :
    NumberedFrom k (ps ++ qs) ↔ NumberedFrom k ps ∧ NumberedFrom (k + ps.length) qs := by
  unfold NumberedFrom
  rw [List.map_append, List.length_append, ← List.range'_append_1]
  constructor
  · intro h
    exact List.append_inj h (by simp)
  · rintro ⟨hps, hqs⟩
    rw [hps, hqs]

/-- The parameter at a position of a numbered list. -/
lemma NumberedFrom.index_eq {k i : Nat} {ps : List Parameter} (h : NumberedFrom k ps)
    (hi : i < ps.length) : ps[i].index = k + i := by
  have hindex : (ps.map Parameter.index)[i]? = some (ps[i].index) := by simp [hi]
  rw [h, List.getElem?_range' hi] at hindex
  simpa using (Option.some.inj hindex).symm

/-- A run is numbered from the index of its first parameter. -/
lemma NumberedFrom.firstIndex_eq {k : Nat} {run : List Parameter} (h : NumberedFrom k run)
    (hne : run ≠ []) : firstIndex run = k := by
  have hpos := List.length_pos_iff.mpr hne
  have hhead := h.index_eq hpos
  rw [firstIndex, List.head?_eq_getElem?, List.getElem?_eq_getElem hpos]
  simpa using hhead

/-- A well-formed table is numbered from zero. -/
lemma ParameterTable.WellFormed.numberedFrom {t : ParameterTable} (h : t.WellFormed) :
    NumberedFrom 0 t.toList := by
  rw [NumberedFrom, h.index, List.range_eq_range', ParameterTable.length_toList]

namespace Definition

variable {d d' : Definition}

/-! ### Bindings -/

/-- A binding shows a parameter: it has the name of the parameter, and refers to the output that
stands for its index on a control node of its class. -/
def Binds (d : Definition) (b : String × Reference) (p : Parameter) : Prop :=
  b.1 = p.name ∧ ∃ (n slot : Nat) (source : Node), b.2 = ⟨n, slot⟩ ∧ d.nodes[n]? = some source ∧
    slot < source.outputs.length ∧ source.special + slot = p.index ∧
    source.className = p.rate.nodeClass ∧ source.rate = p.rate.nodeRate

/-- A binding shows its parameter in every extension. -/
lemma Binds.mono {b : String × Reference} {p : Parameter} (hb : d.Binds b p) (h : d.Extends d') :
    d'.Binds b p := by
  obtain ⟨hname, n, slot, source, href, hsource, hrest⟩ := hb
  exact ⟨hname, n, slot, source, href, h.getElem?_nodes hsource, hrest⟩

/-- The bindings of a new control node show the parameters of its run. -/
lemma binds_expose {r : ParameterRate × List Parameter} {k : Nat} (hne : r.2 ≠ [])
    (hrate : ∀ p ∈ r.2, p.rate = r.1) (hnumbered : NumberedFrom k r.2) :
    List.Forall₂ (d.expose r).Binds (Edit.runBindings d.nodes.size r.2) r.2 := by
  rw [List.forall₂_iff_get]
  refine ⟨by simp [Edit.runBindings], fun i hi hi' => ?_⟩
  have hfirst := hnumbered.firstIndex_eq hne
  have hindex := hnumbered.index_eq hi'
  have hrate' := hrate _ (List.getElem_mem hi')
  refine ⟨by simp [Edit.runBindings], d.nodes.size, i, exposingNode r, by simp [Edit.runBindings],
    by simp [expose, append], by simpa [exposingNode] using hi', ?_, ?_, ?_⟩
  · simp only [exposingNode, hfirst, List.get_eq_getElem, hindex]
    omega
  · simp [exposingNode, hrate']
  · simp [exposingNode, hrate']

/-- The bindings after exposing runs are those before and those of the runs, which show the
parameters of the runs. -/
lemma binds_foldl_expose {rs : List (ParameterRate × List Parameter)} {k : Nat}
    {shown : List Parameter} (hne : ∀ r ∈ rs, r.2 ≠ []) (hrate : ∀ r ∈ rs, ∀ p ∈ r.2, p.rate = r.1)
    (hnumbered : NumberedFrom k (rs.flatMap Prod.snd))
    (hshown : List.Forall₂ d.Binds d.bindings shown) :
    List.Forall₂ (rs.foldl expose d).Binds (rs.foldl expose d).bindings
      (shown ++ rs.flatMap Prod.snd) := by
  induction rs generalizing d k shown with
  | nil => simpa using hshown
  | cons r rs ih =>
    rw [List.forall_mem_cons] at hne hrate
    rw [List.flatMap_cons, numberedFrom_append] at hnumbered
    have hold : List.Forall₂ (d.expose r).Binds d.bindings shown :=
      hshown.imp fun b p hb => hb.mono (extends_expose d r)
    have hnew := binds_expose (d := d) hne.1 hrate.1 hnumbered.1
    have hall := List.rel_append hold hnew
    have hrest := ih hne.2 hrate.2 hnumbered.2 hall
    rwa [List.flatMap_cons, ← List.append_assoc]

/-! ### Bindings of a reachable definition -/

/-- The bindings of a definition show its first parameters, and there are none before the control
nodes are there. -/
structure WellBound (d : Definition) : Prop where
  table : d.parameters.WellFormed
  pending : d.parameters.isSealed = false → d.bindings = []
  shown : ∃ shown, shown <+: d.parameters.toList ∧ List.Forall₂ d.Binds d.bindings shown

/-- Bindings stay when a definition grows without changing them or its parameters. -/
lemma WellBound.mono (hd : d.WellBound) (h : d.Extends d')
    (hparameters : d'.parameters = d.parameters) (hbindings : d'.bindings = d.bindings) :
    d'.WellBound := by
  obtain ⟨shown, hprefix, hshown⟩ := hd.shown
  refine ⟨hparameters ▸ hd.table, ?_, shown, hparameters ▸ hprefix, ?_⟩
  · rw [hparameters, hbindings]
    exact hd.pending
  · rw [hbindings]
    exact hshown.imp fun b p hb => hb.mono h

/-- Closing the table and exposing its first runs binds the parameters of those runs. -/
lemma WellBound.binds_exposeAll {exposed rest : List (ParameterRate × List Parameter)}
    (hd : d.WellBound) (hopen : d.parameters.isSealed = false)
    (hruns : AreRuns (exposed ++ rest) d.parameters.toList) :
    List.Forall₂ (d.exposeAll exposed).Binds (d.exposeAll exposed).bindings
      (exposed.flatMap Prod.snd) := by
  have hnumbered := hd.table.numberedFrom
  rw [← hruns.flatMap, List.flatMap_append, numberedFrom_append] at hnumbered
  have hnone : List.Forall₂ (Binds { d with parameters := d.parameters.close }) d.bindings [] := by
    rw [hd.pending hopen]
    exact .nil
  have hne : ∀ r ∈ exposed, r.2 ≠ [] := fun r hr => hruns.ne_nil r (List.mem_append_left _ hr)
  have hrate : ∀ r ∈ exposed, ∀ p ∈ r.2, p.rate = r.1 := fun r hr =>
    hruns.rate r (List.mem_append_left _ hr)
  exact binds_foldl_expose hne hrate hnumbered.1 hnone

/-- Closing the table and exposing all of its runs binds all parameters. -/
lemma WellBound.binds_exposeAll_runs (hd : d.WellBound) (hopen : d.parameters.isSealed = false) :
    List.Forall₂ (d.exposeAll (Edit.runs d.parameters.toList)).Binds
      (d.exposeAll (Edit.runs d.parameters.toList)).bindings d.parameters.toList := by
  have hruns := areRuns_runs d.parameters.toList
  have hall : AreRuns (Edit.runs d.parameters.toList ++ []) d.parameters.toList := by
    rwa [List.append_nil]
  have hbound := hd.binds_exposeAll hopen hall
  rwa [hruns.flatMap] at hbound

/-- Every elementary step keeps the bindings in order. -/
lemma WellBound.step (h : Step d d') (hd : d.WellBound) : d'.WellBound := by
  have hextends := h.extends
  cases h with
  | constant => exact hd.mono hextends rfl rfl
  | node => exact hd.mono hextends rfl rfl
  | declare hdeclare =>
    obtain ⟨-, r, x, -, hopen, -, -, -, -, -⟩ := ParameterTable.declare_eq_ok_iff.mp hdeclare
    have hnone : d.bindings = [] := hd.pending hopen
    exact ⟨hd.table.declare hdeclare, fun _ => hnone, [], List.nil_prefix, hnone ▸ .nil⟩
  | @controls exposed rest hopen hruns =>
    have hareRuns : AreRuns (exposed ++ rest) d.parameters.toList :=
      hruns ▸ areRuns_runs d.parameters.toList
    have hclosed := parameters_exposeAll exposed d
    have hprefix : exposed.flatMap Prod.snd <+: d.parameters.toList := by
      rw [← hareRuns.flatMap, List.flatMap_append]
      exact List.prefix_append _ _
    refine ⟨?_, ?_, _, ?_, hd.binds_exposeAll hopen hareRuns⟩
    · rw [hclosed]
      exact hd.table.close
    · rw [hclosed]
      intro hcontra
      cases hcontra
    · rw [hclosed]
      exact hprefix

/-- A new definition has neither parameters nor bindings. -/
lemma wellBound_of_new {name : String} (h : Definition.new name = .ok d) : d.WellBound := by
  obtain ⟨-, rfl⟩ := new_eq_ok_iff.mp h
  exact ⟨ParameterTable.wellFormed_empty, fun _ => rfl, [], List.nil_prefix, .nil⟩

/-- The bindings of a reachable definition show its first parameters. -/
theorem Reachable.wellBound (h : d.Reachable) : d.WellBound :=
  h.of_step wellBound_of_new WellBound.step

/-! ### After the control nodes -/

/-- Once the table is closed, no step changes the parameters or the bindings. -/
lemma Steps.frozen (hsealed : d.parameters.isSealed = true) (h : Steps d d') :
    d'.parameters = d.parameters ∧ d'.bindings = d.bindings := by
  induction h with
  | refl => exact ⟨rfl, rfl⟩
  | tail _ hlast ih =>
    cases hlast with
    | constant => exact ih
    | node => exact ih
    | declare hdeclare =>
      obtain ⟨-, r, x, -, hopen, -⟩ := ParameterTable.declare_eq_ok_iff.mp hdeclare
      rw [ih.1, hsealed] at hopen
      cases hopen
    | controls hopen =>
      rw [ih.1, hsealed] at hopen
      cases hopen

/-- Operations are steps. -/
lemma steps_run (d : Definition) (ops : List Operation) : Steps d (d.run ops) := by
  induction ops generalizing d with
  | nil => exact .refl
  | cons op ops ih => exact (op.makesSteps d).trans (ih _)

/-- When the bindings show all parameters, a name that is bound refers to the output that it is
bound to. -/
lemma parameterReference_of_mem (htable : d.parameters.WellFormed)
    (hbound : List.Forall₂ d.Binds d.bindings d.parameters.toList) {b : String × Reference}
    (hb : b ∈ d.bindings) :
    ∃ p ∈ d.parameters.toList, d.Binds b p ∧ d.parameterReference b.1 = .ok b.2 := by
  have hnames : d.bindings.map Prod.fst = d.parameters.toList.map Parameter.name := by
    exact map_eq_map_of_forall₂ hbound fun b q hb => hb.1
  obtain ⟨i, hi, rfl⟩ := List.getElem_of_mem hb
  have hi' : i < d.parameters.toList.length := hbound.length_eq ▸ hi
  have hbinds : d.Binds d.bindings[i] d.parameters.toList[i] := hbound.get hi hi'
  have hnodup : (d.bindings.map Prod.fst).Nodup := hnames ▸ htable.nodup
  have hfound := find?_of_nodup_map hnodup hb
  refine ⟨_, List.getElem_mem hi', hbinds, ?_⟩
  unfold parameterReference ParameterTable.get binding?
  rw [hfound, hbinds.1, htable.find?_name (List.getElem_mem hi')]
  rfl

/-- When the bindings show all parameters, the reference to a parameter is the one of its
binding. -/
lemma parameterReference_of_binds (htable : d.parameters.WellFormed)
    (hbound : List.Forall₂ d.Binds d.bindings d.parameters.toList) {p : Parameter}
    (hp : p ∈ d.parameters.toList) :
    ∃ r, d.parameterReference p.name = .ok r ∧ (p.name, r) ∈ d.bindings ∧
      d.Binds (p.name, r) p := by
  obtain ⟨i, hi, rfl⟩ := List.getElem_of_mem hp
  have hi' : i < d.bindings.length := hbound.length_eq ▸ hi
  have hbinds : d.Binds d.bindings[i] d.parameters.toList[i] := hbound.get hi' hi
  obtain ⟨-, -, -, href⟩ := parameterReference_of_mem htable hbound (List.getElem_mem hi')
  rw [← hbinds.1]
  exact ⟨_, href, List.getElem_mem hi', hbinds⟩

/-! ### Outputs of control nodes -/

/-- Every output of every node is bound to a name. -/
def OutputsBound (d : Definition) : Prop :=
  ∀ (i slot : Nat) n, d.nodes[i]? = some n → slot < n.outputs.length →
    ∃ name, (name, ⟨i, slot⟩) ∈ d.bindings

/-- The outputs of a new control node are bound. -/
lemma OutputsBound.expose (h : d.OutputsBound) (r : ParameterRate × List Parameter) :
    (d.expose r).OutputsBound := by
  intro i slot n hn hslot
  rw [Definition.expose, append, Array.getElem?_push] at hn
  split at hn
  case isTrue hi =>
    obtain rfl := Option.some.inj hn
    have hslot' : slot < r.2.length := by simpa [exposingNode] using hslot
    refine ⟨r.2[slot].name, List.mem_append_right _ ?_⟩
    simp only [Edit.runBindings, hi, List.mem_map]
    exact ⟨(r.2[slot], slot), List.mk_mem_zipIdx_iff_getElem?.mpr
      (List.getElem?_eq_getElem hslot'), rfl⟩
  case isFalse =>
    obtain ⟨name, hname⟩ := h i slot n hn hslot
    exact ⟨name, List.mem_append_left _ hname⟩

/-- The outputs of new control nodes are bound. -/
lemma OutputsBound.foldl_expose (rs : List (ParameterRate × List Parameter))
    (h : d.OutputsBound) : (rs.foldl Definition.expose d).OutputsBound := by
  induction rs generalizing d with
  | nil => exact h
  | cons r rs ih => exact ih (h.expose r)

end Definition

end SynthGraph
