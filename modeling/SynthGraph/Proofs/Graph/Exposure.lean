import Mathlib.Data.List.Chain
import SynthGraph.Proofs.Graph.Edit

/-!
# Exposing parameters

The control nodes of a definition.  The parameters are cut into maximal runs of one rate, and each
run is exposed by one node that has an output for each of its parameters.  The file gives the
properties of the cut, the definition that a control node leaves behind, and what becomes of a
definition whose parameters are exposed, whether all of the control nodes could be appended or only
some of them.
-/

namespace SynthGraph

/-! ### Runs of parameters -/

/-- The runs `rs` are the parameters `ps`, cut wherever the rate changes. -/
structure AreRuns (rs : List (ParameterRate × List Parameter)) (ps : List Parameter) : Prop where
  /-- The runs put together are the parameters in their order. -/
  flatMap : rs.flatMap Prod.snd = ps
  /-- No run is empty. -/
  ne_nil : ∀ r ∈ rs, r.2 ≠ []
  /-- All parameters of a run have its rate. -/
  rate : ∀ r ∈ rs, ∀ p ∈ r.2, p.rate = r.1
  /-- Neighbouring runs differ in their rate. -/
  differ : rs.IsChain fun r s => r.1 ≠ s.1

/-- The runs that a definition exposes are cut wherever the rate changes. -/
lemma areRuns_runs (ps : List Parameter) : AreRuns (Edit.runs ps) ps := by
  induction ps with
  | nil => exact ⟨rfl, by simp [Edit.runs], by simp [Edit.runs], .nil⟩
  | cons p ps ih =>
    rw [Edit.runs]
    cases hruns : Edit.runs ps with
    | nil =>
      have hps : ps = [] := by rw [← ih.flatMap, hruns]; rfl
      exact ⟨by simp [hps], by simp, by simp, .singleton _⟩
    | cons first rest =>
      obtain ⟨rate, run⟩ := first
      obtain ⟨hflat, hnil, hrate, hdiffer⟩ := hruns ▸ ih
      rw [List.forall_mem_cons] at hnil hrate
      dsimp only
      split
      case isTrue heq =>
        subst heq
        refine ⟨by simpa using hflat, ?_, ?_, ?_⟩
        · exact List.forall_mem_cons.mpr ⟨List.cons_ne_nil _ _, hnil.2⟩
        · refine List.forall_mem_cons.mpr ⟨?_, hrate.2⟩
          exact List.forall_mem_cons.mpr ⟨rfl, hrate.1⟩
        · rw [List.isChain_cons] at hdiffer ⊢
          exact hdiffer
      case isFalse hne =>
        refine ⟨by simpa using hflat, ?_, ?_, ?_⟩
        · exact List.forall_mem_cons.mpr ⟨List.cons_ne_nil _ _, List.forall_mem_cons.mpr hnil⟩
        · exact List.forall_mem_cons.mpr ⟨by simp, List.forall_mem_cons.mpr hrate⟩
        · exact List.isChain_cons_cons.mpr ⟨fun h => hne h.symm, hdiffer⟩

/-- A run begins with a parameter of its rate. -/
lemma AreRuns.exists_mem_of_cons {rs : List (ParameterRate × List Parameter)}
    {r : ParameterRate × List Parameter} {ps : List Parameter} (h : AreRuns (r :: rs) ps) :
    ∃ p ∈ ps, p.rate = r.1 := by
  obtain ⟨p, run, hrun⟩ := List.exists_cons_of_ne_nil (h.ne_nil r List.mem_cons_self)
  have hp : p ∈ r.2 := by simp [hrun]
  refine ⟨p, ?_, h.rate r List.mem_cons_self p hp⟩
  rw [← h.flatMap, List.flatMap_cons]
  exact List.mem_append_left _ hp

/-- Parameters of one rate that are followed by none of that rate are one run. -/
lemma runs_append_of_rate {rate : ParameterRate} {run rest : List Parameter} (hne : run ≠ [])
    (hrun : ∀ p ∈ run, p.rate = rate) (hrest : ∀ p ∈ rest, p.rate ≠ rate) :
    Edit.runs (run ++ rest) = (rate, run) :: Edit.runs rest := by
  induction run with
  | nil => exact absurd rfl hne
  | cons p run ih =>
    rw [List.forall_mem_cons] at hrun
    rw [List.cons_append, Edit.runs]
    cases run with
    | nil =>
      rw [List.nil_append]
      have hruns := areRuns_runs rest
      cases hlater : Edit.runs rest with
      | nil => rw [← hrun.1]
      | cons r rs =>
        rw [hlater] at hruns
        obtain ⟨q, hq, hrate⟩ := hruns.exists_mem_of_cons
        have hdiffer : r.1 ≠ p.rate := by
          rw [hrun.1, ← hrate]
          exact hrest q hq
        dsimp only
        rw [if_neg hdiffer, hrun.1]
    | cons q run =>
      rw [ih (List.cons_ne_nil q run) hrun.2]
      dsimp only
      rw [if_pos hrun.1.symm]

/-- The index of the first parameter of a run. -/
def firstIndex (run : List Parameter) : Nat := (run.head?.map Parameter.index).getD 0

/-! ### Control nodes -/

/-- The control node of a run. -/
def exposingNode (r : ParameterRate × List Parameter) : Node :=
  ⟨r.1.nodeClass, r.1.nodeRate, [], List.replicate r.2.length r.1.nodeRate, firstIndex r.2⟩

/-- The definition with the control node of one more run. -/
def Definition.expose (d : Definition) (r : ParameterRate × List Parameter) : Definition :=
  { d.append (exposingNode r) with bindings := d.bindings ++ Edit.runBindings d.nodes.size r.2 }

/-- The definition with its table closed and the control nodes of some runs. -/
def Definition.exposeAll (d : Definition) (rs : List (ParameterRate × List Parameter)) :
    Definition :=
  rs.foldl Definition.expose { d with parameters := d.parameters.close }

/-- Exposing runs keeps the name, the literals and the parameters, and appends the control nodes of
the runs. -/
lemma Definition.foldl_expose_frame (rs : List (ParameterRate × List Parameter)) (d : Definition) :
    (rs.foldl expose d).name = d.name ∧ (rs.foldl expose d).constants = d.constants ∧
      (rs.foldl expose d).parameters = d.parameters ∧
      (rs.foldl expose d).nodes.toList = d.nodes.toList ++ rs.map exposingNode := by
  induction rs generalizing d with
  | nil => simp
  | cons r rs ih =>
    obtain ⟨hname, hconstants, hparameters, hnodes⟩ := ih (d.expose r)
    refine ⟨hname, hconstants, hparameters, ?_⟩
    rw [List.foldl_cons, hnodes]
    simp [expose, append]

/-- Closing the table and exposing runs leaves the closed table. -/
lemma Definition.parameters_exposeAll (rs : List (ParameterRate × List Parameter))
    (d : Definition) : (d.exposeAll rs).parameters = d.parameters.close :=
  (foldl_expose_frame rs _).2.2.1

/-- Closing the table and exposing runs appends the control nodes of the runs. -/
lemma Definition.nodes_exposeAll (rs : List (ParameterRate × List Parameter)) (d : Definition) :
    (d.exposeAll rs).nodes.toList = d.nodes.toList ++ rs.map exposingNode :=
  (foldl_expose_frame rs _).2.2.2

/-- The classes of control nodes are short names. -/
lemma isShortName_nodeClass (rate : ParameterRate) : IsShortName rate.nodeClass := by
  cases rate <;> decide

/-- The control node of a run is accepted unless its special index has more than sixteen bits. -/
lemma newNode_exposing (r : ParameterRate × List Parameter) (d : Definition) :
    d.newNode r.1.nodeClass r.1.nodeRate.code [] r.2.length (firstIndex r.2) =
      if Edit.specialFits (firstIndex r.2) then .ok (exposingNode r)
      else .error (.specialRange r.1.nodeClass (firstIndex r.2)) := by
  have hname := shortName_eq_ok_iff.mpr ⟨isShortName_nodeClass r.1, rfl⟩
  split
  case isTrue hfits =>
    refine Definition.newNode_eq_ok_iff.mpr
      ⟨isShortName_nodeClass r.1, by omega, hfits, by simp, ?_⟩
    exact ⟨_, Rate.ofCode?_code _, by simp [exposingNode]⟩
  case isFalse hfits =>
    have houtputs : ¬ (r.2.length : Int) < 0 := by omega
    simp only [Definition.newNode, hname, houtputs, hfits]
    rfl

namespace Edit

variable {d : Definition}

/-- A control node is appended unless the index of its first parameter has more than sixteen
bits. -/
lemma apply_controlNode (r : ParameterRate × List Parameter) (d : Definition) :
    (controlNode r.1 r.2).apply d =
      if specialFits (firstIndex r.2) then (.ok d.nodes.size, d.expose r)
      else (.error (.specialRange r.1.nodeClass (firstIndex r.2)), d) := by
  have hrun : (controlNode r.1 r.2).apply d =
      (node r.1.nodeClass r.1.nodeRate.code [] r.2.length (firstIndex r.2) >>= fun index => do
        modify fun d => { d with bindings := d.bindings ++ runBindings index r.2 }
        return index).apply d := rfl
  rw [hrun, apply_bind, apply_node, newNode_exposing]
  by_cases hfits : specialFits (firstIndex r.2) = true
  · rw [if_pos hfits, if_pos hfits]
    rfl
  · rw [if_neg hfits, if_neg hfits]

/-- Control nodes are appended up to the first run whose special index has more than sixteen
bits. -/
lemma apply_controlNodes (rs : List (ParameterRate × List Parameter)) (d : Definition) :
    ∃ exposed rest, rs = exposed ++ rest ∧ (∀ r ∈ exposed, specialFits (firstIndex r.2) = true) ∧
      ((controlNodes rs).apply d).2 = exposed.foldl Definition.expose d := by
  induction rs generalizing d with
  | nil => exact ⟨[], [], rfl, by simp, rfl⟩
  | cons r rs ih =>
    by_cases hfits : specialFits (firstIndex r.2) = true
    · obtain ⟨exposed, rest, rfl, hexposed, hafter⟩ := ih (d.expose r)
      refine ⟨r :: exposed, rest, rfl, List.forall_mem_cons.mpr ⟨hfits, hexposed⟩, ?_⟩
      have hnode := apply_controlNode r d
      rw [if_pos hfits] at hnode
      rw [controlNodes, apply_bind_of_eq_ok hnode, apply_bind, List.foldl_cons, ← hafter]
      rcases (controlNodes (exposed ++ rest)).apply (d.expose r) with ⟨_ | indices, d'⟩ <;> rfl
    · have hnode := apply_controlNode r d
      rw [if_neg hfits] at hnode
      refine ⟨[], r :: rs, rfl, by simp, ?_⟩
      rw [controlNodes, apply_bind, hnode]
      rfl

/-- When all special indices have sixteen bits, every run gets its control node. -/
lemma apply_controlNodes_of_fits {rs : List (ParameterRate × List Parameter)}
    (hfits : ∀ r ∈ rs, specialFits (firstIndex r.2) = true) (d : Definition) :
    (controlNodes rs).apply d =
      (.ok (List.range' d.nodes.size rs.length), rs.foldl Definition.expose d) := by
  induction rs generalizing d with
  | nil => rfl
  | cons r rs ih =>
    rw [List.forall_mem_cons] at hfits
    have hnode := apply_controlNode r d
    rw [if_pos hfits.1] at hnode
    rw [controlNodes, apply_bind_of_eq_ok hnode, apply_bind_of_eq_ok (ih hfits.2 _)]
    simp [Definition.expose, Definition.append, List.range'_succ]

/-- When control nodes are appended without a fault, every run has got its own. -/
lemma apply_controlNodes_eq_ok {rs : List (ParameterRate × List Parameter)} {d' : Definition}
    {indices : List Nat} (h : (controlNodes rs).apply d = (.ok indices, d')) :
    d' = rs.foldl Definition.expose d := by
  induction rs generalizing d d' indices with
  | nil => exact (apply_pure_eq_ok.mp h).2.symm
  | cons r rs ih =>
    rw [controlNodes] at h
    obtain ⟨index, d₁, hnode, hlater⟩ := apply_bind_eq_ok.mp h
    obtain ⟨rest, d₂, hrest, hlast⟩ := apply_bind_eq_ok.mp hlater
    obtain ⟨-, rfl⟩ := apply_pure_eq_ok.mp hlast
    rw [apply_controlNode] at hnode
    split at hnode
    case isTrue =>
      obtain ⟨-, rfl⟩ := Prod.mk.inj hnode
      exact ih hrest
    case isFalse => cases hnode

/-- The control nodes are emitted at most once. -/
lemma apply_controls_of_isSealed (hsealed : d.parameters.isSealed = true) :
    controls.apply d = (.error (.controlsEmitted d.name), d) := by
  rw [controls, apply_bind, apply_get]
  simp [hsealed]

/-- Emitting the control nodes closes the table and exposes as many runs as possible. -/
lemma apply_controls_of_not_isSealed (hopen : d.parameters.isSealed = false) :
    controls.apply d =
      (controlNodes (runs d.parameters.toList)).apply
        { d with parameters := d.parameters.close } := by
  rw [controls, apply_bind, apply_get]
  simp [hopen, apply_bind]

end Edit

end SynthGraph
