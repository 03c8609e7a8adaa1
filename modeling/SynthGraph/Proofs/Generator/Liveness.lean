import SynthGraph.Proofs.Generator.Contribution
import SynthGraph.Proofs.Generator.Exposed

/-!
# A built generator has no dead parts

Along the stages of the wiring it is known how many nodes there are and which references no node
reads yet: at first the three literals and the outputs of the control nodes, then what the
parameters contribute instead of the outputs that belong to them, then the unit generator, and
behind the output stage none.  Everything in a built definition is therefore read, and following
inputs back from its last node leads to everything.
-/

namespace SynthGraph

-- Powers are those of the core library, also where a larger library brings its own.
attribute [local instance (2000)] instPowNat

open Definition

variable {g : GeneratorSpec} {d d' : Definition} {p : ParamSpec} {ps : List ParamSpec}
  {names : List String} {rs : List Reference} {signal r : Reference} {nodes : List Node}
  {count : Nat} {c : UnitConstants}

/-! ### What the parameters contribute -/

/-- The names that belong to a parameter: its own, and that of its modulation. -/
def ParamSpec.ownNames (p : ParamSpec) : List String := p.name :: p.modName.toList

/-- The names of a generator belong to its parameters, except for those of the output stage. -/
lemma GeneratorSpec.mem_parameterNames {name : String} (h : name ∈ g.parameterNames) :
    name ∈ g.params.flatMap ParamSpec.ownNames ++ [panName, outBusName] := by
  simp only [parameterNames, ParamSpec.ownNames, List.mem_append, List.mem_map, List.mem_filterMap,
    List.mem_flatMap, List.mem_cons, Option.mem_toList] at h ⊢
  rcases h with (⟨p, hp, rfl⟩ | hlast) | ⟨p, hp, hmod⟩
  · exact .inl ⟨p, hp, .inl rfl⟩
  · exact .inr hlast
  · exact .inl ⟨p, hp, .inr hmod⟩

/-- What holds of the reference to a parameter holds of every one. -/
lemma forall_reference {P : Reference → Prop} {name : String} {base : Reference}
    (hbase : d.parameterReference name = .ok base) (h : P base) :
    ∀ r, d.parameterReference name = .ok r → P r := by
  intro r hr
  obtain rfl := Except.ok.inj (hbase.symm.trans hr)
  exact h

/-- Adding the modulation reads the parameter and its modulation, and leaves the sum. -/
lemma Summed.pending (h : Summed d p signal nodes)
    (hd : d.Pending count (p.ownNames ++ names) rs) :
    (d.appendAll nodes).Pending (count + if p.modulated then 1 else 0) names (signal :: rs) := by
  cases h with
  | plain hmod hbase =>
    rw [ParamSpec.ownNames, hmod] at hd
    rw [appendAll_nil, ParamSpec.modulated, hmod]
    exact hd.mono (fun r hr => List.mem_cons_of_mem _ hr) (List.forall_mem_cons.mpr
      ⟨.inr (forall_reference hbase List.mem_cons_self), fun name hname => .inl hname⟩)
  | modulated hmod hbase hmodulation =>
    rw [ParamSpec.ownNames, hmod] at hd
    rw [ParamSpec.modulated, hmod]
    exact hd.append rfl (fun r hr => .inr hr) (List.forall_mem_cons.mpr
      ⟨.inr (forall_reference hbase (by simp)), List.forall_mem_cons.mpr
        ⟨.inr (forall_reference hmodulation (by simp)), fun name hname => .inl hname⟩⟩)

/-- Limiting a signal reads it and the bounds, and leaves the limited signal. -/
lemma Limited.pending {rate : Rate} {clamp : Option Clamp} {pool : ConstantPool}
    (h : Limited d.constants d.nodes.size rate signal clamp r pool nodes)
    (hd : d.Pending count names (signal :: rs)) :
    (d.extendBy pool nodes).Pending (count + if clamp.isSome then 1 else 0) names (r :: rs) := by
  cases h with
  | none =>
    rw [extendBy_nil]
    exact hd
  | floor hlow =>
    exact (hd.intern hlow).append rfl (List.forall_mem_cons.mpr
      ⟨.inl (by simp), List.forall_mem_cons.mpr ⟨.inl (by simp), fun q hq => .inr hq⟩⟩)
      fun name hname => .inl hname
  | range hlow hhigh =>
    exact ((hd.intern hlow).intern hhigh).append rfl (List.forall_mem_cons.mpr
      ⟨.inl (by simp), List.forall_mem_cons.mpr
        ⟨.inl (by simp), List.forall_mem_cons.mpr ⟨.inl (by simp), fun q hq => .inr hq⟩⟩⟩)
      fun name hname => .inl hname

namespace Definition

/-- A contribution that is appended reads what belongs to its parameter and is itself pending. -/
lemma Reachable.pending_contribution (h : d.Reachable)
    (hd : d.Pending count (p.ownNames ++ names) rs)
    (hrun : (Template.contribution p).apply d = (.ok r, d')) :
    d'.Pending (count + (if p.modulated then 1 else 0) + if p.effectiveClamp.isSome then 1 else 0)
      names (r :: rs) := by
  obtain ⟨signal, sum, pool, limit, hsum, hlimit, rfl⟩ := h.apply_contribution_eq_ok hrun
  have hsize : (d.appendAll sum).nodes.size = d.nodes.size + sum.length := by simp [appendAll]
  rw [← extendBy_appendAll]
  rw [← hsize] at hlimit
  exact hlimit.pending (hsum.pending hd)

/-- The contributions that are appended read what belongs to their parameters and are themselves
pending, unless one amplitude replaces another.  There is one node for each modulation and one for
each clamp. -/
lemma Reachable.pending_contributions (h : d.Reachable) (hamp : ps.countP (·.role == .amp) ≤ 1)
    (hd : d.Pending count (ps.flatMap ParamSpec.ownNames ++ names) rs) {core : List Reference}
    {amp : Option Reference}
    (hrun : (Template.contributions ps).apply d = (.ok (core, amp), d')) :
    d'.Pending (count + ps.countP ParamSpec.modulated + ps.countP (·.effectiveClamp.isSome)) names
        (core ++ amp.toList ++ rs) ∧
      amp.isSome = decide (0 < ps.countP (·.role == .amp)) := by
  induction ps generalizing d d' core amp rs count with
  | nil =>
    obtain ⟨hresult, rfl⟩ := Edit.apply_pure_eq_ok.mp hrun
    obtain ⟨rfl, rfl⟩ := Prod.mk.inj hresult
    exact ⟨hd, rfl⟩
  | cons p ps ih =>
    obtain ⟨signal, d₁, hfirst, hrest⟩ := Edit.apply_bind_eq_ok.mp hrun
    obtain ⟨⟨core', amp'⟩, d₂, hothers, hlast⟩ := Edit.apply_bind_eq_ok.mp hrest
    obtain ⟨hresult, rfl⟩ := Edit.apply_pure_eq_ok.mp hlast
    rw [List.flatMap_cons, List.append_assoc] at hd
    have hd₁ := h.pending_contribution hd hfirst
    have hreach₁ := ((Template.isRun_contribution p).reachable h hfirst).1
    rw [List.countP_cons] at hamp
    obtain ⟨hd₂, hsome⟩ := ih hreach₁ ((Nat.le_add_right _ _).trans hamp) hd₁ hothers
    have hcount : count + (if p.modulated then 1 else 0) +
        (if p.effectiveClamp.isSome then 1 else 0) + ps.countP ParamSpec.modulated +
        ps.countP (·.effectiveClamp.isSome) =
      count + (p :: ps).countP ParamSpec.modulated +
        (p :: ps).countP (·.effectiveClamp.isSome) := by
      rw [List.countP_cons, List.countP_cons]
      omega
    rw [hcount] at hd₂
    cases hrole : p.role with
    | core =>
      rw [hrole] at hresult
      obtain ⟨rfl, rfl⟩ := Prod.mk.inj hresult
      refine ⟨hd₂.mono ?_ fun name hname => .inl hname, by simp [hsome, hrole]⟩
      intro q hq
      simp only [List.mem_append, List.mem_cons] at hq ⊢
      tauto
    | amp =>
      rw [hrole] at hresult
      obtain ⟨rfl, rfl⟩ := Prod.mk.inj hresult
      -- A second amplitude would replace this one.
      have hnone : amp' = none := by
        have hrest : ps.countP (·.role == .amp) = 0 := by simpa [hrole] using hamp
        rw [← Option.not_isSome_iff_eq_none, hsome, decide_eq_true_eq, hrest]
        exact Nat.lt_irrefl 0
      subst hnone
      refine ⟨hd₂.mono ?_ fun name hname => .inl hname, by simp [hrole]⟩
      intro q hq
      simp only [Option.toList_none, List.append_nil, List.mem_append, List.mem_cons,
        Option.getD_none, Option.toList_some] at hq ⊢
      tauto

/-! ### The output stage -/

/-- Every output of the nodes of the output stage is read among them. -/
lemma readOrPending_outputNodes {first i slot : Nat} {pan outBus : Reference} {n : Node}
    (hn : (outputNodes first signal pan outBus c)[i]? = some n) (hslot : slot < n.outputs.length) :
    ReadOrPending (outputNodes first signal pan outBus c) [] ⟨(first + i : Nat), slot⟩ := by
  match i, slot, hn, hslot with
  | 0, 0, rfl, _ => exact readOrPending_of_mem (k := 4) rfl (by simp)
  | 0, 1, rfl, _ => exact readOrPending_of_mem (k := 5) rfl (by simp)
  | 1, 0, rfl, _ => exact readOrPending_of_mem (k := 4) rfl (by simp)
  | 2, 0, rfl, _ => exact readOrPending_of_mem (k := 5) rfl (by simp)
  | 3, 0, rfl, _ => exact readOrPending_of_mem (k := 4) rfl (by simp)
  | 4, 0, rfl, _ => exact readOrPending_of_mem (k := 6) rfl (by simp)
  | 5, 0, rfl, _ => exact readOrPending_of_mem (k := 6) rfl (by simp)
  | 6, _, rfl, hslot => exact absurd hslot (Nat.not_lt_zero _)

/-- Every node of the output stage but the last has an output. -/
lemma outputs_outputNodes {first i : Nat} {pan outBus : Reference} {n : Node}
    (hn : (outputNodes first signal pan outBus c)[i]? = some n) (hi : i < 6) :
    0 < n.outputs.length := by
  match i, hn, hi with
  | 0, rfl, _ => exact Nat.two_pos
  | 1, rfl, _ => exact Nat.one_pos
  | 2, rfl, _ => exact Nat.one_pos
  | 3, rfl, _ => exact Nat.one_pos
  | 4, rfl, _ => exact Nat.one_pos
  | 5, rfl, _ => exact Nat.one_pos

/-- When a signal, the literals, the position and the output bus are pending, the output stage reads
them all. -/
lemma ReadBut.appendAll_outputNodes {pan outBus : Reference}
    (hd : d.ReadBut [panName, outBusName] (signal :: c.references))
    (hpan : d.parameterReference panName = .ok pan)
    (houtBus : d.parameterReference outBusName = .ok outBus) :
    (d.appendAll (outputNodes d.nodes.size signal pan outBus c)).ReadBut [] [] := by
  refine hd.appendAll ?_ ?_ fun i n hn slot hslot => readOrPending_outputNodes hn hslot
  · exact List.forall_mem_cons.mpr ⟨readOrPending_of_mem (k := 0) rfl (by simp),
      forall_mem_triple (readOrPending_of_mem (k := 1) rfl (by simp))
        (readOrPending_of_mem (k := 0) rfl (by simp))
        (readOrPending_of_mem (k := 3) rfl (by simp))⟩
  · exact List.forall_mem_cons.mpr
      ⟨.inr (forall_reference hpan (readOrPending_of_mem (k := 0) rfl (by simp))),
        List.forall_mem_singleton.mpr
          (.inr (forall_reference houtBus (readOrPending_of_mem (k := 3) rfl (by simp))))⟩

/-- A definition that ends with an output stage, and in which everything is read. -/
structure Complete (d : Definition) (count : Nat) : Prop where
  count : d.nodes.size = count
  isLive : d.IsLive
  last : ∃ out, d.nodes.back? = some out ∧ out.className = "Out" ∧ out.outputs = []

/-- The output stage completes a definition in which only its inputs are pending. -/
lemma Pending.complete_outputStage {pan outBus : Reference}
    (hd : d.Pending count [panName, outBusName] (signal :: c.references))
    (hpan : d.parameterReference panName = .ok pan)
    (houtBus : d.parameterReference outBusName = .ok outBus) :
    (d.appendAll (outputNodes d.nodes.size signal pan outBus c)).Complete (count + 7) := by
  have hlast : (d.appendAll (outputNodes d.nodes.size signal pan outBus c)).nodes.back? =
      some ⟨"Out", .audio, [outBus, ⟨(d.nodes.size + 4 : Nat), 0⟩, ⟨(d.nodes.size + 5 : Nat), 0⟩],
        [], 0⟩ := by
    simp [appendAll, outputNodes]
  refine ⟨by simp [appendAll, outputNodes, hd.count], ?_, _, hlast, rfl, rfl⟩
  exact hd.isLive_appendAll (fun i n hn hi => outputs_outputNodes hn (Nat.lt_of_succ_lt_succ hi))
    (hd.reads.appendAll_outputNodes hpan houtBus)

end Definition

/-! ### The wiring -/

open Template Edit

/-- Wiring a generator whose control nodes are there leaves everything read. -/
lemma GeneratorSpec.Exposed.complete_of_apply_wiring (he : g.Exposed d c) (h : d.Reachable)
    (hamp : g.params.countP (·.role == .amp) ≤ 1) {index : Nat}
    (hrun : (wiring g c).apply d = (.ok index, d')) :
    d'.Complete (g.controlCount + g.params.countP ParamSpec.modulated +
      g.params.countP (·.effectiveClamp.isSome) + 1 +
      (if 0 < g.params.countP (·.role == .amp) then 1 else 0) + 7) := by
  obtain ⟨core, amp, d₁, source, d₂, signal, d₃, pan, outBus, hcontributions, hsource, hscaled,
    hpan, houtBus, rfl⟩ := he.apply_wiring_eq_ok h hrun
  have hd := he.pending.mono (fun r hr => hr) fun name hname =>
    .inl (GeneratorSpec.mem_parameterNames hname)
  obtain ⟨hd₁, hsome⟩ := h.pending_contributions hamp hd hcontributions
  rw [List.append_assoc] at hd₁
  have hd₂ := hd₁.unit hsource
  rcases hscaled with ⟨rfl, rfl, rfl⟩ | ⟨a, rfl, hsignal⟩
  · have hzero : ¬0 < g.params.countP (·.role == .amp) := by simpa using hsome
    rw [if_neg hzero]
    exact hd₂.complete_outputStage hpan houtBus
  · have hpos : 0 < g.params.countP (·.role == .amp) := by simpa using hsome
    rw [if_pos hpos]
    exact (hd₂.unit hsignal).complete_outputStage hpan houtBus

/-! ### The whole build -/

/-- A definition has the nodes that a generator asks for, and nothing in it is dead. -/
structure GeneratorSpec.HasNoDeadParts (g : GeneratorSpec) (d : Definition) : Prop where
  /-- Besides the control nodes there are a node for each modulation and one for each clamp, the
  unit generator, the scaling by an amplitude, and the output stage. -/
  count : d.nodes.size = g.controlCount + g.params.countP ParamSpec.modulated +
    g.params.countP (·.effectiveClamp.isSome) + 1 + (if g.amplitude?.isSome then 1 else 0) + 7
  /-- The last node writes the signal out. -/
  last : ∃ out, d.nodes.back? = some out ∧ out.className = "Out" ∧ out.outputs = []
  /-- Every other node is read by a later one, and is reached. -/
  nodes : ∀ i : Nat, i + 1 < d.nodes.size →
    (∃ (j : Nat) (m : Node), i < j ∧ d.nodes[j]? = some m ∧ ⟨i, 0⟩ ∈ m.inputs) ∧ d.Reached ⟨i, 0⟩
  /-- The first nodes are control nodes, and each of their outputs is the one of a parameter and is
  read. -/
  controls : ∀ (i : Nat) (n : Node), i < g.controlCount → d.nodes[i]? = some n →
    (n.className = "Control" ∨ n.className = "AudioControl") ∧
      ∀ slot : Nat, slot < n.outputs.length → d.Reads ⟨i, slot⟩ ∧
        ∃ p ∈ d.parameters.toList, d.parameterReference p.name = .ok ⟨i, slot⟩
  /-- Every parameter is such an output, and is read and reached. -/
  parameters : ∀ p ∈ d.parameters.toList, ∃ i slot : Nat, i < g.controlCount ∧
    d.parameterReference p.name = .ok ⟨i, slot⟩ ∧ d.Reads ⟨i, slot⟩ ∧ d.Reached ⟨i, slot⟩
  /-- Every constant is read and reached. -/
  constants : ∀ slot : Nat, slot < d.constants.size →
    d.Reads (.constant slot) ∧ d.Reached (.constant slot)

/-- A generator has an amplitude exactly when there is a parameter of that role. -/
lemma GeneratorSpec.isSome_amplitude? (g : GeneratorSpec) :
    g.amplitude?.isSome = decide (0 < g.params.countP (·.role == .amp)) := by
  rw [amplitude?, amplitudes, List.countP_eq_length_filter]
  cases g.params.filter (·.role == .amp) with
  | nil => rfl
  | cons p ps => simp

/-- Nothing in a definition is dead that has been built for a generator with at most one amplitude,
as every checked generator has: there are as many nodes as the generator asks for, and everything
else than the last of them is read, and reached from it. -/
theorem GeneratorSpec.hasNoDeadParts_of_build (hamp : g.amplitudes.length ≤ 1)
    (h : g.build = .ok d) : g.HasNoDeadParts d := by
  obtain ⟨d₀, c, d₁, indices, d₂, index, hnew, hdeclarations, hcontrols, hwiring⟩ :=
    GeneratorSpec.build_eq_ok_iff.mp h
  have hreach₁ := ((isRun_declarations g).reachable (.new hnew) hdeclarations).1
  have hreach₂ := (isRun_controls.reachable hreach₁ hcontrols).1
  obtain ⟨hreach, hextends⟩ := (isRun_wiring g c).reachable hreach₂ hwiring
  have hexposed := (apply_declarations hnew hdeclarations).exposed
    (fun slot hslot => constant_mem_references hnew hdeclarations hslot) hcontrols
  obtain ⟨hcount, hlive, hlast⟩ := hexposed.complete_of_apply_wiring hreach₂
    (by rwa [List.countP_eq_length_filter]) hwiring
  have hreached {r : Reference} (hr : d.Offers d.nodes.size r) : d.Reached r :=
    hlive.reached hreach.isDag hr
  -- The table is closed, so that the wiring does not change what its parameters refer to.
  obtain ⟨ops, hops⟩ := isRun_wiring g c d₂
  rw [hwiring] at hops
  obtain ⟨hparameters, hbindings⟩ := hops ▸ (steps_run d₂ ops).frozen hexposed.isSealed
  have href (name : String) : d.parameterReference name = d₂.parameterReference name := by
    rw [parameterReference, parameterReference, binding?, binding?, hparameters, hbindings]
  refine ⟨?_, hlast, fun i hi => ⟨hlive.exists_later hreach.isDag hi, hreached (hlive.offers hi)⟩,
    fun i n hi hn => ?_, fun p hp => ?_, fun slot hslot => ?_⟩
  · rw [hcount, g.isSome_amplitude?]
    simp only [decide_eq_true_eq]
  · rw [← hexposed.pending.count] at hi
    have hn₂ : d₂.nodes[i]? = some n := by
      have hsame := hextends.getElem?_nodes (Array.getElem?_eq_getElem hi)
      rw [Array.getElem?_eq_getElem hi, ← hsame, hn]
    obtain ⟨hclass, hcontrol⟩ := hexposed.control hn₂
    refine ⟨hclass, fun slot hslot => ⟨hlive.reads _ ?_, ?_⟩⟩
    · exact .output (Array.getElem?_eq_some_iff.mp hn).1 hn hslot
    · obtain ⟨p, hp, hslotRef⟩ := hcontrol slot hslot
      exact ⟨p, hparameters ▸ hp, (href p.name).trans hslotRef⟩
  · rw [hparameters] at hp
    obtain ⟨i, slot, n, hn, hslot, hslotRef⟩ := hexposed.parameter hp
    obtain ⟨hi, -⟩ := Array.getElem?_eq_some_iff.mp hn
    have hoffers : d.Offers d.nodes.size ⟨i, slot⟩ :=
      (Offers.output hi hn hslot).mono hextends hextends.nodes_size_le
    rw [hexposed.pending.count] at hi
    exact ⟨i, slot, hi, (href p.name).trans hslotRef, hlive.reads _ hoffers, hreached hoffers⟩
  · have hoffers : d.Offers d.nodes.size (.constant slot) := .constant hslot
    exact ⟨hlive.reads _ hoffers, hreached hoffers⟩

/-- The saw with modulations has two control nodes, two sums, a clip and a floor, the unit, its
scaling and the output stage, and no part of it is dead. -/
theorem GeneratorSpec.hasNoDeadParts_of_build_modulatedSaw :
    modulatedSaw.amplitudes.length ≤ 1 ∧ ∃ d, modulatedSaw.build = .ok d ∧
      modulatedSaw.HasNoDeadParts d ∧ d.nodes.size = 2 + 2 + 2 + 1 + 1 + 7 := by
  have hamp : modulatedSaw.amplitudes.length ≤ 1 := by decide
  obtain ⟨d, hbuild⟩ := exists_build_modulatedSaw
  have hlive := hasNoDeadParts_of_build hamp hbuild
  have hcount : d.nodes.size = 2 + 2 + 2 + 1 + 1 + 7 := by
    rw [hlive.count]
    decide +kernel
  exact ⟨hamp, d, hbuild, hlive, hcount⟩

end SynthGraph
