import SynthGraph.Proofs.Generator.OutputNodes
import SynthGraph.Proofs.Generator.Signals
import SynthGraph.Proofs.Graph.Acceptance

/-!
# The wiring of a generator

Once the parameters of a generator are declared and exposed, every later stage appends nodes whose
outputs stand for the signals that the spec asks for.  `Wired` is what each stage finds and leaves
behind; the lemmas on `apply` say what a stage that succeeds returns, and those on `exists` that it
always succeeds.
-/

namespace SynthGraph

open Edit

/-- The parameters of a generator are declared and all bound, and the pool holds exactly the first
literals of the generator. -/
structure GeneratorSpec.Wired (g : GeneratorSpec) (literals : List Binary64) (d : Definition) :
    Prop where
  holds : d.constants.Holds literals
  table : d.parameters.WellFormed
  names : d.parameters.toList.map Parameter.name = g.parameterNames
  binds : List.Forall₂ d.Binds d.bindings d.parameters.toList

/-- A stage leads from one definition to another one that goes on from it and is wired. -/
structure GeneratorSpec.Stage (g : GeneratorSpec) (literals : List Binary64) (d d' : Definition) :
    Prop where
  continues : d.Continues d'
  wired : g.Wired literals d'

variable {g : GeneratorSpec} {literals : List Binary64} {d d' d'' : Definition}

namespace GeneratorSpec

/-- Stages follow one another. -/
lemma Stage.trans {more : List Binary64} (h : g.Stage literals d d') (h' : g.Stage more d' d'') :
    g.Stage more d d'' := ⟨h.continues.trans h'.continues, h'.wired⟩

/-- A wired definition that goes on is wired for the literals that its pool holds then. -/
lemma Wired.continue {more : List Binary64} (hd : g.Wired literals d) (h : d.Continues d')
    (hholds : d'.constants.Holds more) : g.Wired more d' := by
  refine ⟨hholds, ?_, ?_, ?_⟩
  · rw [h.parameters_eq]
    exact hd.table
  · rw [h.parameters_eq]
    exact hd.names
  · rw [h.parameters_eq, h.bindings_eq]
    exact hd.binds.imp fun b p hb => hb.mono h.toExtends

/-- The next node of a wired definition is not one of its control nodes. -/
lemma Wired.isControl_size (hd : g.Wired literals d) : d.isControl d.nodes.size = false := by
  rw [Definition.isControl, List.any_eq_false]
  intro b hb
  obtain ⟨i, hi, rfl⟩ := List.getElem_of_mem hb
  have hbinds := hd.binds.get hi (hd.binds.length_eq ▸ hi)
  obtain ⟨-, n, slot, source, href, hsource, -⟩ := hbinds
  obtain ⟨hlt, -⟩ := Array.getElem?_eq_some_iff.mp hsource
  simp only [List.get_eq_getElem] at href
  rw [href]
  simp only [beq_iff_eq, Int.natCast_inj]
  omega

/-! ### References of a wired definition -/

/-- The place of a declared name among the parameters of the generator is the index of its
parameter. -/
lemma Wired.idxOf_name (hd : g.Wired literals d) {p : Parameter}
    (hp : p ∈ d.parameters.toList) : g.parameterNames.idxOf p.name = p.index := by
  obtain ⟨i, hi, rfl⟩ := List.getElem_of_mem hp
  have hindex := hd.table.getElem?_index (List.getElem?_eq_getElem hi)
  have hlt : i < (d.parameters.toList.map Parameter.name).length := by simpa using hi
  have hplace := hd.table.nodup.idxOf_getElem i hlt
  rw [List.getElem_map] at hplace
  rw [hindex, ← hd.names]
  exact hplace

/-- The reference to a parameter stands for the parameter. -/
lemma Wired.apply_parameter (hd : g.Wired literals d) {name : String} {r : Reference}
    (h : (Template.parameter name).apply d = (.ok r, d')) :
    d = d' ∧ d.signal? r = some (g.parameter name) := by
  rw [Template.parameter, apply_ask, Prod.mk.injEq] at h
  obtain ⟨href, rfl⟩ := h
  obtain ⟨p, hget, -⟩ := bind_eq_ok.mp href
  obtain ⟨hmem, rfl⟩ := ParameterTable.mem_of_get_eq_ok hget
  obtain ⟨r', href', hbound, hbinds⟩ :=
    Definition.parameterReference_of_binds hd.table hd.binds hmem
  obtain rfl : r = r' := Except.ok.inj (href.symm.trans href')
  have hsignal := hbinds.signal? hbound
  rw [parameter, hd.idxOf_name hmem]
  exact ⟨rfl, hsignal⟩

/-- A literal that comes next among those of the generator is stored as the generator says. -/
lemma Wired.apply_constant (hd : g.Wired literals d) {v : Binary64} {r : Reference}
    (hnext : literals ++ [v] <+: g.literals) (h : (constant v).apply d = (.ok r, d')) :
    g.Stage (literals ++ [v]) d d' ∧ d'.signal? r = some (g.literal v) := by
  obtain ⟨slot, pool, hintern, rfl, rfl⟩ := apply_constant_eq_ok.mp h
  obtain ⟨hholds, hvalue⟩ := hd.holds.intern hintern
  have hextends := (Definition.Step.constant (d := d) hintern).extends
  have hcontinues : d.Continues { d with constants := pool } := ⟨hextends, rfl, rfl⟩
  have hmem : v ∈ literals ++ [v] := List.mem_append_right _ (List.mem_singleton_self v)
  refine ⟨⟨hcontinues, hd.continue hcontinues hholds⟩, ?_⟩
  rw [literal, firstStored_of_prefix hmem hnext]
  exact Definition.signal?_constant hvalue

/-- A unit whose inputs stand for signals stands for itself with those signals. -/
lemma Wired.apply_unit (hd : g.Wired literals d) {className : String} {rate : Rate}
    {inputs : List Reference} {special : Int} {r : Reference} {ts : List Signal}
    (hinputs : d.Signals inputs ts)
    (h : (unit className rate.code inputs special).apply d = (.ok r, d')) :
    g.Stage literals d d' ∧ d'.signal? r = some (.output className rate special 0 ts) := by
  obtain ⟨n, hnode, rfl, rfl⟩ := apply_unit_eq_ok.mp h
  obtain ⟨-, rfl⟩ := Definition.newNode_code_eq_ok_iff.mp hnode
  have hcontinues := Definition.continues_append d
    ⟨className, rate, inputs, List.replicate (1 : Int).toNat rate, special⟩
  exact ⟨⟨hcontinues, hd.continue hcontinues hd.holds⟩,
    Definition.signal?_append hd.isControl_size Nat.one_pos hinputs⟩

/-- An arithmetic node on two signals. -/
lemma Wired.apply_binary (hd : g.Wired literals d) {op : BinaryOperator} {rate : Rate}
    {left right r : Reference} {s t : Signal} (hleft : d.signal? left = some s)
    (hright : d.signal? right = some t)
    (h : (binary op rate.code left right).apply d = (.ok r, d')) :
    g.Stage literals d d' ∧ d'.signal? r = some (.binary op rate s t) :=
  hd.apply_unit (.cons hleft (.cons hright .nil)) h

/-! ### What a parameter contributes -/

/-- A clamp limits a signal to what its limits are stored as. -/
lemma Wired.apply_clamped (hd : g.Wired literals d) {clamp : Clamp} {rate : Rate}
    {signal r : Reference} {t : Signal} (hnext : literals ++ clamp.bounds <+: g.literals)
    (ht : d.signal? signal = some t)
    (h : (Template.clamped signal clamp rate).apply d = (.ok r, d')) :
    g.Stage (literals ++ clamp.bounds) d d' ∧
      d'.signal? r = some (g.limited rate t (some clamp)) := by
  cases clamp with
  | range low high =>
    have hsplit : literals ++ (Clamp.range low high).bounds = literals ++ [low] ++ [high] := by
      simp [Clamp.bounds]
    rw [hsplit] at hnext ⊢
    obtain ⟨lowRef, d₁, hlow, h₁⟩ := apply_bind_eq_ok.mp h
    obtain ⟨highRef, d₂, hhigh, hunit⟩ := apply_bind_eq_ok.mp h₁
    obtain ⟨hstage₁, hlowSignal⟩ := hd.apply_constant ((List.prefix_append _ _).trans hnext) hlow
    obtain ⟨hstage₂, hhighSignal⟩ := hstage₁.wired.apply_constant hnext hhigh
    have ht' := hstage₂.continues.signal? (hstage₁.continues.signal? ht)
    have hlowSignal' := hstage₂.continues.signal? hlowSignal
    obtain ⟨hstage₃, hsignal⟩ := hstage₂.wired.apply_unit
      (.cons ht' (.cons hlowSignal' (.cons hhighSignal .nil))) hunit
    exact ⟨(hstage₁.trans hstage₂).trans hstage₃, hsignal⟩
  | floor low =>
    obtain ⟨lowRef, d₁, hlow, hbinary⟩ := apply_bind_eq_ok.mp h
    obtain ⟨hstage₁, hlowSignal⟩ := hd.apply_constant hnext hlow
    obtain ⟨hstage₂, hsignal⟩ := hstage₁.wired.apply_binary (hstage₁.continues.signal? ht)
      hlowSignal hbinary
    exact ⟨hstage₁.trans hstage₂, hsignal⟩

/-- The value of a parameter is modulated when it has a modulation. -/
lemma Wired.apply_modulated (hd : g.Wired literals d) {p : ParamSpec} {result : Reference × Rate}
    (h : (Template.modulated p).apply d = (.ok result, d')) :
    g.Stage literals d d' ∧ result.2 = p.signalRate ∧
      d'.signal? result.1 = some (g.modulated p) := by
  obtain ⟨base, d₁, hbase, hrest⟩ := apply_bind_eq_ok.mp h
  obtain ⟨rfl, hbaseSignal⟩ := hd.apply_parameter hbase
  rw [ParamSpec.signalRate, ParamSpec.modulated, GeneratorSpec.modulated]
  cases hmod : p.modName with
  | none =>
    rw [hmod] at hrest
    obtain ⟨rfl, rfl⟩ := apply_pure_eq_ok.mp hrest
    exact ⟨⟨.refl _, hd⟩, rfl, hbaseSignal⟩
  | some modName =>
    rw [hmod] at hrest
    obtain ⟨modulation, d₂, hmodulation, hsum⟩ := apply_bind_eq_ok.mp hrest
    obtain ⟨rfl, hmodulationSignal⟩ := hd.apply_parameter hmodulation
    obtain ⟨sum, d₃, hbinary, hlast⟩ := apply_bind_eq_ok.mp hsum
    obtain ⟨hstage, hsignal⟩ := hd.apply_binary hbaseSignal hmodulationSignal hbinary
    obtain ⟨rfl, rfl⟩ := apply_pure_eq_ok.mp hlast
    exact ⟨hstage, rfl, hsignal⟩

/-- A parameter contributes its value. -/
lemma Wired.apply_contribution (hd : g.Wired literals d) {p : ParamSpec} {r : Reference}
    (hnext : literals ++ p.literals <+: g.literals)
    (h : (Template.contribution p).apply d = (.ok r, d')) :
    g.Stage (literals ++ p.literals) d d' ∧ d'.signal? r = some (g.value p) := by
  obtain ⟨⟨signal, rate⟩, d₁, hmodulated, hrest⟩ := apply_bind_eq_ok.mp h
  obtain ⟨hstage₁, hrate, hsignal⟩ := hd.apply_modulated hmodulated
  dsimp only at hrest hrate hsignal
  subst hrate
  rw [GeneratorSpec.value]
  rw [ParamSpec.literals] at hnext ⊢
  cases hclamp : p.effectiveClamp with
  | none =>
    rw [hclamp] at hrest
    obtain ⟨rfl, rfl⟩ := apply_pure_eq_ok.mp hrest
    simp only [Option.map_none, Option.getD_none, List.append_nil]
    exact ⟨hstage₁, hsignal⟩
  | some clamp =>
    rw [hclamp] at hrest hnext
    obtain ⟨hstage₂, hlimited⟩ := hstage₁.wired.apply_clamped hnext hsignal hrest
    exact ⟨hstage₁.trans hstage₂, hlimited⟩

/-- The core parameters contribute their values in their order, and the amplitude is the value of
the last parameter of that role. -/
lemma Wired.apply_contributions {ps : List ParamSpec} (hd : g.Wired literals d)
    {core : List Reference} {amp : Option Reference}
    (hnext : literals ++ ps.flatMap ParamSpec.literals <+: g.literals)
    (h : (Template.contributions ps).apply d = (.ok (core, amp), d')) :
    g.Stage (literals ++ ps.flatMap ParamSpec.literals) d d' ∧
      d'.Signals core ((ps.filter (·.role == .core)).map g.value) ∧
      amp.map d'.signal? = (ps.filter (·.role == .amp)).getLast?.map fun p => some (g.value p) := by
  induction ps generalizing literals d d' core amp with
  | nil =>
    obtain ⟨hresult, rfl⟩ := apply_pure_eq_ok.mp h
    obtain ⟨rfl, rfl⟩ := Prod.mk.inj hresult
    simp only [List.flatMap_nil, List.append_nil]
    exact ⟨⟨.refl _, hd⟩, .nil, rfl⟩
  | cons p ps ih =>
    rw [List.flatMap_cons, ← List.append_assoc] at hnext ⊢
    obtain ⟨signal, d₁, hfirst, hrest⟩ := apply_bind_eq_ok.mp h
    obtain ⟨⟨core', amp'⟩, d₂, hothers, hlast⟩ := apply_bind_eq_ok.mp hrest
    obtain ⟨hstage₁, hsignal⟩ :=
      hd.apply_contribution ((List.prefix_append _ _).trans hnext) hfirst
    obtain ⟨hstage₂, hcore, hamp⟩ := ih hstage₁.wired hnext hothers
    have hsignal' := hstage₂.continues.signal? hsignal
    obtain ⟨hresult, rfl⟩ := apply_pure_eq_ok.mp hlast
    refine ⟨hstage₁.trans hstage₂, ?_⟩
    cases hrole : p.role with
    | core =>
      rw [hrole] at hresult
      obtain ⟨rfl, rfl⟩ := Prod.mk.inj hresult
      have hkeep : (p.role == Role.core) = true := by simp [hrole]
      have hdrop : (p.role == Role.amp) = false := by simp [hrole]
      simp only [List.filter_cons, hkeep, hdrop, if_true, Bool.false_eq_true, if_false]
      exact ⟨.cons hsignal' hcore, hamp⟩
    | amp =>
      rw [hrole] at hresult
      obtain ⟨rfl, rfl⟩ := Prod.mk.inj hresult
      have hkeep : (p.role == Role.amp) = true := by simp [hrole]
      have hdrop : (p.role == Role.core) = false := by simp [hrole]
      simp only [List.filter_cons, hkeep, hdrop, if_true, Bool.false_eq_true, if_false]
      refine ⟨hcore, ?_⟩
      rw [List.getLast?_cons]
      cases hlater : (ps.filter (·.role == .amp)).getLast? with
      | none =>
        rw [hlater, Option.map_none, Option.map_eq_none_iff] at hamp
        subst hamp
        simp [hsignal']
      | some q =>
        rw [hlater, Option.map_some, Option.map_eq_some_iff] at hamp
        obtain ⟨later, rfl, hlaterSignal⟩ := hamp
        simp [hlaterSignal]

/-! ### Stages that always succeed -/

/-- A declared parameter can be referred to. -/
lemma Wired.exists_parameter (hd : g.Wired literals d) (name : String)
    (hname : name ∈ g.parameterNames) :
    ∃ r, d.parameterReference name = .ok r ∧ d.signal? r = some (g.parameter name) := by
  rw [← hd.names] at hname
  obtain ⟨p, hp, rfl⟩ := List.mem_map.mp hname
  obtain ⟨r, href, -, -⟩ := Definition.parameterReference_of_binds hd.table hd.binds hp
  exact ⟨r, href, (hd.apply_parameter (Template.apply_parameter_of_eq_ok href)).2⟩

/-- The special indices of operators have sixteen bits. -/
lemma specialFits_special (op : BinaryOperator) : specialFits op.special = true := by
  cases op <;> decide

/-- An arithmetic node on two signals can be appended. -/
lemma Wired.exists_binary (hd : g.Wired literals d) {left right : Reference} {s t : Signal}
    (op : BinaryOperator) (rate : Rate) (hleft : d.signal? left = some s)
    (hright : d.signal? right = some t) :
    ∃ r d', (binary op rate.code left right).apply d = (.ok r, d') ∧ g.Stage literals d d' ∧
      d'.signal? r = some (.binary op rate s t) := by
  have hinputs : d.Signals [left, right] [s, t] := .cons hleft (.cons hright .nil)
  have hsucceeds : (binary op rate.code left right).SucceedsIff d (IsShortName "BinaryOpUGen") :=
    succeedsIff_unit hinputs.offers (specialFits_special op)
  rcases hsucceeds.cases with ⟨-, r, d', hrun⟩ | ⟨hno, -⟩
  · exact ⟨r, d', hrun, hd.apply_binary hleft hright hrun⟩
  · exact absurd (by decide) hno

/-! ### The output stage -/

/-- An output of a node that was appended to a wired definition stands for the node with the signals
of its inputs, also when more nodes have been appended. -/
lemma Wired.signal?_take (hd : g.Wired literals d) {nodes : List Node} {n : Node}
    {i k slot : Nat} {ts : List Signal} (hn : nodes[i]? = some n) (hik : i < k)
    (hslot : slot < n.outputs.length) (hinputs : (d.appendAll (nodes.take i)).Signals n.inputs ts) :
    (d.appendAll (nodes.take k)).signal? ⟨(d.nodes.size + i : Nat), slot⟩ =
      some (.output n.className n.rate n.special slot ts) := by
  obtain ⟨hlt, -⟩ := List.getElem?_eq_some_iff.mp hn
  have hwired : g.Wired literals (d.appendAll (nodes.take i)) :=
    hd.continue (Definition.continues_appendAll d _) hd.holds
  have hsignal := Definition.signal?_append hwired.isControl_size hslot hinputs
  rw [Definition.append_appendAll, ← take_succ_of_getElem? hn,
    Definition.size_appendAll_take (Nat.le_of_lt hlt)] at hsignal
  exact (Definition.continues_take hik).signal? hsignal

/-- The output stage succeeds and writes the bus and the two channels. -/
lemma Wired.exists_outputStage (hd : g.Wired literals d) {signal : Reference} {c : UnitConstants}
    (hsignal : d.signal? signal = some g.scaled) (hzero : d.signal? c.zero = some (.number 0))
    (hone : d.signal? c.one = some (.number 1))
    (hminusOne : d.signal? c.minusOne = some (.number (-1))) :
    ∃ index d', (Template.outputStage signal c).apply d = (.ok index, d') ∧
      g.Stage literals d d' ∧ ∃ inputs,
        d'.nodes.back? = some ⟨"Out", .audio, inputs, [], 0⟩ ∧ d'.Signals inputs g.written := by
  obtain ⟨pan, hpanRef, hpan⟩ := hd.exists_parameter panName (by simp [parameterNames])
  obtain ⟨outBus, houtBusRef, houtBus⟩ := hd.exists_parameter outBusName (by
    simp [parameterNames])
  have hrun := Template.apply_outputStage hpanRef houtBusRef
    ⟨Definition.offers_of_signal? hsignal, Definition.offers_of_signal? hpan,
      Definition.offers_of_signal? houtBus, Definition.offers_of_signal? hzero,
      Definition.offers_of_signal? hone, Definition.offers_of_signal? hminusOne⟩
  generalize hnodes : outputNodes d.nodes.size signal pan outBus c = nodes at hrun
  have hget (i : Nat) : nodes[i]? = (outputNodes d.nodes.size signal pan outBus c)[i]? := by
    rw [hnodes]
  have hcontinues := Definition.continues_appendAll d nodes
  have hkeep {r : Reference} {t : Signal} (k : Nat) (ht : d.signal? r = some t) :
      (d.appendAll (nodes.take k)).signal? r = some t :=
    (Definition.continues_appendAll d _).signal? ht
  -- Each of the nodes stands for its signal in whatever is appended after it.
  have hpanned {k slot : Nat} (hk : 0 < k) (hslot : slot < 2) :
      (d.appendAll (nodes.take k)).signal? ⟨(d.nodes.size + 0 : Nat), slot⟩ =
        some (g.panned slot) :=
    hd.signal?_take (hget 0) hk hslot
      (.cons (hkeep 0 hsignal) (.cons (hkeep 0 hpan) (.cons (hkeep 0 hone) .nil)))
  have hclippedLeft {k : Nat} (hk : 1 < k) :
      (d.appendAll (nodes.take k)).signal? ⟨(d.nodes.size + 1 : Nat), 0⟩ = some (g.clipped 0) :=
    hd.signal?_take (hget 1) hk Nat.one_pos
      (.cons (hpanned (by decide) Nat.two_pos) (.cons (hkeep 1 hminusOne)
        (.cons (hkeep 1 hone) .nil)))
  have hclippedRight {k : Nat} (hk : 2 < k) :
      (d.appendAll (nodes.take k)).signal? ⟨(d.nodes.size + 2 : Nat), 0⟩ = some (g.clipped 1) :=
    hd.signal?_take (hget 2) hk Nat.one_pos
      (.cons (hpanned (by decide) Nat.one_lt_two) (.cons (hkeep 2 hminusOne)
        (.cons (hkeep 2 hone) .nil)))
  have htoHardware {k : Nat} (hk : 3 < k) :
      (d.appendAll (nodes.take k)).signal? ⟨(d.nodes.size + 3 : Nat), 0⟩ = some g.toHardware :=
    hd.signal?_take (hget 3) hk Nat.one_pos
      (.cons (hkeep 3 houtBus) (.cons (hkeep 3 hzero) .nil))
  have hselectLeft {k : Nat} (hk : 4 < k) :
      (d.appendAll (nodes.take k)).signal? ⟨(d.nodes.size + 4 : Nat), 0⟩ = some (g.selected 0) :=
    hd.signal?_take (hget 4) hk Nat.one_pos
      (.cons (htoHardware (by decide)) (.cons (hpanned (by decide) Nat.two_pos)
        (.cons (hclippedLeft (by decide)) .nil)))
  have hselectRight {k : Nat} (hk : 5 < k) :
      (d.appendAll (nodes.take k)).signal? ⟨(d.nodes.size + 5 : Nat), 0⟩ = some (g.selected 1) :=
    hd.signal?_take (hget 5) hk Nat.one_pos
      (.cons (htoHardware (by decide)) (.cons (hpanned (by decide) Nat.one_lt_two)
        (.cons (hclippedRight (by decide)) .nil)))
  have hall : nodes.take 7 = nodes := by
    rw [← hnodes]
    rfl
  have hwritten : (d.appendAll (nodes.take 7)).Signals [outBus, ⟨(d.nodes.size + 4 : Nat), 0⟩,
      ⟨(d.nodes.size + 5 : Nat), 0⟩] g.written :=
    .cons (hkeep 7 houtBus)
      (.cons (hselectLeft (by decide)) (.cons (hselectRight (by decide)) .nil))
  rw [hall] at hwritten
  refine ⟨_, _, hrun, ⟨hcontinues, hd.continue hcontinues hd.holds⟩, _, ?_, hwritten⟩
  rw [← hnodes]
  simp [Definition.appendAll, outputNodes]

end GeneratorSpec

end SynthGraph
