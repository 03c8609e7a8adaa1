import SynthGraph.Proofs.Graph.Growth

/-!
# The graph is acyclic

Every node of a reachable definition reads only constants of the pool and outputs of earlier nodes
that exist, and its class, special index, rate and outputs have the form that a file needs.  The
inputs of a node may have been arbitrary references when the operation was called; operations that
fail half way are part of the runs.
-/

namespace SynthGraph

namespace Definition

variable {d d' : Definition}

/-- The node `n` may stand at an index of the graph. -/
structure AdmitsAt (d : Definition) (index : Nat) (n : Node) : Prop where
  /-- Each input is a slot of the pool or an output of an earlier node. -/
  inputs : ∀ r ∈ n.inputs, d.Offers index r
  /-- The class is ASCII of at most 255 bytes. -/
  className : IsShortName n.className
  /-- The special index has sixteen bits. -/
  special : -32768 ≤ n.special ∧ n.special ≤ 32767
  /-- The outputs have the rate of the node. -/
  outputs : ∀ r ∈ n.outputs, r = n.rate
  /-- The rate has one of the three codes. -/
  rate : n.rate.code = 0 ∨ n.rate.code = 1 ∨ n.rate.code = 2

/-- Every node may stand where it is. -/
def IsDag (d : Definition) : Prop :=
  ∀ i n, d.nodes[i]? = some n → d.AdmitsAt i n

/-- The code of a rate is one of three. -/
lemma rate_code_cases (r : Rate) : r.code = 0 ∨ r.code = 1 ∨ r.code = 2 := by
  cases r <;> simp [Rate.code]

/-- The special indices of sixteen bits. -/
lemma specialFits_iff {special : Int} :
    Edit.specialFits special = true ↔ -32768 ≤ special ∧ special ≤ 32767 := by
  rw [Edit.specialFits, IntWidth.fits, decide_eq_true_eq]
  change -32768 ≤ special ∧ special < 32768 ↔ _
  omega

/-- A node may stay where it is when the definition grows. -/
lemma AdmitsAt.mono {i : Nat} {n : Node} (hn : d.AdmitsAt i n) (h : d.Extends d') :
    d'.AdmitsAt i n :=
  { hn with inputs := fun r hr => (hn.inputs r hr).mono h le_rfl }

/-- The next node may stand at the end of the graph. -/
lemma admitsAt_of_newNode {className : String} {rate : Int} {inputs : List Reference}
    {outputs special : Int} {n : Node}
    (h : d.newNode className rate inputs outputs special = .ok n) : d.AdmitsAt d.nodes.size n := by
  obtain ⟨hname, -, hspecial, hinputs, r, -, rfl⟩ := newNode_eq_ok_iff.mp h
  exact ⟨hinputs, hname, specialFits_iff.mp hspecial, fun o ho => List.eq_of_mem_replicate ho,
    rate_code_cases r⟩

/-- The control node of a run may stand at the end of the graph. -/
lemma admitsAt_exposingNode {r : ParameterRate × List Parameter}
    (hfits : Edit.specialFits (firstIndex r.2) = true) :
    d.AdmitsAt d.nodes.size (exposingNode r) := by
  have haccepted := newNode_exposing r d
  rw [if_pos hfits] at haccepted
  exact admitsAt_of_newNode haccepted

/-! ### Preservation -/

/-- A definition stays acyclic when it grows without new nodes. -/
lemma IsDag.mono (hd : d.IsDag) (h : d.Extends d') (hnodes : d'.nodes = d.nodes) : d'.IsDag := by
  intro i n hn
  rw [hnodes] at hn
  exact (hd i n hn).mono h

/-- A definition stays acyclic when it grows by one node that may stand at the end. -/
lemma IsDag.push {n : Node} (hd : d.IsDag) (hn : d.AdmitsAt d.nodes.size n) (h : d.Extends d')
    (hnodes : d'.nodes = d.nodes.push n) : d'.IsDag := by
  intro i m hm
  rw [hnodes, Array.getElem?_push] at hm
  split at hm
  case isTrue hi =>
    obtain rfl := Option.some.inj hm
    subst hi
    exact hn.mono h
  case isFalse => exact (hd i m hm).mono h

/-- Exposing runs keeps a definition acyclic. -/
lemma IsDag.foldl_expose {rs : List (ParameterRate × List Parameter)}
    (hfits : ∀ r ∈ rs, Edit.specialFits (firstIndex r.2) = true) (hd : d.IsDag) :
    (rs.foldl expose d).IsDag := by
  induction rs generalizing d with
  | nil => exact hd
  | cons r rs ih =>
    rw [List.forall_mem_cons] at hfits
    exact ih hfits.2 (hd.push (admitsAt_exposingNode hfits.1) (extends_expose d r) rfl)

/-- Every elementary step keeps a definition acyclic. -/
lemma IsDag.step (h : Step d d') (hd : d.IsDag) : d'.IsDag := by
  have hextends := h.extends
  cases h with
  | constant => exact hd.mono hextends rfl
  | declare => exact hd.mono hextends rfl
  | node hnode => exact hd.push (admitsAt_of_newNode hnode) hextends rfl
  | controls hopen hruns hfits =>
    exact IsDag.foldl_expose hfits (hd.mono (extends_close d) rfl)

/-- A new definition has no nodes and is acyclic. -/
lemma isDag_of_new {name : String} (h : Definition.new name = .ok d) : d.IsDag := by
  obtain ⟨-, rfl⟩ := new_eq_ok_iff.mp h
  intro i n hn
  simp at hn

/-- Every reachable definition is acyclic. -/
theorem Reachable.isDag (h : d.Reachable) : d.IsDag :=
  h.of_step isDag_of_new IsDag.step

/-- What is offered, as conditions on the numbers of a reference. -/
lemma offers_iff {index : Nat} {r : Reference} :
    d.Offers index r ↔
      (r.node = -1 ∧ 0 ≤ r.slot ∧ r.slot < d.constants.size) ∨
        (0 ≤ r.node ∧ r.node < index ∧ 0 ≤ r.slot ∧
          ∃ source, d.nodes[r.node.toNat]? = some source ∧ r.slot < source.outputs.length) := by
  constructor
  · rintro (hslot | ⟨hn, hsource, hslot⟩)
    · exact .inl ⟨rfl, by simp [Reference.constant], by simpa [Reference.constant] using hslot⟩
    · exact .inr ⟨by simp, by simpa using hn, by simp, _, by simpa using hsource,
        by simpa using hslot⟩
  · obtain ⟨node, slot⟩ := r
    rintro (⟨hnode, hslot, hlt⟩ | ⟨hnode, hearlier, hslot, source, hsource, hlt⟩)
    · dsimp only at hnode hslot hlt
      obtain ⟨k, rfl⟩ := Int.eq_ofNat_of_zero_le hslot
      subst hnode
      exact .constant (by simpa using hlt)
    · dsimp only at hnode hearlier hslot hsource hlt
      obtain ⟨n, rfl⟩ := Int.eq_ofNat_of_zero_le hnode
      obtain ⟨k, rfl⟩ := Int.eq_ofNat_of_zero_le hslot
      exact .output (by simpa using hearlier) hsource (by simpa using hlt)

/-- Whatever operations have been applied, and whether they succeeded or failed: each input of a
node is a slot of the pool or an output of an earlier node, and the class, the special index, the
rate and the outputs of the node have the form that a file needs. -/
theorem Reachable.nodes_wellFormed (h : d.Reachable) {i : Nat} {n : Node}
    (hn : d.nodes[i]? = some n) :
    (∀ r ∈ n.inputs,
      (r.node = -1 ∧ 0 ≤ r.slot ∧ r.slot < d.constants.size) ∨
        (0 ≤ r.node ∧ r.node < i ∧ 0 ≤ r.slot ∧
          ∃ source, d.nodes[r.node.toNat]? = some source ∧ r.slot < source.outputs.length)) ∧
      (isAscii n.className = true ∧ n.className.length ≤ 255) ∧
      (-32768 ≤ n.special ∧ n.special ≤ 32767) ∧
      (∀ r ∈ n.outputs, r = n.rate) ∧
      (n.rate.code = 0 ∨ n.rate.code = 1 ∨ n.rate.code = 2) := by
  have hadmits := h.isDag i n hn
  exact ⟨fun r hr => offers_iff.mp (hadmits.inputs r hr), hadmits.className, hadmits.special,
    hadmits.outputs, hadmits.rate⟩

/-- A run in which three operations fail: a node that reads itself, a node that reads a slot of the
pool before there is one, and an output stage without its parameters. -/
def runWithFailures : Definition :=
  (⟨"tone", .empty, .empty, #[], []⟩ : Definition).run
    [.declare "freq" (.ofInt 440) "control", .controls, .node "SinOsc" 2 [⟨1, 0⟩] 1 0,
      .node "SinOsc" 2 [⟨0, 0⟩, ⟨-1, 0⟩] 1 0, .constant (.ofInt 0),
      .outputStage ⟨0, 0⟩ ⟨⟨-1, 0⟩, ⟨-1, 0⟩, ⟨-1, 0⟩⟩, .node "SinOsc" 2 [⟨0, 0⟩, ⟨-1, 0⟩] 1 0]

/-- The node that the run appends in the end reads the control node and the literal. -/
theorem nodes_wellFormed_runWithFailures :
    runWithFailures.Reachable ∧
      runWithFailures.nodes[1]? = some ⟨"SinOsc", .audio, [⟨0, 0⟩, ⟨-1, 0⟩], [.audio], 0⟩ ∧
      (∀ r ∈ [(⟨0, 0⟩ : Reference), ⟨-1, 0⟩],
        (r.node = -1 ∧ 0 ≤ r.slot ∧ r.slot < runWithFailures.constants.size) ∨
          (0 ≤ r.node ∧ r.node < (1 : Nat) ∧ 0 ≤ r.slot ∧
            ∃ source, runWithFailures.nodes[r.node.toNat]? = some source ∧
              r.slot < source.outputs.length)) := by
  have hnew : Definition.new "tone" = .ok ⟨"tone", .empty, .empty, #[], []⟩ := by rfl
  have hreach : runWithFailures.Reachable := (Reachable.new hnew).run _
  have hnode : runWithFailures.nodes[1]? =
      some ⟨"SinOsc", .audio, [⟨0, 0⟩, ⟨-1, 0⟩], [.audio], 0⟩ := by decide +kernel
  exact ⟨hreach, hnode, (hreach.nodes_wellFormed hnode).1⟩

end Definition

end SynthGraph
