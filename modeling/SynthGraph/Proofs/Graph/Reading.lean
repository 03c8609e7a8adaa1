import SynthGraph.Proofs.Generator.OutputNodes
import SynthGraph.Proofs.Graph.Dag

/-!
# What the nodes of a graph read

While a graph is built, some of what it offers is not read yet, and what is listed as pending may
only shrink when a node reads it.  In an acyclic graph in which everything is read, every node but
the last has an output that a later node reads, and following inputs back from the last node
therefore leads to everything.
-/

namespace SynthGraph

namespace Definition

variable {d d' : Definition} {names names' : List String} {rs rs' : List Reference}
  {r : Reference} {nodes : List Node}

/-- A node reads the reference. -/
def Reads (d : Definition) (r : Reference) : Prop := ∃ n ∈ d.nodes.toList, r ∈ n.inputs

/-- Following inputs back from the last node leads to the reference. -/
inductive Reached (d : Definition) : Reference → Prop where
  /-- The last node reads it. -/
  | last {n : Node} {r : Reference} (hn : d.nodes.back? = some n) (hr : r ∈ n.inputs) : Reached d r
  /-- A node reads it whose output has been reached. -/
  | back {i : Nat} {slot : Int} {n : Node} {r : Reference} (h : Reached d ⟨i, slot⟩)
      (hn : d.nodes[i]? = some n) (hr : r ∈ n.inputs) : Reached d r

/-! ### When everything is read -/

/-- Everything in a definition is read, where only the last node may be without an output. -/
structure IsLive (d : Definition) : Prop where
  /-- Every node but the last has an output. -/
  outputs : ∀ (i : Nat) n, d.nodes[i]? = some n → i + 1 < d.nodes.size → 0 < n.outputs.length
  /-- Everything that is offered is read. -/
  reads : ∀ r, d.Offers d.nodes.size r → d.Reads r

/-- What is read is an input of a node at some index. -/
lemma Reads.exists_index (h : d.Reads r) :
    ∃ (i : Nat) (n : Node), d.nodes[i]? = some n ∧ r ∈ n.inputs := by
  obtain ⟨n, hn, hr⟩ := h
  obtain ⟨i, hi⟩ := List.mem_iff_getElem?.mp hn
  exact ⟨i, n, by rw [← Array.getElem?_toList, hi], hr⟩

/-- Every node but the last offers an output. -/
lemma IsLive.offers (h : d.IsLive) {i : Nat} (hi : i + 1 < d.nodes.size) :
    d.Offers d.nodes.size ⟨i, (0 : Nat)⟩ := by
  have hn : d.nodes[i]? = some d.nodes[i] := Array.getElem?_eq_getElem (by omega)
  exact .output (by omega) hn (h.outputs i _ hn hi)

/-- In an acyclic graph in which everything is read, every node but the last is read by a later
one. -/
lemma IsLive.exists_later (h : d.IsLive) (hdag : d.IsDag) {i : Nat} (hi : i + 1 < d.nodes.size) :
    ∃ (j : Nat) (m : Node), i < j ∧ d.nodes[j]? = some m ∧ ⟨i, (0 : Nat)⟩ ∈ m.inputs := by
  obtain ⟨j, m, hm, hr⟩ := (h.reads _ (h.offers hi)).exists_index
  exact ⟨j, m, Int.ofNat_lt.mp ((hdag j m hm).inputs _ hr).node_lt, hm, hr⟩

/-- What the last node reads is reached. -/
lemma reached_of_last {i : Nat} {n : Node} (hn : d.nodes[i]? = some n)
    (hlast : d.nodes.size ≤ i + 1) (hr : r ∈ n.inputs) : d.Reached r := by
  obtain ⟨hlt, -⟩ := Array.getElem?_eq_some_iff.mp hn
  have hindex : d.nodes.size - 1 = i := by omega
  exact .last (by rw [Array.back?, hindex, hn]) hr

/-- In an acyclic graph in which everything is read, following inputs back from the last node leads
to everything. -/
theorem IsLive.reached (h : d.IsLive) (hdag : d.IsDag) (hr : d.Offers d.nodes.size r) :
    d.Reached r := by
  -- The induction is on the number of nodes behind the one that reads the reference.
  have hbehind : ∀ (k i : Nat) (n : Node), d.nodes[i]? = some n → d.nodes.size ≤ i + 1 + k →
      ∀ r ∈ n.inputs, d.Reached r := by
    intro k
    induction k with
    | zero => exact fun i n hn hlast r hr => reached_of_last hn hlast hr
    | succ k ih =>
      intro i n hn hbehind r hr
      rcases Nat.lt_or_ge (i + 1) d.nodes.size with hlt | hlast
      · obtain ⟨j, m, hij, hm, hread⟩ := h.exists_later hdag hlt
        exact .back (ih j m hm (by omega) _ hread) hn hr
      · exact reached_of_last hn hlast hr
  obtain ⟨i, n, hn, hread⟩ := (h.reads r hr).exists_index
  exact hbehind d.nodes.size i n hn (by omega) r hread

/-! ### What is still pending -/

/-- Everything that is offered is read, except for some references and the outputs that some
parameters are bound to. -/
def ReadBut (d : Definition) (names : List String) (rs : List Reference) : Prop :=
  ∀ r, d.Offers d.nodes.size r →
    d.Reads r ∨ r ∈ rs ∨ ∃ name ∈ names, d.parameterReference name = .ok r

/-- More may be pending, and a parameter may be pending as the output that it is bound to. -/
lemma ReadBut.mono (h : d.ReadBut names rs) (hrs : ∀ r ∈ rs, r ∈ rs')
    (hnames : ∀ name ∈ names, name ∈ names' ∨
      ∀ r, d.parameterReference name = .ok r → r ∈ rs') : d.ReadBut names' rs' := by
  intro r hr
  rcases h r hr with hread | hpending | ⟨name, hname, href⟩
  · exact .inl hread
  · exact .inr (.inl (hrs r hpending))
  · rcases hnames name hname with hname | hpending
    · exact .inr (.inr ⟨name, hname, href⟩)
    · exact .inr (.inl (hpending r href))

/-- A literal that is interned is pending. -/
lemma ReadBut.intern (h : d.ReadBut names rs) {v : Binary64} {slot : Nat} {pool : ConstantPool}
    (hintern : d.constants.intern v = .ok (slot, pool)) :
    ({ d with constants := pool } : Definition).ReadBut names (.constant slot :: rs) := by
  intro r hr
  have hold : d.Offers d.nodes.size r ∨ r = .constant slot := by
    cases hr with
    | output hn hsource hslot => exact .inl (.output hn hsource hslot)
    | @constant k hk =>
      rcases ConstantPool.intern_eq_ok_iff.mp hintern with ⟨-, rfl⟩ | ⟨-, rfl, x, -, rfl⟩
      · exact .inl (.constant hk)
      · have hsize : k < d.constants.size + 1 := by
          simpa [ConstantPool.push, ConstantPool.size] using hk
        rcases Nat.lt_succ_iff_lt_or_eq.mp hsize with hk | rfl
        · exact .inl (.constant hk)
        · exact .inr rfl
  rcases hold with hold | rfl
  · rcases h r hold with hread | hpending | hname
    · exact .inl hread
    · exact .inr (.inl (List.mem_cons_of_mem _ hpending))
    · exact .inr (.inr hname)
  · exact .inr (.inl List.mem_cons_self)

/-- One of the nodes reads the reference, or it is pending. -/
def ReadOrPending (nodes : List Node) (rs : List Reference) (r : Reference) : Prop :=
  r ∈ rs ∨ ∃ n ∈ nodes, r ∈ n.inputs

/-- One of the nodes reads the inputs of each. -/
lemma readOrPending_of_mem {k : Nat} {n : Node} (hn : nodes[k]? = some n) (hr : r ∈ n.inputs) :
    ReadOrPending nodes rs r := .inr ⟨n, List.mem_of_getElem? hn, hr⟩

/-- What is offered after nodes have been appended was offered before or is one of their outputs. -/
lemma offers_appendAll_cases (hr : (d.appendAll nodes).Offers (d.appendAll nodes).nodes.size r) :
    d.Offers d.nodes.size r ∨ ∃ i n, nodes[i]? = some n ∧ ∃ slot : Nat, slot < n.outputs.length ∧
      r = ⟨(d.nodes.size + i : Nat), slot⟩ := by
  cases hr with
  | constant hslot => exact .inl (.constant hslot)
  | @output k slot source hk hsource hslot =>
    rcases Nat.lt_or_ge k d.nodes.size with hlt | hge
    · rw [appendAll, Array.getElem?_append_left hlt] at hsource
      exact .inl (.output hlt hsource hslot)
    · rw [appendAll, Array.getElem?_append_right hge, List.getElem?_toArray] at hsource
      refine .inr ⟨k - d.nodes.size, source, hsource, slot, hslot, ?_⟩
      rw [Nat.add_sub_cancel' hge]

/-- Nodes that are appended settle what they read; their outputs are pending unless they are read
among them. -/
lemma ReadBut.appendAll (h : d.ReadBut names rs)
    (hrs : ∀ r ∈ rs, ReadOrPending nodes rs' r)
    (hnames : ∀ name ∈ names, name ∈ names' ∨
      ∀ r, d.parameterReference name = .ok r → ReadOrPending nodes rs' r)
    (hnew : ∀ i n, nodes[i]? = some n → ∀ slot : Nat, slot < n.outputs.length →
      ReadOrPending nodes rs' ⟨(d.nodes.size + i : Nat), slot⟩) :
    (d.appendAll nodes).ReadBut names' rs' := by
  have hsettle {r : Reference} (hr : ReadOrPending nodes rs' r) :
      (d.appendAll nodes).Reads r ∨ r ∈ rs' := by
    rcases hr with hpending | ⟨n, hn, hread⟩
    · exact .inr hpending
    · exact .inl ⟨n, by simp [Definition.appendAll, hn], hread⟩
  intro r hr
  rw [← or_assoc]
  rcases offers_appendAll_cases hr with hold | ⟨i, n, hn, slot, hslot, rfl⟩
  · rcases h r hold with ⟨n, hn, hread⟩ | hpending | ⟨name, hname, href⟩
    · exact .inl (.inl ⟨n, by simp [Definition.appendAll, Array.mem_toList_iff.mp hn], hread⟩)
    · exact .inl (hsettle (hrs r hpending))
    · rcases hnames name hname with hname | hread
      · exact .inr ⟨name, hname, href⟩
      · exact .inl (hsettle (hread r href))
  · exact .inl (hsettle (hnew i n hn slot hslot))

/-- One more node settles what it reads, and its only output is pending. -/
lemma ReadBut.append {n : Node} (h : d.ReadBut names rs) (hn : n.outputs.length = 1)
    (hrs : ∀ r ∈ rs, r ∈ n.inputs ∨ r ∈ rs')
    (hnames : ∀ name ∈ names, name ∈ names' ∨
      ∀ r, d.parameterReference name = .ok r → r ∈ n.inputs) :
    (d.appendAll [n]).ReadBut names' (⟨d.nodes.size, 0⟩ :: rs') := by
  have hread {r : Reference} (hr : r ∈ n.inputs) :
      ReadOrPending [n] (⟨d.nodes.size, 0⟩ :: rs') r := .inr ⟨n, List.mem_singleton_self n, hr⟩
  refine h.appendAll (fun r hr => ?_) (fun name hname => ?_) (fun i m hm slot hslot => ?_)
  · rcases hrs r hr with hr | hr
    · exact hread hr
    · exact .inl (List.mem_cons_of_mem _ hr)
  · exact (hnames name hname).imp id fun hinput r hr => hread (hinput r hr)
  · obtain ⟨hi, rfl⟩ : i = 0 ∧ n = m := by simpa [List.getElem?_singleton, eq_comm] using hm
    have hzero : slot = 0 := by omega
    rw [hi, hzero]
    exact .inl List.mem_cons_self

/-- A definition with a number of nodes, all of which have an output, and with what is pending. -/
structure Pending (d : Definition) (count : Nat) (names : List String) (rs : List Reference) :
    Prop where
  count : d.nodes.size = count
  outputs : ∀ n ∈ d.nodes.toList, 0 < n.outputs.length
  reads : d.ReadBut names rs

variable {count : Nat}

/-- In a new definition there is nothing. -/
lemma pending_of_new {name : String} (h : Definition.new name = .ok d) : d.Pending 0 [] [] := by
  obtain ⟨-, rfl⟩ := new_eq_ok_iff.mp h
  refine ⟨rfl, List.forall_mem_nil _, fun r hr => ?_⟩
  cases hr with
  | output hn => exact absurd hn (Nat.not_lt_zero _)
  | constant hslot => exact absurd hslot (Nat.not_lt_zero _)

/-- Without nodes, every slot of the pool is pending. -/
lemma Pending.constant_mem (h : d.Pending 0 [] rs) {slot : Nat} (hslot : slot < d.constants.size) :
    .constant slot ∈ rs := by
  have hempty : d.nodes = #[] := Array.eq_empty_of_size_eq_zero h.count
  rcases h.reads _ (.constant hslot) with ⟨n, hn, -⟩ | hpending | ⟨_, hname, -⟩
  · rw [hempty] at hn
    exact absurd hn List.not_mem_nil
  · exact hpending
  · exact absurd hname List.not_mem_nil

/-- More may be pending, and a parameter may be pending as the output that it is bound to. -/
lemma Pending.mono (h : d.Pending count names rs) (hrs : ∀ r ∈ rs, r ∈ rs')
    (hnames : ∀ name ∈ names, name ∈ names' ∨
      ∀ r, d.parameterReference name = .ok r → r ∈ rs') : d.Pending count names' rs' :=
  ⟨h.count, h.outputs, h.reads.mono hrs hnames⟩

/-- A literal that is interned is pending. -/
lemma Pending.intern (h : d.Pending count names rs) {v : Binary64} {slot : Nat}
    {pool : ConstantPool} (hintern : d.constants.intern v = .ok (slot, pool)) :
    ({ d with constants := pool } : Definition).Pending count names (.constant slot :: rs) :=
  ⟨h.count, h.outputs, h.reads.intern hintern⟩

/-- One more node settles what it reads, and its only output is pending. -/
lemma Pending.append {n : Node} (h : d.Pending count names rs) (hn : n.outputs.length = 1)
    (hrs : ∀ r ∈ rs, r ∈ n.inputs ∨ r ∈ rs')
    (hnames : ∀ name ∈ names, name ∈ names' ∨
      ∀ r, d.parameterReference name = .ok r → r ∈ n.inputs) :
    (d.appendAll [n]).Pending (count + 1) names' (⟨d.nodes.size, 0⟩ :: rs') := by
  refine ⟨?_, ?_, h.reads.append hn hrs hnames⟩
  · simp [Definition.appendAll, h.count]
  · have hlist : (d.appendAll [n]).nodes.toList = d.nodes.toList ++ [n] := by
      simp [Definition.appendAll]
    rw [hlist, List.forall_mem_append]
    exact ⟨h.outputs, by simp [hn]⟩

/-- A unit settles what it reads, and its output is pending. -/
lemma Pending.unit {className : String} {rate : Rate} {inputs : List Reference} {special : Int}
    (h : d.Pending count names (inputs ++ rs))
    (hrun : (Edit.unit className rate.code inputs special).apply d = (.ok r, d')) :
    d'.Pending (count + 1) names (r :: rs) := by
  obtain ⟨n, hnode, rfl, rfl⟩ := Edit.apply_unit_eq_ok.mp hrun
  obtain ⟨-, rfl⟩ := newNode_code_eq_ok_iff.mp hnode
  rw [← appendAll_nil d, append_appendAll, List.nil_append, appendAll_nil]
  exact h.append rfl (fun q hq => List.mem_append.mp hq) fun name hname => .inl hname

/-- When the last nodes have outputs, except for the very last one, and leave nothing pending,
everything is read. -/
lemma Pending.isLive_appendAll (h : d.Pending count names rs)
    (hnodes : ∀ i n, nodes[i]? = some n → i + 1 < nodes.length → 0 < n.outputs.length)
    (hreads : (d.appendAll nodes).ReadBut [] []) : (d.appendAll nodes).IsLive := by
  refine ⟨fun i n hn hi => ?_, fun r hr => ?_⟩
  · have hsize : (d.appendAll nodes).nodes.size = d.nodes.size + nodes.length := by
      simp [Definition.appendAll]
    rcases Nat.lt_or_ge i d.nodes.size with hlt | hge
    · rw [Definition.appendAll, Array.getElem?_append_left hlt] at hn
      exact h.outputs n (Array.mem_toList_iff.mpr (Array.mem_of_getElem? hn))
    · rw [Definition.appendAll, Array.getElem?_append_right hge, List.getElem?_toArray] at hn
      exact hnodes _ n hn (by omega)
  · rcases hreads r hr with hread | hpending | ⟨_, hname, -⟩
    · exact hread
    · exact absurd hpending List.not_mem_nil
    · exact absurd hname List.not_mem_nil

end Definition

end SynthGraph
