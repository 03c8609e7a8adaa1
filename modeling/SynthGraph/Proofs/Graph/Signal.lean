import SynthGraph.Proofs.Graph.Binding

/-!
# Reading a graph as a tree

A reference into a definition stands for a tree: a literal of the pool, a parameter when it leads to
a control node, and otherwise a node together with the trees of its inputs.  Since nodes read only
what is before them, the tree is found by looking at fewer and fewer nodes.  A tree does not change
when the definition goes on growing.
-/

namespace SynthGraph

/-- The tree that a reference stands for. -/
inductive Signal where
  /-- A stored literal. -/
  | constant (value : Binary32)
  /-- The parameter of an absolute index. -/
  | parameter (index : Int)
  /-- An output of a node that reads other signals. -/
  | output (className : String) (rate : Rate) (special slot : Int) (inputs : List Signal)

mutual

/-- Equality of signals is decided part by part. -/
def Signal.decEq : (a b : Signal) → Decidable (a = b)
  | .constant x, .constant y => decidable_of_iff (x = y) (by simp)
  | .parameter i, .parameter j => decidable_of_iff (i = j) (by simp)
  | .output c r s k as, .output c' r' s' k' bs =>
    have : Decidable (as = bs) := Signal.decEqList as bs
    decidable_of_iff (c = c' ∧ r = r' ∧ s = s' ∧ k = k' ∧ as = bs) (by simp)
  | .constant _, .parameter _ | .constant _, .output .. | .parameter _, .constant _
  | .parameter _, .output .. | .output .., .constant _ | .output .., .parameter _ =>
    isFalse (by simp)

/-- Equality of lists of signals is decided element by element. -/
def Signal.decEqList : (as bs : List Signal) → Decidable (as = bs)
  | [], [] => isTrue rfl
  | a :: as, b :: bs =>
    have : Decidable (a = b) := Signal.decEq a b
    have : Decidable (as = bs) := Signal.decEqList as bs
    decidable_of_iff (a = b ∧ as = bs) (by simp)
  | [], _ :: _ | _ :: _, [] => isFalse (by simp)

end

instance : DecidableEq Signal := Signal.decEq

/-- The signal at an output of a node, where `read` says what its inputs stand for. -/
def Node.signal? (n : Node) (isControl : Bool) (slot : Int) (read : Reference → Option Signal) :
    Option Signal :=
  if 0 ≤ slot ∧ slot < n.outputs.length then
    if isControl then some (.parameter (n.special + slot))
    else (n.inputs.mapM read).map (.output n.className n.rate n.special slot)
  else none

/-- Reading a list of inputs is reading each of them. -/
lemma mapM_eq_some_iff {α β : Type} {f : α → Option β} {xs : List α} {ys : List β} :
    xs.mapM f = some ys ↔ List.Forall₂ (fun x y => f x = some y) xs ys := by
  induction xs generalizing ys with
  | nil => cases ys <;> simp
  | cons x xs ih =>
    rw [List.mapM_cons, List.forall₂_cons_left_iff]
    cases hx : f x with
    | none => simp
    | some y =>
      simp only [Option.pure_def, Option.bind_eq_bind, Option.bind_some, Option.some.injEq,
        exists_and_left, exists_eq_left', Option.bind_eq_some_iff]
      constructor
      · rintro ⟨zs, hzs, rfl⟩
        exact ⟨zs, ih.mp hzs, rfl⟩
      · rintro ⟨zs, hzs, rfl⟩
        exact ⟨zs, ih.mpr hzs, rfl⟩

/-- The signal of a node is known when those of its inputs are. -/
lemma Node.signal?_eq_some {n : Node} {slot : Nat} {read : Reference → Option Signal}
    {ts : List Signal} (hslot : slot < n.outputs.length)
    (hinputs : List.Forall₂ (fun r t => read r = some t) n.inputs ts) :
    n.signal? false slot read = some (.output n.className n.rate n.special slot ts) := by
  have hslot' : 0 ≤ (slot : Int) ∧ (slot : Int) < n.outputs.length := by omega
  rw [Node.signal?, if_pos hslot', mapM_eq_some_iff.mpr hinputs]
  rfl

/-- Inputs that are known in another way as well give the same signal. -/
lemma Node.signal?_mono {n : Node} {isControl : Bool} {slot : Int}
    {read read' : Reference → Option Signal} {t : Signal}
    (hread : ∀ r t, read r = some t → read' r = some t)
    (h : n.signal? isControl slot read = some t) : n.signal? isControl slot read' = some t := by
  unfold Node.signal? at h ⊢
  split at h
  case isFalse => cases h
  case isTrue hslot =>
    rw [if_pos hslot]
    cases isControl with
    | true => exact h
    | false =>
      obtain ⟨ts, hts, rfl⟩ := Option.map_eq_some_iff.mp h
      have hinputs := (mapM_eq_some_iff.mp hts).imp hread
      exact Option.map_eq_some_iff.mpr ⟨ts, mapM_eq_some_iff.mpr hinputs, rfl⟩

namespace Definition

/-- The node is one of those that expose parameters. -/
def isControl (d : Definition) (index : Int) : Bool := d.bindings.any (·.2.node == index)

/-- The signal of a reference to the pool or to one of the first nodes. -/
def signalWithin? (d : Definition) : Nat → Reference → Option Signal
  | 0, r =>
    if r.isConstant ∧ 0 ≤ r.slot then d.constants.values[r.slot.toNat]?.map .constant else none
  | n + 1, r =>
    if r.node = n then
      d.nodes[n]?.bind fun source =>
        source.signal? (d.isControl r.node) r.slot (d.signalWithin? n)
    else d.signalWithin? n r

/-- The signal of a reference. -/
def signal? (d : Definition) (r : Reference) : Option Signal := d.signalWithin? d.nodes.size r

/-- The references stand for the signals, one by one. -/
abbrev Signals (d : Definition) (rs : List Reference) (ts : List Signal) : Prop :=
  List.Forall₂ (fun r t => d.signal? r = some t) rs ts

variable {d d' d'' : Definition} {r : Reference} {t : Signal}

/-! ### Control nodes -/

/-- Exposing a run makes its node a control node. -/
lemma isControl_expose {run : ParameterRate × List Parameter} (hne : run.2 ≠ []) (i : Int) :
    (d.expose run).isControl i = true ↔ d.isControl i = true ∨ i = d.nodes.size := by
  have hrun : (Edit.runBindings d.nodes.size run.2).any (·.2.node == i) = true ↔
      i = d.nodes.size := by
    obtain ⟨p, ps, hps⟩ := List.exists_cons_of_ne_nil hne
    rw [List.any_eq_true]
    constructor
    · rintro ⟨b, hb, hi⟩
      obtain ⟨entry, -, rfl⟩ := List.mem_map.mp hb
      exact (by simpa using hi : (d.nodes.size : Int) = i).symm
    · rintro rfl
      exact ⟨(p.name, ⟨d.nodes.size, (0 : Nat)⟩), by simp [Edit.runBindings, hps], by simp⟩
  have hall : (d.expose run).isControl i =
      (d.isControl i || (Edit.runBindings d.nodes.size run.2).any (·.2.node == i)) :=
    List.any_append
  rw [hall, Bool.or_eq_true, hrun]

/-- Exposing runs makes their nodes the control nodes. -/
lemma isControl_foldl_expose {rs : List (ParameterRate × List Parameter)}
    (hne : ∀ run ∈ rs, run.2 ≠ []) (i : Int) :
    (rs.foldl expose d).isControl i = true ↔
      d.isControl i = true ∨ (d.nodes.size ≤ i ∧ i < d.nodes.size + rs.length) := by
  induction rs generalizing d with
  | nil =>
    have hnone : ¬(d.nodes.size ≤ i ∧ i < d.nodes.size + ([] : List Parameter).length) := by
      simp only [List.length_nil]
      omega
    exact (or_iff_left hnone).symm
  | cons run rs ih =>
    rw [List.forall_mem_cons] at hne
    have hsize : (d.expose run).nodes.size = d.nodes.size + 1 := by simp [expose, append]
    rw [List.foldl_cons, ih hne.2, isControl_expose hne.1, hsize, List.length_cons, or_assoc]
    refine or_congr_right ?_
    omega

/-! ### Looking at more nodes -/

/-- A node that is not looked at has no signal. -/
lemma node_lt_of_signalWithin? {n : Nat} (h : d.signalWithin? n r = some t) : r.node < n := by
  induction n with
  | zero =>
    rw [signalWithin?] at h
    split at h
    case isTrue hconstant =>
      have hnode : r.node = -1 := by simpa [Reference.isConstant] using hconstant.1
      omega
    case isFalse => cases h
  | succ n ih =>
    rw [signalWithin?] at h
    split at h
    case isTrue hnode => omega
    case isFalse =>
      have hlt := ih h
      omega

/-- A signal stays the same when more nodes are looked at. -/
lemma signalWithin?_of_le {m n : Nat} (hmn : m ≤ n) (h : d.signalWithin? m r = some t) :
    d.signalWithin? n r = some t := by
  induction n, hmn using Nat.le_induction with
  | base => exact h
  | succ n hmn ih =>
    have hlt := node_lt_of_signalWithin? h
    rw [signalWithin?, if_neg (by omega)]
    exact ih

/-! ### Growing definitions -/

/-- A definition that goes on from another one, with the same parameters and bindings. -/
structure Continues (d d' : Definition) : Prop extends d.Extends d' where
  parameters_eq : d'.parameters = d.parameters
  bindings_eq : d'.bindings = d.bindings

/-- A definition continues itself. -/
lemma Continues.refl (d : Definition) : d.Continues d := ⟨.refl d, rfl, rfl⟩

/-- Continuations compose. -/
lemma Continues.trans (h : d.Continues d') (h' : d'.Continues d'') : d.Continues d'' :=
  ⟨h.toExtends.trans h'.toExtends, h'.parameters_eq.trans h.parameters_eq,
    h'.bindings_eq.trans h.bindings_eq⟩

/-- A definition goes on with one more node. -/
lemma continues_append (d : Definition) (n : Node) : d.Continues (d.append n) :=
  ⟨extends_append d n, rfl, rfl⟩

/-- A signal within some nodes stays the same when the definition goes on. -/
lemma Continues.signalWithin? (h : d.Continues d') {n : Nat}
    (ht : d.signalWithin? n r = some t) : d'.signalWithin? n r = some t := by
  induction n generalizing r t with
  | zero =>
    rw [Definition.signalWithin?] at ht ⊢
    split at ht
    case isFalse => cases ht
    case isTrue hconstant =>
      obtain ⟨x, hx, rfl⟩ := Option.map_eq_some_iff.mp ht
      rw [if_pos hconstant, getElem?_of_prefix h.constants hx]
      rfl
  | succ n ih =>
    rw [Definition.signalWithin?] at ht ⊢
    split at ht
    case isFalse hnode =>
      rw [if_neg hnode]
      exact ih ht
    case isTrue hnode =>
      obtain ⟨source, hsource, ht⟩ := Option.bind_eq_some_iff.mp ht
      rw [if_pos hnode, h.getElem?_nodes hsource, Option.bind_some, isControl, h.bindings_eq]
      exact Node.signal?_mono (fun r t => ih) ht

/-- A signal stays the same when the definition goes on. -/
lemma Continues.signal? (h : d.Continues d') (ht : d.signal? r = some t) :
    d'.signal? r = some t :=
  signalWithin?_of_le h.nodes_size_le (h.signalWithin? ht)

/-- Signals stay the same when the definition goes on. -/
lemma Continues.signals (h : d.Continues d') {rs : List Reference} {ts : List Signal}
    (hts : d.Signals rs ts) : d'.Signals rs ts :=
  hts.imp fun _ _ ht => h.signal? ht

/-! ### The signals of references -/

/-- A slot of the pool stands for what is stored there. -/
lemma signal?_constant {slot : Nat} {x : Binary32} (hx : d.constants.values[slot]? = some x) :
    d.signal? (.constant slot) = some (.constant x) := by
  refine signalWithin?_of_le (Nat.zero_le _) ?_
  simp [signalWithin?, Reference.constant, Reference.isConstant, hx]

/-- An output of a control node stands for a parameter. -/
lemma Binds.signal? {b : String × Reference} {p : Parameter} (hb : d.Binds b p)
    (hmem : b ∈ d.bindings) : d.signal? b.2 = some (.parameter p.index) := by
  obtain ⟨-, n, slot, source, href, hsource, hslot, hindex, -⟩ := hb
  obtain ⟨hlt, -⟩ := Array.getElem?_eq_some_iff.mp hsource
  have hcontrol : d.isControl n = true := by
    rw [isControl, List.any_eq_true]
    exact ⟨b, hmem, by simp [href]⟩
  have hslot' : 0 ≤ (slot : Int) ∧ (slot : Int) < source.outputs.length := by omega
  refine signalWithin?_of_le (Nat.succ_le_of_lt hlt) ?_
  rw [href, signalWithin?, if_pos rfl, hsource, Option.bind_some, hcontrol, Node.signal?,
    if_pos hslot', if_pos rfl, hindex]

/-- An output of a node that has just been appended stands for the node with the signals of its
inputs, unless a binding refers to it. -/
lemma signal?_append {n : Node} {slot : Nat} {ts : List Signal}
    (hcontrol : d.isControl d.nodes.size = false) (hslot : slot < n.outputs.length)
    (hinputs : d.Signals n.inputs ts) :
    (d.append n).signal? ⟨d.nodes.size, slot⟩ =
      some (.output n.className n.rate n.special slot ts) := by
  have hsize : (d.append n).nodes.size = d.nodes.size + 1 := by simp [append]
  have hnode : (d.append n).nodes[d.nodes.size]? = some n := by simp [append]
  have hinputs' : List.Forall₂ (fun r t => (d.append n).signalWithin? d.nodes.size r = some t)
      n.inputs ts := hinputs.imp fun _ _ ht => (continues_append d n).signalWithin? ht
  have hcontrol' : (d.append n).isControl d.nodes.size = false := hcontrol
  rw [Definition.signal?, hsize, signalWithin?, if_pos rfl, hnode, Option.bind_some, hcontrol']
  exact Node.signal?_eq_some hslot hinputs'

end Definition

end SynthGraph
