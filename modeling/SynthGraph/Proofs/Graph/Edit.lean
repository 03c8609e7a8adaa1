import Mathlib.Tactic.Common
import SynthGraph.Graph.Definition

/-!
# Running edits

What the elementary edits do to a definition, and how a sequence of edits is taken apart.  Adding a
literal, declaring a parameter and appending a node are atomic: each of them either returns a result
and goes on with a changed definition, or fails and leaves the definition as it was.  Later files
cite the equations of this file and do not unfold the edits again.
-/

namespace SynthGraph

variable {α β : Type} {d d' : Definition}

/-- A sequence of computations that may fail succeeds exactly when both parts do. -/
lemma bind_eq_ok {ε : Type} {x : Except ε α} {f : α → Except ε β} {b : β} :
    x >>= f = .ok b ↔ ∃ a, x = .ok a ∧ f a = .ok b := by
  cases x with
  | error e => simp [bind, Except.bind]
  | ok a => simp [bind, Except.bind]

/-- A sequence of two computations fails when the first one fails, or the second one does. -/
lemma bind_eq_error {ε : Type} {x : Except ε α} {f : α → Except ε β} {e : ε} :
    (x >>= f) = .error e ↔ x = .error e ∨ ∃ a, x = .ok a ∧ f a = .error e := by
  cases x with
  | error e' => simp [bind, Except.bind]
  | ok a => simp [bind, Except.bind]

/-- A computation that is seen to succeed has a result. -/
lemma exists_eq_ok_of_isOk {ε : Type} {x : Except ε α} (h : x.isOk = true) : ∃ a, x = .ok a := by
  cases x with
  | error e => cases h
  | ok a => exact ⟨a, rfl⟩

/-- A definition is new under a short name, without any content. -/
lemma Definition.new_eq_ok_iff {name : String} :
    Definition.new name = .ok d ↔ IsShortName name ∧ d = ⟨name, .empty, .empty, #[], []⟩ := by
  constructor
  · intro h
    obtain ⟨bytes, hname, hd⟩ := bind_eq_ok.mp h
    exact ⟨(shortName_eq_ok_iff.mp hname).1, (Except.ok.inj hd).symm⟩
  · rintro ⟨hname, rfl⟩
    exact bind_eq_ok.mpr ⟨_, shortName_eq_ok_iff.mpr ⟨hname, rfl⟩, rfl⟩

/-! ### What a node may read -/

/-- The references that a definition offers to the node at an index: the slots of its pool, and the
outputs of the nodes before that index. -/
inductive Definition.Offers (d : Definition) (index : Nat) : Reference → Prop where
  | constant {slot : Nat} (hslot : slot < d.constants.size) : d.Offers index (.constant slot)
  | output {n slot : Nat} {source : Node} (hn : n < index) (hsource : d.nodes[n]? = some source)
      (hslot : slot < source.outputs.length) : d.Offers index ⟨n, slot⟩

namespace Definition

/-- Looking up a slot of the pool succeeds exactly for the slots that exist. -/
lemma constantReference_eq_ok_iff {slot : Int} {r : Reference} :
    d.constantReference slot = .ok r ↔
      ∃ k : Nat, slot = k ∧ k < d.constants.size ∧ r = .constant k := by
  unfold constantReference
  constructor
  · intro h
    split at h
    case isTrue hslot =>
      refine ⟨slot.toNat, by omega, by omega, ?_⟩
      rw [Int.toNat_of_nonneg hslot.1]
      exact (Except.ok.inj h).symm
    case isFalse => cases h
  · rintro ⟨k, rfl, hk, rfl⟩
    rw [if_pos ⟨by omega, by omega⟩]

/-- The node at a natural index. -/
lemma node?_natCast (d : Definition) (n : Nat) : d.node? n = d.nodes[n]? := by
  simp [node?]

/-- Looking up an output succeeds exactly for the outputs that exist. -/
lemma reference_eq_ok_iff {index slot : Int} {r : Reference} :
    d.reference index slot = .ok r ↔
      ∃ (n k : Nat) (source : Node), index = n ∧ slot = k ∧ d.nodes[n]? = some source ∧
        k < source.outputs.length ∧ r = ⟨n, k⟩ := by
  unfold reference
  constructor
  · intro h
    split at h
    case h_1 => cases h
    case h_2 source hsource =>
      split at h
      case isFalse => cases h
      case isTrue hslot =>
        have hindex : 0 ≤ index := by
          by_contra hneg
          simp [node?, hneg] at hsource
        rw [node?, if_pos hindex] at hsource
        refine ⟨index.toNat, slot.toNat, source, by omega, by omega, hsource, by omega, ?_⟩
        rw [Int.toNat_of_nonneg hindex, Int.toNat_of_nonneg hslot.1]
        exact (Except.ok.inj h).symm
  · rintro ⟨n, k, source, rfl, rfl, hsource, hk, rfl⟩
    simp [node?_natCast, hsource, hk]

/-- An input of the next node passes its check exactly when the definition offers it. -/
lemma checkInput_eq_ok_iff {r : Reference} :
    d.checkInput r = .ok () ↔ d.Offers d.nodes.size r := by
  obtain ⟨node, slot⟩ := r
  constructor
  · intro h
    unfold checkInput at h
    split at h
    case isTrue hconstant =>
      cases hfound : d.constantReference slot with
      | error e => rw [hfound] at h; cases h
      | ok found =>
        obtain ⟨k, rfl, hk, -⟩ := constantReference_eq_ok_iff.mp hfound
        have hnode : node = -1 := by simpa [Reference.isConstant] using hconstant
        subst hnode
        exact .constant hk
    case isFalse =>
      split at h
      case isTrue => cases h
      case isFalse hearlier =>
        cases hfound : d.reference node slot with
        | error e => rw [hfound] at h; cases h
        | ok found =>
          obtain ⟨n, k, source, rfl, rfl, hsource, hk, -⟩ := reference_eq_ok_iff.mp hfound
          exact .output (by simpa using hearlier) hsource hk
  · intro h
    unfold checkInput
    cases h with
    | constant hslot =>
      have hfound := constantReference_eq_ok_iff.mpr ⟨_, rfl, hslot, rfl⟩
      simp [Reference.isConstant, Reference.constant, hfound]
    | output hn hsource hslot =>
      have hfound := reference_eq_ok_iff.mpr ⟨_, _, _, rfl, rfl, hsource, hslot, rfl⟩
      rw [if_neg (by simp [Reference.isConstant]), if_neg (by simpa using hn), hfound]
      rfl

/-- An output that is offered can be referred to. -/
lemma reference_of_offers {index n : Nat} {slot : Int} (h : d.Offers index ⟨n, slot⟩) :
    d.reference n slot = .ok ⟨n, slot⟩ := by
  generalize hr : (⟨n, slot⟩ : Reference) = r at h
  cases h with
  | constant hslot =>
    have hnode : (n : Int) = -1 := congrArg Reference.node hr
    omega
  | output hn hsource hslot =>
    obtain ⟨hnode, hslotEq⟩ := Reference.mk.inj hr
    exact reference_eq_ok_iff.mpr ⟨_, _, _, hnode, hslotEq, hsource, hslot, rfl⟩

/-- Inputs pass their checks exactly when each of them is offered. -/
lemma checkInputs_eq_ok_iff {inputs : List Reference} :
    d.checkInputs inputs = .ok () ↔ ∀ r ∈ inputs, d.Offers d.nodes.size r := by
  induction inputs with
  | nil => simp [checkInputs]
  | cons r rs ih =>
    rw [List.forall_mem_cons, ← ih, ← checkInput_eq_ok_iff, checkInputs]
    cases d.checkInput r with
    | error e => simp [bind, Except.bind]
    | ok checked => simp [bind, Except.bind]

end Definition

/-! ### The next node -/

/-- The node that would be appended, once its class, its number of outputs, its special index, its
inputs and its rate have been checked in that order. -/
def Definition.newNode (d : Definition) (className : String) (rate : Int) (inputs : List Reference)
    (outputs special : Int) : Except Fault Node := do
  let _ ← shortName className
  if outputs < 0 then throw (.negativeOutputs className)
  if !Edit.specialFits special then throw (.specialRange className special)
  d.checkInputs inputs
  let some rate := Rate.ofCode? rate | throw (.invalidRate rate)
  return ⟨className, rate, inputs, List.replicate outputs.toNat rate, special⟩

/-- A node is accepted exactly when its class is a short name, its number of outputs is not
negative, its special index has sixteen bits, its inputs are offered and its rate exists. -/
lemma Definition.newNode_eq_ok_iff {className : String} {rate : Int} {inputs : List Reference}
    {outputs special : Int} {n : Node} :
    d.newNode className rate inputs outputs special = .ok n ↔
      IsShortName className ∧ 0 ≤ outputs ∧ Edit.specialFits special = true ∧
        (∀ r ∈ inputs, d.Offers d.nodes.size r) ∧
        ∃ r, Rate.ofCode? rate = some r ∧
          n = ⟨className, r, inputs, List.replicate outputs.toNat r, special⟩ := by
  rw [← Definition.checkInputs_eq_ok_iff]
  unfold newNode
  constructor
  · intro h
    obtain ⟨bytes, hname, h⟩ := bind_eq_ok.mp h
    dsimp only at h
    split at h
    case isTrue => obtain ⟨_, hthrow, -⟩ := bind_eq_ok.mp h; cases hthrow
    case isFalse houtputs =>
      split at h
      case isTrue => obtain ⟨_, hthrow, -⟩ := bind_eq_ok.mp h; cases hthrow
      case isFalse hspecial =>
        obtain ⟨checked, hinputs, h⟩ := bind_eq_ok.mp h
        split at h
        case h_2 => cases h
        case h_1 r hrate =>
          refine ⟨(shortName_eq_ok_iff.mp hname).1, Int.not_lt.mp houtputs, ?_, hinputs, r, hrate,
            (Except.ok.inj h).symm⟩
          simpa using hspecial
  · rintro ⟨hname, houtputs, hspecial, hinputs, r, hrate, rfl⟩
    have hbytes := shortName_eq_ok_iff.mpr ⟨hname, rfl⟩
    rw [hbytes, hinputs, hrate]
    simp [hspecial, Int.not_lt.mpr houtputs, bind, Except.bind, pure, Except.pure]

/-- A node at one of the three rates is accepted under the other conditions. -/
lemma Definition.newNode_code_eq_ok_iff {className : String} {rate : Rate}
    {inputs : List Reference} {outputs special : Int} {n : Node} :
    d.newNode className rate.code inputs outputs special = .ok n ↔
      (IsShortName className ∧ 0 ≤ outputs ∧ Edit.specialFits special = true ∧
        ∀ r ∈ inputs, d.Offers d.nodes.size r) ∧
        n = ⟨className, rate, inputs, List.replicate outputs.toNat rate, special⟩ := by
  rw [newNode_eq_ok_iff, Rate.ofCode?_code]
  simp only [Option.some.injEq, exists_eq_left', and_assoc]

/-- The definition with one more node. -/
def Definition.append (d : Definition) (n : Node) : Definition :=
  { d with nodes := d.nodes.push n }

namespace Edit

/-! ### Sequencing -/

/-- Returning a value leaves the definition alone. -/
@[simp] lemma apply_pure (a : α) (d : Definition) : (pure a : Edit α).apply d = (.ok a, d) := rfl

/-- Failing leaves the definition alone. -/
@[simp] lemma apply_throw (e : Fault) (d : Definition) :
    (throw e : Edit α).apply d = (.error e, d) := rfl

/-- Reading the definition leaves it alone. -/
@[simp] lemma apply_get (d : Definition) : (get : Edit Definition).apply d = (.ok d, d) := rfl

/-- Replacing the definition. -/
@[simp] lemma apply_set (d d' : Definition) : (set d' : Edit PUnit).apply d = (.ok ⟨⟩, d') := rfl

/-- Updating the definition. -/
@[simp] lemma apply_modify (f : Definition → Definition) (d : Definition) :
    (modify f : Edit PUnit).apply d = (.ok ⟨⟩, f d) := rfl

/-- Returning a value gives that value and the same definition. -/
lemma apply_pure_eq_ok {a b : α} : (pure a : Edit α).apply d = (.ok b, d') ↔ a = b ∧ d = d' := by
  rw [apply_pure, Prod.mk.injEq, Except.ok.injEq]

/-- A sequence stops at its first failure and keeps what was done until then. -/
lemma apply_bind (e : Edit α) (f : α → Edit β) (d : Definition) :
    (e >>= f).apply d =
      match e.apply d with
      | (.ok a, d') => (f a).apply d'
      | (.error x, d') => (.error x, d') := by
  have hunfold : (e >>= f).apply d = ExceptT.bindCont f (e.apply d).1 (e.apply d).2 := rfl
  rw [hunfold]
  rcases e.apply d with ⟨_ | a, d'⟩ <;> rfl

/-- A sequence succeeds exactly when its two parts do, one after the other. -/
lemma apply_bind_eq_ok {e : Edit α} {f : α → Edit β} {b : β} :
    (e >>= f).apply d = (.ok b, d') ↔
      ∃ a d₁, e.apply d = (.ok a, d₁) ∧ (f a).apply d₁ = (.ok b, d') := by
  rw [apply_bind]
  rcases e.apply d with ⟨_ | a, d₁⟩
  · simp
  · exact ⟨fun h => ⟨a, d₁, rfl, h⟩, fun ⟨_, _, h, hf⟩ => by cases h; exact hf⟩

/-- After a first part that succeeded the rest of a sequence is run. -/
lemma apply_bind_of_eq_ok {e : Edit α} {f : α → Edit β} {a : α} (h : e.apply d = (.ok a, d')) :
    (e >>= f).apply d = (f a).apply d' := by
  rw [apply_bind, h]

/-- Asking never changes the definition. -/
@[simp] lemma apply_ask (q : Definition → Except Fault α) (d : Definition) :
    (ask q).apply d = (q d, d) := by
  rw [ask, apply_bind, apply_get]
  cases h : q d <;> simp [h]

/-! ### The atomic edits -/

/-- Adding a literal either succeeds with a slot or leaves the definition as it was. -/
lemma apply_constant (v : Binary64) (d : Definition) :
    (constant v).apply d =
      match d.constants.intern v with
      | .ok (slot, pool) => (.ok (.constant slot), { d with constants := pool })
      | .error e => (.error e, d) := by
  rw [constant, apply_bind, apply_ask]
  rcases d.constants.intern v with e | ⟨slot, pool⟩ <;> rfl

/-- Adding a literal succeeds exactly when the pool takes it. -/
lemma apply_constant_eq_ok {v : Binary64} {r : Reference} :
    (constant v).apply d = (.ok r, d') ↔
      ∃ slot pool, d.constants.intern v = .ok (slot, pool) ∧ r = .constant slot ∧
        d' = { d with constants := pool } := by
  rw [apply_constant]
  rcases d.constants.intern v with e | ⟨slot, pool⟩
  · simp
  · simp [eq_comm]

/-- Declaring a parameter either succeeds with an index or leaves the definition as it was. -/
lemma apply_declare (name : String) (default : Binary64) (rate : String) (d : Definition) :
    (declare name default rate).apply d =
      match d.parameters.declare name default rate with
      | .ok (index, table) => (.ok index, { d with parameters := table })
      | .error e => (.error e, d) := by
  rw [declare, apply_bind, apply_ask]
  rcases d.parameters.declare name default rate with e | ⟨index, table⟩ <;> rfl

/-- Declaring a parameter succeeds exactly when the table takes it. -/
lemma apply_declare_eq_ok {name : String} {default : Binary64} {rate : String} {index : Nat} :
    (declare name default rate).apply d = (.ok index, d') ↔
      ∃ table, d.parameters.declare name default rate = .ok (index, table) ∧
        d' = { d with parameters := table } := by
  rw [apply_declare]
  rcases d.parameters.declare name default rate with e | ⟨index, table⟩
  · simp
  · simp [eq_comm]

/-- Appending a node either succeeds with its index or leaves the definition as it was. -/
lemma apply_node (className : String) (rate : Int) (inputs : List Reference)
    (outputs special : Int) (d : Definition) :
    (node className rate inputs outputs special).apply d =
      match d.newNode className rate inputs outputs special with
      | .ok n => (.ok d.nodes.size, d.append n)
      | .error e => (.error e, d) := by
  unfold node Definition.newNode
  rw [apply_bind, apply_ask]
  cases shortName className with
  | error e => rfl
  | ok bytes =>
    by_cases houtputs : outputs < 0
    · simp only [houtputs, ↓reduceIte]; rfl
    · by_cases hspecial : specialFits special = true
      · simp only [houtputs, hspecial, ↓reduceIte, Bool.not_true, Bool.false_eq_true]
        rw [apply_bind, apply_ask]
        cases d.checkInputs inputs with
        | error e => rfl
        | ok checked => cases Rate.ofCode? rate <;> rfl
      · simp only [houtputs, hspecial, ↓reduceIte, Bool.not_false]; rfl

/-- Appending a node succeeds exactly when the node is accepted. -/
lemma apply_node_eq_ok {className : String} {rate : Int} {inputs : List Reference}
    {outputs special : Int} {index : Nat} :
    (node className rate inputs outputs special).apply d = (.ok index, d') ↔
      ∃ n, d.newNode className rate inputs outputs special = .ok n ∧ index = d.nodes.size ∧
        d' = d.append n := by
  rw [apply_node]
  cases d.newNode className rate inputs outputs special with
  | error e => simp
  | ok n =>
    simp only [Prod.mk.injEq, Except.ok.injEq, exists_eq_left']
    exact and_congr eq_comm eq_comm

/-- A unit is a node with one output, and the reference to that output always exists. -/
lemma apply_unit (className : String) (rate : Int) (inputs : List Reference) (special : Int)
    (d : Definition) :
    (unit className rate inputs special).apply d =
      match d.newNode className rate inputs 1 special with
      | .ok n => (.ok ⟨d.nodes.size, 0⟩, d.append n)
      | .error e => (.error e, d) := by
  rw [unit, apply_bind, apply_node]
  cases hn : d.newNode className rate inputs 1 special with
  | error e => rfl
  | ok n =>
    obtain ⟨-, -, -, -, r, -, rfl⟩ := Definition.newNode_eq_ok_iff.mp hn
    simp [Definition.reference, Definition.node?, Definition.append]

/-- Appending a unit succeeds exactly when its node is accepted. -/
lemma apply_unit_eq_ok {className : String} {rate : Int} {inputs : List Reference} {special : Int}
    {r : Reference} :
    (unit className rate inputs special).apply d = (.ok r, d') ↔
      ∃ n, d.newNode className rate inputs 1 special = .ok n ∧ r = ⟨d.nodes.size, 0⟩ ∧
        d' = d.append n := by
  rw [apply_unit]
  cases d.newNode className rate inputs 1 special with
  | error e => simp
  | ok n =>
    simp only [Prod.mk.injEq, Except.ok.injEq, exists_eq_left']
    exact and_congr eq_comm eq_comm

end Edit

end SynthGraph
