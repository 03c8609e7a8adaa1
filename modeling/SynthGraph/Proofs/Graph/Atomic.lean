import SynthGraph.Proofs.Graph.Dag

/-!
# Operations that make one change

Appending a node looks at its class, its number of outputs, its special index, its inputs from left
to right, and its rate, in that order, and the first of them that is refused decides the fault.
The operations that make at most one change look at everything before they make it, so that they
leave a definition as it was when they fail.
-/

namespace SynthGraph

/-! ### Requirements in an order -/

/-- A condition and the faults that report its violation. -/
structure Requirement where
  holds : Prop
  reports : Fault → Prop

/-- The fault reports the first condition of a list that is violated. -/
def ReportsFirst : List Requirement → Fault → Prop
  | [], _ => False
  | c :: rest, e => (¬c.holds ∧ c.reports e) ∨ (c.holds ∧ ReportsFirst rest e)

/-- The first violation is among the first conditions, or these are met and it is among the
others. -/
lemma reportsFirst_append {conditions more : List Requirement} {e : Fault} :
    ReportsFirst (conditions ++ more) e ↔
      ReportsFirst conditions e ∨ ((∀ c ∈ conditions, c.holds) ∧ ReportsFirst more e) := by
  induction conditions with
  | nil => simp [ReportsFirst]
  | cons c rest ih =>
    rw [List.cons_append, ReportsFirst, ih, ReportsFirst, List.forall_mem_cons]
    tauto

namespace Definition

variable {d d' : Definition} {className : String} {rate : Int} {inputs : List Reference}
  {outputs special : Int}

/-- An input has to be a slot of the pool or an output of a node that exists. -/
def inputRequirement (d : Definition) (r : Reference) : Requirement where
  holds := d.Offers d.nodes.size r
  reports e := e.kind = .danglingReference ∧ d.checkInput r = .error e

/-- What a node has to meet, in the order in which it is looked at. -/
def nodeRequirements (d : Definition) (className : String) (rate : Int) (inputs : List Reference)
    (outputs special : Int) : List Requirement :=
  ⟨IsShortName className, (·.kind = .nameLength)⟩ :: ⟨0 ≤ outputs, (·.kind = .graph)⟩ ::
    ⟨-32768 ≤ special ∧ special ≤ 32767, (·.kind = .graph)⟩ ::
      (inputs.map d.inputRequirement ++ [⟨rate = 0 ∨ rate = 1 ∨ rate = 2, (·.kind = .value)⟩])

/-- An input that is refused is a dangling reference. -/
lemma kind_of_checkInput {r : Reference} {e : Fault} (h : d.checkInput r = .error e) :
    e.kind = .danglingReference := by
  have hconstant : ∀ slot, d.constantReference slot = .error e → e.kind = .danglingReference := by
    intro slot hslot
    unfold constantReference at hslot
    split at hslot <;> cases hslot
    rfl
  have houtput : ∀ index slot, d.reference index slot = .error e →
      e.kind = .danglingReference := by
    intro index slot hslot
    unfold reference at hslot
    split at hslot
    case h_1 => cases hslot; rfl
    case h_2 => split at hslot <;> cases hslot; rfl
  unfold checkInput at h
  split at h
  case isTrue =>
    cases hslot : d.constantReference r.slot with
    | ok found => rw [hslot] at h; cases h
    | error e' => rw [hslot] at h; cases h; exact hconstant _ hslot
  case isFalse =>
    split at h
    case isTrue => cases h; rfl
    case isFalse =>
      cases hslot : d.reference r.node r.slot with
      | ok found => rw [hslot] at h; cases h
      | error e' => rw [hslot] at h; cases h; exact houtput _ _ hslot

/-- Inputs that are refused are refused for the first of them that is not offered. -/
lemma reportsFirst_of_checkInputs {e : Fault} (h : d.checkInputs inputs = .error e) :
    ReportsFirst (inputs.map d.inputRequirement) e := by
  induction inputs with
  | nil => cases h
  | cons r rs ih =>
    rw [checkInputs] at h
    cases hr : d.checkInput r with
    | error e' =>
      rw [hr] at h
      obtain rfl := Except.error.inj h
      refine .inl ⟨fun hoffers => ?_, kind_of_checkInput hr, hr⟩
      rw [checkInput_eq_ok_iff.mpr hoffers] at hr
      cases hr
    | ok checked =>
      rw [hr] at h
      exact .inr ⟨checkInput_eq_ok_iff.mp hr, ih h⟩

/-- The rates that exist are three. -/
lemma exists_ofCode?_iff :
    (∃ r, Rate.ofCode? rate = some r) ↔ rate = 0 ∨ rate = 1 ∨ rate = 2 := by
  constructor
  · rintro ⟨r, hr⟩
    by_contra hrate
    simp only [not_or] at hrate
    rw [Rate.ofCode?, if_neg hrate.1, if_neg hrate.2.1, if_neg hrate.2.2] at hr
    cases hr
  · rintro (rfl | rfl | rfl)
    · exact ⟨.scalar, rfl⟩
    · exact ⟨.control, rfl⟩
    · exact ⟨.audio, rfl⟩

/-- What is looked at after the class of a node. -/
lemma newNode_of_isShortName (hname : IsShortName className) :
    d.newNode className rate inputs outputs special =
      if outputs < 0 then .error (.negativeOutputs className)
      else if Edit.specialFits special = false then .error (.specialRange className special)
      else match d.checkInputs inputs, Rate.ofCode? rate with
        | .error e, _ => .error e
        | .ok _, none => .error (.invalidRate rate)
        | .ok _, some r =>
          .ok ⟨className, r, inputs, List.replicate outputs.toNat r, special⟩ := by
  rw [newNode, shortName_eq_ok_iff.mpr ⟨hname, rfl⟩]
  by_cases houtputs : outputs < 0
  · simp only [houtputs, ↓reduceIte]
    rfl
  · cases hspecial : Edit.specialFits special with
    | false => simp [houtputs, bind, Except.bind]; rfl
    | true =>
      cases d.checkInputs inputs <;> cases Rate.ofCode? rate <;>
        simp [houtputs, bind, Except.bind] <;> rfl

/-- A node that is refused is refused for the first requirement that it does not meet. -/
lemma reportsFirst_of_newNode {e : Fault}
    (h : d.newNode className rate inputs outputs special = .error e) :
    ReportsFirst (d.nodeRequirements className rate inputs outputs special) e := by
  by_cases hname : IsShortName className
  case neg =>
    obtain ⟨e', he', hkind⟩ := shortName_of_not_isShortName hname
    rw [newNode, he'] at h
    obtain rfl := Except.error.inj h
    exact .inl ⟨hname, hkind⟩
  rw [newNode_of_isShortName hname] at h
  refine .inr ⟨hname, ?_⟩
  split at h
  case isTrue houtputs =>
    obtain rfl := Except.error.inj h
    exact .inl ⟨Int.not_le.mpr houtputs, rfl⟩
  case isFalse houtputs =>
    refine .inr ⟨Int.not_lt.mp houtputs, ?_⟩
    split at h
    case isTrue hspecial =>
      obtain rfl := Except.error.inj h
      refine .inl ⟨fun hfits => ?_, rfl⟩
      rw [specialFits_iff.mpr hfits] at hspecial
      cases hspecial
    case isFalse hspecial =>
      refine .inr ⟨specialFits_iff.mp (Bool.not_eq_false _ ▸ hspecial), ?_⟩
      rw [reportsFirst_append]
      split at h
      case h_1 hinputs =>
        obtain rfl := Except.error.inj h
        exact .inl (reportsFirst_of_checkInputs hinputs)
      case h_2 hinputs hrate =>
        obtain rfl := Except.error.inj h
        refine .inr ⟨?_, .inl ⟨fun hcode => ?_, rfl⟩⟩
        · simpa [inputRequirement] using checkInputs_eq_ok_iff.mp hinputs
        · obtain ⟨r, hr⟩ := exists_ofCode?_iff.mpr hcode
          rw [hrate] at hr
          cases hr
      case h_3 => cases h

/-! ### Appending a node -/

/-- What appending a node does to a definition. -/
structure AppendsNode (d : Definition) (className : String) (rate : Int) (inputs : List Reference)
    (outputs special : Int) : Prop where
  /-- The node is accepted exactly when its class is a short name, its number of outputs is not
  negative, its special index has sixteen bits, its inputs exist and its rate is one of three. -/
  succeeds_iff :
    (∃ index d', (Edit.node className rate inputs outputs special).apply d = (.ok index, d')) ↔
      IsShortName className ∧ 0 ≤ outputs ∧ (-32768 ≤ special ∧ special ≤ 32767) ∧
        (∀ r ∈ inputs, d.Offers d.nodes.size r) ∧ (rate = 0 ∨ rate = 1 ∨ rate = 2)
  /-- A node that is accepted is appended with outputs of its rate, and nothing else changes. -/
  appends : ∀ index d',
    (Edit.node className rate inputs outputs special).apply d = (.ok index, d') →
      index = d.nodes.size ∧ ∃ r : Rate, r.code = rate ∧
        d' = { d with
          nodes := d.nodes.push
            ⟨className, r, inputs, List.replicate outputs.toNat r, special⟩ }
  /-- A node that is refused changes nothing and is refused for the first requirement that it does
  not meet. -/
  fails : ∀ e d',
    (Edit.node className rate inputs outputs special).apply d = (.error e, d') →
      d' = d ∧ ReportsFirst (d.nodeRequirements className rate inputs outputs special) e

/-- The rate of a code has that code. -/
lemma code_of_ofCode? {r : Rate} (h : Rate.ofCode? rate = some r) : r.code = rate := by
  obtain rfl | rfl | rfl := exists_ofCode?_iff.mp ⟨r, h⟩ <;> cases h <;> rfl

/-- Appending a node does so, whatever its arguments are. -/
lemma appendsNode (d : Definition) (className : String) (rate : Int) (inputs : List Reference)
    (outputs special : Int) : d.AppendsNode className rate inputs outputs special := by
  constructor
  case succeeds_iff =>
    rw [← specialFits_iff, ← exists_ofCode?_iff]
    constructor
    · rintro ⟨index, d', h⟩
      obtain ⟨n, hn, -⟩ := Edit.apply_node_eq_ok.mp h
      obtain ⟨hname, houtputs, hspecial, hinputs, r, hr, -⟩ := newNode_eq_ok_iff.mp hn
      exact ⟨hname, houtputs, hspecial, hinputs, r, hr⟩
    · rintro ⟨hname, houtputs, hspecial, hinputs, r, hr⟩
      have hn := newNode_eq_ok_iff.mpr ⟨hname, houtputs, hspecial, hinputs, r, hr, rfl⟩
      exact ⟨_, _, Edit.apply_node_eq_ok.mpr ⟨_, hn, rfl, rfl⟩⟩
  case appends =>
    intro index d' h
    obtain ⟨n, hn, hindex, rfl⟩ := Edit.apply_node_eq_ok.mp h
    obtain ⟨-, -, -, -, r, hr, rfl⟩ := newNode_eq_ok_iff.mp hn
    exact ⟨hindex, r, code_of_ofCode? hr, rfl⟩
  case fails =>
    intro e d' h
    rw [Edit.apply_node] at h
    cases hn : d.newNode className rate inputs outputs special with
    | ok n => rw [hn] at h; cases h
    | error e' =>
      rw [hn] at h
      obtain ⟨he, rfl⟩ := Prod.mk.inj h
      obtain rfl := Except.error.inj he
      exact ⟨rfl, reportsFirst_of_newNode hn⟩

end Definition

/-! ### Operations that make at most one change -/

/-- The operations that make at most one change: emitting the control nodes is one of them when it
is done again. -/
def Operation.IsSingle (d : Definition) : Operation → Prop
  | controls => d.parameters.isSealed = true
  | contribution _ | outputStage .. => False
  | _ => True

namespace Edit

variable {α β : Type}

/-- An edit that leaves a definition as it was when it fails. -/
def IsAtomic (e : Edit α) (d : Definition) : Prop :=
  ∀ fault d', e.apply d = (.error fault, d') → d' = d

variable {e : Edit α} {d : Definition}

/-- Asking is atomic. -/
lemma isAtomic_ask (q : Definition → Except Fault α) : IsAtomic (ask q) d := by
  intro fault d' h
  rw [apply_ask] at h
  exact (Prod.mk.inj h).2.symm

/-- What is made of the result does not matter. -/
lemma IsAtomic.bind_pure (he : IsAtomic e d) (f : α → β) :
    IsAtomic (e >>= fun a => pure (f a)) d := by
  intro fault d' h
  rw [apply_bind] at h
  rcases hrun : e.apply d with ⟨x | a, d₁⟩ <;> rw [hrun] at h
  · obtain rfl := (Prod.mk.inj h).2
    exact he _ _ hrun
  · cases h

/-- What is made of the result does not matter. -/
lemma IsAtomic.map (he : IsAtomic e d) (f : α → β) : IsAtomic (f <$> e) d := by
  rw [map_eq_pure_bind]
  exact he.bind_pure f

/-- Adding a literal is atomic. -/
lemma isAtomic_constant (v : Binary64) : IsAtomic (constant v) d := by
  intro fault d' h
  rw [apply_constant] at h
  split at h <;> cases h
  rfl

/-- Declaring a parameter is atomic. -/
lemma isAtomic_declare (name : String) (default : Binary64) (rate : String) :
    IsAtomic (declare name default rate) d := by
  intro fault d' h
  rw [apply_declare] at h
  split at h <;> cases h
  rfl

/-- Appending a node is atomic. -/
lemma isAtomic_node (className : String) (rate : Int) (inputs : List Reference)
    (outputs special : Int) : IsAtomic (node className rate inputs outputs special) d :=
  fun fault d' h => ((d.appendsNode className rate inputs outputs special).fails fault d' h).1

/-- Appending a unit is atomic, because its output always exists. -/
lemma isAtomic_unit (className : String) (rate : Int) (inputs : List Reference) (special : Int) :
    IsAtomic (unit className rate inputs special) d := by
  intro fault d' h
  rw [apply_unit] at h
  split at h <;> cases h
  rfl

/-- Emitting the control nodes again is atomic. -/
lemma isAtomic_controls (h : d.parameters.isSealed = true) : IsAtomic controls d := by
  intro fault d' hfail
  rw [apply_controls_of_isSealed h] at hfail
  exact (Prod.mk.inj hfail).2.symm

end Edit

/-- An operation that makes at most one change is atomic. -/
lemma Operation.IsSingle.isAtomic {op : Operation} {d : Definition} (h : op.IsSingle d) :
    op.edit.IsAtomic d := by
  cases op with
  | declare name default rate => exact (Edit.isAtomic_declare name default rate).bind_pure _
  | constant v => exact (Edit.isAtomic_constant v).map _
  | constantReference slot => exact (Edit.isAtomic_ask _).map _
  | reference index slot => exact (Edit.isAtomic_ask _).map _
  | node className rate inputs outputs special =>
    exact (Edit.isAtomic_node className rate inputs outputs special).bind_pure _
  | binary op rate left right => exact (Edit.isAtomic_unit _ rate [left, right] op.special).map _
  | controls => exact (Edit.isAtomic_controls h).bind_pure _
  | parameterReference name => exact (Edit.isAtomic_ask _).map _
  | contribution p => exact h.elim
  | outputStage signal c => exact h.elim

namespace Definition

/-- What the operations that make at most one change do to a definition. -/
structure EditsAtomically (d : Definition) : Prop where
  /-- A node is appended as it is, or refused for the first requirement that it does not meet. -/
  node : ∀ className rate inputs outputs special,
    d.AppendsNode className rate inputs outputs special
  /-- An operation that makes at most one change and fails makes none. -/
  unchanged : ∀ op : Operation, op.IsSingle d → ∀ e, (op.edit.apply d).1 = .error e → op.run d = d
  /-- Emitting the control nodes again fails. -/
  controls : d.parameters.isSealed = true →
    ∃ e, (Operation.controls.edit.apply d).1 = .error e ∧ e.kind = .parameterOrder
  /-- An arithmetic node whose node is appended is referred to. -/
  binary : ∀ (op : BinaryOperator) rate left right index d',
    (Edit.node "BinaryOpUGen" rate [left, right] 1 op.special).apply d = (.ok index, d') →
      (Edit.binary op rate left right).apply d = (.ok ⟨index, 0⟩, d')

/-- In every definition, appending a node and the other operations that make at most one change do
what they say or nothing at all. -/
theorem editsAtomically (d : Definition) : d.EditsAtomically := by
  refine ⟨d.appendsNode, ?_, ?_, ?_⟩
  · intro op hop e he
    exact hop.isAtomic e _ (Prod.ext he rfl)
  · intro hsealed
    refine ⟨.controlsEmitted d.name, ?_, rfl⟩
    rw [Operation.edit, Edit.apply_bind, Edit.apply_controls_of_isSealed hsealed]
  · intro op rate left right index d' h
    obtain ⟨n, hn, rfl, rfl⟩ := Edit.apply_node_eq_ok.mp h
    exact Edit.apply_unit_eq_ok.mpr ⟨n, hn, rfl, rfl⟩

/-- A graph of one noise: a node with a wrong rate is refused for its special index, then for the
second input, then for the rate, and a product of the noise with itself is appended. -/
theorem editsAtomically_noise :
    let d : Definition := ⟨"graph", .empty, .empty, #[⟨"WhiteNoise", .audio, [], [.audio], 0⟩], []⟩
    d.EditsAtomically ∧
      (Edit.node "Out" 7 [⟨0, 0⟩, ⟨1, 0⟩] 0 40000).apply d =
        (.error (.specialRange "Out" 40000), d) ∧
      (Edit.node "Out" 7 [⟨0, 0⟩, ⟨1, 0⟩] 0 0).apply d = (.error (.notEarlier 1 1), d) ∧
      (Edit.node "Out" 7 [⟨0, 0⟩] 0 0).apply d = (.error (.invalidRate 7), d) ∧
      (Edit.binary .mul 2 ⟨0, 0⟩ ⟨0, 0⟩).apply d =
        (.ok ⟨1, 0⟩, d.append ⟨"BinaryOpUGen", .audio, [⟨0, 0⟩, ⟨0, 0⟩], [.audio], 2⟩) :=
  ⟨editsAtomically _, by decide +kernel, by decide +kernel, by decide +kernel, by decide +kernel⟩

end Definition

end SynthGraph
