import SynthGraph.Proofs.Graph.Interning
import SynthGraph.Proofs.Graph.Signal

/-!
# When edits succeed

Edits are refused for names that are no short names, for names that are declared twice, and for
numbers that overflow.  `SucceedsIff` says of an edit that it succeeds exactly under a condition and
is otherwise refused for one of these reasons.  The conditions of a sequence are those of its parts,
so that the condition of a whole construction is found part by part.
-/

namespace SynthGraph

/-- The fault is about a name that cannot be written, about a name that is declared twice, or about
a number that overflows. -/
def Fault.IsRefusal (e : Fault) : Prop :=
  e.kind = .nameLength ∨ e.kind = .duplicateParameter ∨ e.kind = .format

/-- A name is refused when it is not a short one. -/
lemma shortName_eq_error {s : String} {e : Fault} (h : shortName s = .error e) :
    ¬IsShortName s ∧ e.IsRefusal := by
  have hname : ¬IsShortName s := by
    intro hname
    rw [shortName_eq_ok_iff.mpr ⟨hname, rfl⟩] at h
    cases h
  obtain ⟨e', he', hkind⟩ := shortName_of_not_isShortName hname
  obtain rfl : e = e' := Except.error.inj (h.symm.trans he')
  exact ⟨hname, .inl hkind⟩

/-- A definition is refused under a name that is not a short one. -/
lemma Definition.new_eq_error {name : String} {e : Fault} (h : Definition.new name = .error e) :
    ¬IsShortName name ∧ e.IsRefusal := by
  cases hname : shortName name with
  | ok bytes =>
    rw [Definition.new, hname] at h
    cases h
  | error x =>
    rw [Definition.new, hname] at h
    obtain rfl : x = e := Except.error.inj h
    exact shortName_eq_error hname

namespace Edit

variable {α β : Type} {d d' : Definition} {C C' : Prop}

/-- The edit succeeds on a definition exactly under a condition, and is refused otherwise. -/
def SucceedsIff (e : Edit α) (d : Definition) (C : Prop) : Prop :=
  match e.apply d with
  | (.ok _, _) => C
  | (.error x, _) => ¬C ∧ x.IsRefusal

/-- What is known of the outcome of an edit. -/
lemma SucceedsIff.cases {e : Edit α} (h : e.SucceedsIff d C) :
    (C ∧ ∃ a d', e.apply d = (.ok a, d')) ∨
      (¬C ∧ ∃ x d', e.apply d = (.error x, d') ∧ x.IsRefusal) := by
  unfold SucceedsIff at h
  rcases hrun : e.apply d with ⟨x | a, d'⟩ <;> rw [hrun] at h
  · exact .inr ⟨h.1, x, d', rfl, h.2⟩
  · exact .inl ⟨h, a, d', rfl⟩

/-- The condition of an edit that succeeds. -/
lemma SucceedsIff.of_eq_ok {e : Edit α} {a : α} (h : e.apply d = (.ok a, d')) (hC : C) :
    e.SucceedsIff d C := by
  rw [SucceedsIff, h]
  exact hC

/-- The condition of an edit that is refused. -/
lemma SucceedsIff.of_eq_error {e : Edit α} {x : Fault} (h : e.apply d = (.error x, d'))
    (hC : ¬C) (hx : x.IsRefusal) : e.SucceedsIff d C := by
  rw [SucceedsIff, h]
  exact ⟨hC, hx⟩

/-- Conditions that say the same. -/
lemma SucceedsIff.congr {e : Edit α} (h : e.SucceedsIff d C) (hC : C ↔ C') :
    e.SucceedsIff d C' :=
  propext hC ▸ h

/-- Returning a value succeeds. -/
lemma SucceedsIff.pure (a : α) (d : Definition) : (pure a : Edit α).SucceedsIff d True :=
  .of_eq_ok (apply_pure a d) trivial

/-- A sequence succeeds exactly when its parts do. -/
lemma SucceedsIff.bind {e : Edit α} {f : α → Edit β} (he : e.SucceedsIff d C)
    (hf : ∀ a d', C → e.apply d = (.ok a, d') → (f a).SucceedsIff d' C') :
    (e >>= f).SucceedsIff d (C ∧ C') := by
  rcases he.cases with ⟨hC, a, d', hrun⟩ | ⟨hC, x, d', hrun, hx⟩
  · have hrest := hf a d' hC hrun
    rw [SucceedsIff, apply_bind_of_eq_ok hrun]
    exact hrest.congr ⟨fun hC' => ⟨hC, hC'⟩, And.right⟩
  · exact .of_eq_error (by rw [apply_bind, hrun]) (fun hboth => hC hboth.1) hx

/-- A last part that always succeeds adds no condition. -/
lemma SucceedsIff.bind_total {e : Edit α} {f : α → Edit β} (he : e.SucceedsIff d C)
    (hf : ∀ a d', e.apply d = (.ok a, d') → (f a).SucceedsIff d' True) :
    (e >>= f).SucceedsIff d C :=
  (he.bind fun a d' _ hrun => hf a d' hrun).congr (by rw [and_true])

/-- A first part that succeeds leaves the condition to the rest. -/
lemma SucceedsIff.bind_of_eq_ok {e : Edit α} {f : α → Edit β} {a : α}
    (he : e.apply d = (.ok a, d')) (hf : (f a).SucceedsIff d' C) :
    (e >>= f).SucceedsIff d C := by
  rw [SucceedsIff, apply_bind_of_eq_ok he]
  exact hf

/-! ### The atomic edits -/

/-- Adding a literal to a pool in which nothing overflows succeeds unless the literal overflows. -/
lemma succeedsIff_constant {literals : List Binary64} (hholds : d.constants.Holds literals)
    (hfit : ∀ w ∈ literals, ¬w.Overflows) (v : Binary64) :
    (constant v).SucceedsIff d (¬v.Overflows) := by
  by_cases hv : v.Overflows
  · have hrefused : (constant v).apply d = (.error (.notSingle v), d) := by
      rw [apply_constant, hholds.intern_of_overflows hfit hv]
    exact .of_eq_error hrefused (not_not_intro hv) (.inr (.inr rfl))
  · obtain ⟨slot, pool, hintern⟩ := d.constants.exists_intern_eq_ok hv
    exact .of_eq_ok (apply_constant_eq_ok.mpr ⟨slot, pool, hintern, rfl, rfl⟩) hv

/-- Declaring a parameter in an open table, where its rate does not come too late, succeeds exactly
for a short name that is new and a default that does not overflow. -/
lemma succeedsIff_declare {rate : ParameterRate} (hopen : d.parameters.isSealed = false)
    (hlate : d.parameters.tooLate? rate = none) (name : String) (default : Binary64) :
    (declare name default rate.name).SucceedsIff d
      (IsShortName name ∧ name ∉ d.parameters.toList.map Parameter.name ∧
        ¬default.Overflows) := by
  by_cases hname : IsShortName name
  · rw [SucceedsIff, apply_declare, ParameterTable.declare_of_isShortName hname, hopen, hlate]
    by_cases hold : d.parameters.contains name = true
    · rw [if_neg Bool.false_ne_true, if_pos hold]
      exact ⟨fun h => h.2.1 (ParameterTable.contains_eq_true_iff.mp hold), .inr (.inl rfl)⟩
    · rw [if_neg Bool.false_ne_true, if_neg hold]
      cases hnarrow : default.narrow? with
      | none => exact ⟨fun h => h.2.2 (FloatDatum.narrow?_eq_none_iff.mp hnarrow), .inr (.inr rfl)⟩
      | some x =>
        refine ⟨hname, fun hmem => hold (ParameterTable.contains_eq_true_iff.mpr hmem), ?_⟩
        rw [← FloatDatum.isSome_narrow?_iff, hnarrow]
        rfl
  · obtain ⟨e, he, hkind⟩ :=
      ParameterTable.declare_of_not_isShortName (t := d.parameters) hname default rate.name
    exact .of_eq_error (by rw [apply_declare, he]) (fun h => hname h.1) (.inl hkind)

variable {className : String} {rate : Rate} {inputs : List Reference} {outputs special : Int}

/-- Appending a node that reads what is offered succeeds exactly when its class is a short name. -/
lemma succeedsIff_node (hinputs : ∀ r ∈ inputs, d.Offers d.nodes.size r) (houtputs : 0 ≤ outputs)
    (hspecial : specialFits special = true) :
    (node className rate.code inputs outputs special).SucceedsIff d (IsShortName className) := by
  by_cases hname : IsShortName className
  · have hnode := Definition.newNode_eq_ok_iff.mpr
      ⟨hname, houtputs, hspecial, hinputs, rate, Rate.ofCode?_code rate, rfl⟩
    exact .of_eq_ok (apply_node_eq_ok.mpr ⟨_, hnode, rfl, rfl⟩) hname
  · cases hshort : shortName className with
    | ok bytes => exact absurd (shortName_eq_ok_iff.mp hshort).1 hname
    | error x =>
      have hrefused : (node className rate.code inputs outputs special).apply d =
          (.error x, d) := by
        rw [apply_node, Definition.newNode, hshort]
        rfl
      exact .of_eq_error hrefused hname (shortName_eq_error hshort).2

/-- Appending a unit that reads what is offered succeeds exactly when its class is a short name. -/
lemma succeedsIff_unit (hinputs : ∀ r ∈ inputs, d.Offers d.nodes.size r)
    (hspecial : specialFits special = true) :
    (unit className rate.code inputs special).SucceedsIff d (IsShortName className) := by
  have hnode : (node className rate.code inputs 1 special).SucceedsIff d (IsShortName className) :=
    succeedsIff_node hinputs Int.one_nonneg hspecial
  rw [SucceedsIff, apply_node] at hnode
  rw [SucceedsIff, apply_unit]
  cases hnew : d.newNode className rate.code inputs 1 special with
  | ok n => rwa [hnew] at hnode
  | error x => rwa [hnew] at hnode

end Edit

namespace Definition

variable {d : Definition} {r : Reference} {t : Signal}

/-- What has a signal within some nodes is offered to the next one. -/
lemma offers_of_signalWithin? {n : Nat} (h : d.signalWithin? n r = some t) : d.Offers n r := by
  induction n with
  | zero =>
    rw [signalWithin?] at h
    split at h
    case isFalse => cases h
    case isTrue hconstant =>
      obtain ⟨x, hx, -⟩ := Option.map_eq_some_iff.mp h
      obtain ⟨hlt, -⟩ := List.getElem?_eq_some_iff.mp hx
      obtain ⟨node, slot⟩ := r
      obtain ⟨hnode, hslot⟩ := hconstant
      obtain ⟨k, rfl⟩ := Int.eq_ofNat_of_zero_le hslot
      obtain rfl : node = -1 := by simpa [Reference.isConstant] using hnode
      exact .constant (by simpa using hlt)
  | succ n ih =>
    rw [signalWithin?] at h
    split at h
    case isFalse => exact (ih h).mono (.refl d) (Nat.le_succ n)
    case isTrue hnode =>
      obtain ⟨source, hsource, hsignal⟩ := Option.bind_eq_some_iff.mp h
      unfold Node.signal? at hsignal
      split at hsignal
      case isFalse => cases hsignal
      case isTrue hslot =>
        obtain ⟨node, slot⟩ := r
        obtain ⟨k, rfl⟩ := Int.eq_ofNat_of_zero_le hslot.1
        dsimp only at hnode hslot
        subst hnode
        exact .output (Nat.lt_succ_self n) hsource (by omega)

/-- What has a signal can be read by the next node. -/
lemma offers_of_signal? (h : d.signal? r = some t) : d.Offers d.nodes.size r :=
  offers_of_signalWithin? h

/-- References that have signals can be read by the next node. -/
lemma Signals.offers {rs : List Reference} {ts : List Signal} (h : d.Signals rs ts) :
    ∀ r ∈ rs, d.Offers d.nodes.size r := by
  intro r hr
  obtain ⟨i, hi, rfl⟩ := List.getElem_of_mem hr
  exact offers_of_signal? (h.get hi (h.length_eq ▸ hi))

end Definition

end SynthGraph
