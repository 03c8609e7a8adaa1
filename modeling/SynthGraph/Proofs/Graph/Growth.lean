import SynthGraph.Proofs.Graph.ConstantPool
import SynthGraph.Proofs.Graph.Operation
import SynthGraph.Proofs.Graph.ParameterTable

/-!
# Definitions only grow

Every operation appends: the literals, the parameters, the nodes and the bindings of a definition
are those of every later one up to their number.  What a definition offers to its nodes it therefore
offers for good.
-/

namespace SynthGraph

/-- What stands in a list stands at the same place in every list that goes on from it. -/
lemma getElem?_of_prefix {α : Type} {l more : List α} {i : Nat} {a : α} (h : l <+: more)
    (ha : l[i]? = some a) : more[i]? = some a := by
  obtain ⟨later, rfl⟩ := h
  obtain ⟨hlt, -⟩ := List.getElem?_eq_some_iff.mp ha
  rw [List.getElem?_append_left hlt, ha]

namespace Definition

variable {d d' d'' : Definition}

/-- A definition with everything of another one at the same place. -/
structure Extends (d d' : Definition) : Prop where
  name : d'.name = d.name
  constants : d.constants.values <+: d'.constants.values
  parameters : d.parameters.toList <+: d'.parameters.toList
  nodes : d.nodes.toList <+: d'.nodes.toList
  bindings : d.bindings <+: d'.bindings
  isSealed : d.parameters.isSealed = true → d'.parameters.isSealed = true

/-- A definition extends itself. -/
lemma Extends.refl (d : Definition) : d.Extends d :=
  ⟨rfl, List.prefix_rfl, List.prefix_rfl, List.prefix_rfl, List.prefix_rfl, id⟩

/-- Extensions compose. -/
lemma Extends.trans (h : d.Extends d') (h' : d'.Extends d'') : d.Extends d'' :=
  ⟨h'.name.trans h.name, h.constants.trans h'.constants, h.parameters.trans h'.parameters,
    h.nodes.trans h'.nodes, h.bindings.trans h'.bindings, fun hs => h'.isSealed (h.isSealed hs)⟩

/-- The pool of an extension is at least as large. -/
lemma Extends.constants_size_le (h : d.Extends d') : d.constants.size ≤ d'.constants.size := by
  have hlength := h.constants.length_le
  rwa [ConstantPool.length_values, ConstantPool.length_values] at hlength

/-- An extension has at least as many nodes. -/
lemma Extends.nodes_size_le (h : d.Extends d') : d.nodes.size ≤ d'.nodes.size :=
  h.nodes.length_le

/-- The nodes of a definition stand at the same index in its extensions. -/
lemma Extends.getElem?_nodes (h : d.Extends d') {i : Nat} {n : Node} (hn : d.nodes[i]? = some n) :
    d'.nodes[i]? = some n := by
  rw [← Array.getElem?_toList] at hn ⊢
  exact getElem?_of_prefix h.nodes hn

/-- What a definition offers to a node its extensions offer to it and to every later one. -/
lemma Offers.mono {i j : Nat} {r : Reference} (hr : d.Offers i r) (h : d.Extends d')
    (hij : i ≤ j) : d'.Offers j r := by
  cases hr with
  | constant hslot => exact .constant (lt_of_lt_of_le hslot h.constants_size_le)
  | output hn hsource hslot =>
    exact .output (lt_of_lt_of_le hn hij) (h.getElem?_nodes hsource) hslot

/-- A slot in which a literal is stored is offered. -/
lemma offers_of_getElem?_values {i slot : Nat} {x : Binary32}
    (hx : d.constants.values[slot]? = some x) : d.Offers i (.constant slot) := by
  obtain ⟨hlt, -⟩ := List.getElem?_eq_some_iff.mp hx
  exact .constant (by simpa using hlt)

/-- What is offered stands before the next node. -/
lemma Offers.node_lt {i : Nat} {r : Reference} (h : d.Offers i r) : r.node < i := by
  cases h with
  | constant => exact Int.lt_of_lt_of_le (by decide : (-1 : Int) < 0) (Int.natCast_nonneg i)
  | output hn => exact Int.ofNat_lt.mpr hn

/-! ### Steps extend a definition -/

/-- A definition with one more node extends it. -/
lemma extends_append (d : Definition) (n : Node) : d.Extends (d.append n) :=
  ⟨rfl, List.prefix_rfl, List.prefix_rfl, by simp [append], List.prefix_rfl, id⟩

/-- Exposing a run extends a definition. -/
lemma extends_expose (d : Definition) (r : ParameterRate × List Parameter) :
    d.Extends (d.expose r) :=
  ⟨rfl, List.prefix_rfl, List.prefix_rfl, by simp [expose, append], List.prefix_append _ _, id⟩

/-- Exposing runs extends a definition. -/
lemma extends_foldl_expose (rs : List (ParameterRate × List Parameter)) (d : Definition) :
    d.Extends (rs.foldl expose d) := by
  induction rs generalizing d with
  | nil => exact .refl d
  | cons r rs ih => exact (extends_expose d r).trans (ih _)

/-- Closing the table extends a definition. -/
lemma extends_close (d : Definition) : d.Extends { d with parameters := d.parameters.close } :=
  ⟨rfl, List.prefix_rfl, List.prefix_rfl, List.prefix_rfl, List.prefix_rfl, fun _ => rfl⟩

/-- Closing the table and exposing runs extends a definition. -/
lemma extends_exposeAll (rs : List (ParameterRate × List Parameter)) (d : Definition) :
    d.Extends (d.exposeAll rs) :=
  (extends_close d).trans (extends_foldl_expose rs _)

/-- Every elementary step extends a definition. -/
lemma Step.extends (h : Step d d') : d.Extends d' := by
  cases h with
  | constant hintern =>
    exact ⟨rfl, ConstantPool.values_prefix_of_intern hintern, List.prefix_rfl, List.prefix_rfl,
      List.prefix_rfl, id⟩
  | declare hdeclare =>
    obtain ⟨-, r, x, -, -, -, -, -, -, rfl⟩ := ParameterTable.declare_eq_ok_iff.mp hdeclare
    exact ⟨rfl, List.prefix_rfl, by simp, List.prefix_rfl, List.prefix_rfl, id⟩
  | node hnode => exact extends_append d _
  | controls => exact extends_exposeAll _ d

/-- Any number of steps extends a definition. -/
lemma Steps.extends (h : Steps d d') : d.Extends d' := by
  induction h with
  | refl => exact .refl d
  | tail _ hlast ih => exact ih.trans hlast.extends

/-- Operations extend a definition, also when some of them fail. -/
theorem extends_run (d : Definition) (ops : List Operation) : d.Extends (d.run ops) := by
  induction ops generalizing d with
  | nil => exact .refl d
  | cons op ops ih => exact (op.makesSteps d).extends.trans (ih _)

end Definition

end SynthGraph
