import Mathlib.Algebra.Order.Field.Basic
import Mathlib.Data.Rat.Cast.CharZero
import SynthGraph.Proofs.Graph.Signal
import SynthGraph.Proofs.Number.Value

/-!
# Evaluating nodes

The nodes of a graph are evaluated one after the other over an ordered field; multiplication need
not even be commutative.  The units that limit, compare and select have a fixed meaning, and every
other unit computes an arbitrary function of its inputs.  Evaluation starts from values for
everything that is there already: finite literals have their own values, the outputs of control
nodes have the values that are assigned to the parameters, and all other outputs have arbitrary
ones.
-/

namespace SynthGraph

-- Powers are those of the core library, also where a larger library brings its own.
attribute [local instance (2000)] instPowNat

/-- What the units compute that are not fixed: the outputs of a panner, and the outputs of all other
units. -/
structure Interpretation (K : Type*) where
  /-- An output of a panner, for a signal, a position and a level. -/
  pan (slot : Int) (signal position level : K) : K
  /-- An output of another unit. -/
  other (n : Node) (slot : Int) (inputs : List K) : K

namespace Interpretation

variable {K : Type*} [DivisionRing K] [LinearOrder K]

/-- The value at an output of a node. -/
def output (I : Interpretation K) (n : Node) (slot : Int) (inputs : List K) : K :=
  match n.className, inputs with
  | "Pan2", [signal, position, level] => I.pan slot signal position level
  | "Clip", [x, low, high] => max low (min x high)
  | "Select", [which, x, y] =>
    if which = 0 then x else if which = 1 then y else I.other n slot inputs
  | "BinaryOpUGen", [x, y] =>
    if n.special = BinaryOperator.lte.special then if x ≤ y then 1 else 0
    else I.other n slot inputs
  | _, _ => I.other n slot inputs

/-- The values after one more node has been evaluated. -/
def extend (I : Interpretation K) (env : Reference → K) (index : Nat) (n : Node) : Reference → K :=
  fun r => if r.node = index then I.output n r.slot (n.inputs.map env) else env r

/-- The values after the nodes from an index on have been evaluated. -/
def evaluate (I : Interpretation K) (env : Reference → K) (index : Nat) : List Node → Reference → K
  | [] => env
  | n :: ns => I.evaluate (I.extend env index n) (index + 1) ns

variable {I : Interpretation K} {env : Reference → K} {index : Nat} {ns : List Node} {r : Reference}

/-- The outputs of one more node. -/
lemma extend_self {n : Node} {slot : Int} :
    I.extend env index n ⟨index, slot⟩ = I.output n slot (n.inputs.map env) := if_pos rfl

/-- One more node does not change what is before it. -/
lemma extend_of_lt {n : Node} (h : r.node < index) : I.extend env index n r = env r := by
  rw [extend, if_neg (by omega)]

/-- Evaluation does not change what is before it. -/
lemma evaluate_of_lt (h : r.node < index) : I.evaluate env index ns r = env r := by
  induction ns generalizing env index with
  | nil => rfl
  | cons n ns ih => rw [evaluate, ih (by omega), extend_of_lt h]

/-- When a node that is evaluated reads only what is before it, the values satisfy the equation of
the node. -/
theorem evaluate_output {i : Nat} {n : Node} (hn : ns[i]? = some n)
    (hinputs : ∀ r ∈ n.inputs, r.node < (index + i : Nat)) (slot : Int) :
    I.evaluate env index ns ⟨(index + i : Nat), slot⟩ =
      I.output n slot (n.inputs.map (I.evaluate env index ns)) := by
  induction ns generalizing env index i with
  | nil => cases hn
  | cons m ns ih =>
    rw [evaluate]
    cases i with
    | zero =>
      obtain rfl : m = n := Option.some.inj hn
      have hread : m.inputs.map (I.evaluate (I.extend env index m) (index + 1) ns) =
          m.inputs.map env := by
        refine List.map_congr_left fun r hr => ?_
        have hlt : r.node < index := hinputs r hr
        rw [evaluate_of_lt (by omega), extend_of_lt hlt]
      rw [hread, evaluate_of_lt (by simp)]
      exact extend_self
    | succ i =>
      have hplace : index + (i + 1) = index + 1 + i := by omega
      rw [hplace] at hinputs ⊢
      exact ih hn hinputs

end Interpretation

namespace Definition

variable {K : Type*} [DivisionRing K] {d : Definition}

/-- The values fit a definition: finite literals have their own values, and the outputs of control
nodes have those that are assigned to the absolute indices of their parameters. -/
structure Assigns (d : Definition) (parameters : Int → K) (env : Reference → K) : Prop where
  constant : ∀ (slot : Nat) x q, d.constants.values[slot]? = some x → x.value? = some q →
    env (.constant slot) = q
  control : ∀ (n slot : Nat) source, d.isControl n = true → d.nodes[n]? = some source →
    slot < source.outputs.length → env ⟨n, slot⟩ = parameters (source.special + slot)

/-- Values that fit a definition.  All outputs have the values that they would have on control
nodes, and literals that are not finite count as zero. -/
def assigned (d : Definition) (parameters : Int → K) (r : Reference) : K :=
  if r.isConstant then ((d.constants.values[r.slot.toNat]?.bind FloatDatum.value?).getD 0 : ℚ)
  else parameters (((d.node? r.node).map Node.special).getD 0 + r.slot)

/-- There are values that fit, whatever the parameters are. -/
lemma assigns_assigned (d : Definition) (parameters : Int → K) :
    d.Assigns parameters (d.assigned parameters) where
  constant slot x q hx hq := by
    simp [assigned, Reference.constant, Reference.isConstant, hx, hq]
  control n slot source _ hsource _ := by
    have hnode : (⟨n, slot⟩ : Reference).isConstant = false := by simp [Reference.isConstant]
    simp [assigned, hnode, node?_natCast, hsource]

end Definition

end SynthGraph
