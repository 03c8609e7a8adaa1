import SynthGraph.Fault

/-!
# Constant pools

A pool holds the literals of a definition in single precision, each once.  Two literals share a slot
when they have the same key, which is the literal rounded to eight decimal places; the first literal
of a key is the one that is stored.
-/

namespace SynthGraph

/-- The key of a literal: its value to eight decimal places. -/
def constantKey (v : Binary64) : Binary64 := v.roundPlaces 8

/-- Literals in the order of their first use, each with its key. -/
structure ConstantPool where
  entries : Array (Binary64 × Binary32)
  deriving DecidableEq

namespace ConstantPool

/-- The pool without literals. -/
def empty : ConstantPool := ⟨#[]⟩

/-- The number of slots. -/
def size (p : ConstantPool) : Nat := p.entries.size

/-- The stored literals. -/
def values (p : ConstantPool) : List Binary32 := p.entries.toList.map Prod.snd

/-- The keys, one per slot. -/
def keys (p : ConstantPool) : List Binary64 := p.entries.toList.map Prod.fst

/-- The slot of a key. -/
def slot? (p : ConstantPool) (key : Binary64) : Option Nat :=
  p.entries.findIdx? fun entry => entry.1.sameNumber key

/-- The slot of a literal, which is added to the pool unless its key is there already. -/
def intern (p : ConstantPool) (v : Binary64) : Except Fault (Nat × ConstantPool) :=
  match p.slot? (constantKey v) with
  | some slot => .ok (slot, p)
  | none =>
    match v.narrow? with
    | some x => .ok (p.size, ⟨p.entries.push (constantKey v, x)⟩)
    | none => .error (.notSingle v)

end ConstantPool

end SynthGraph
