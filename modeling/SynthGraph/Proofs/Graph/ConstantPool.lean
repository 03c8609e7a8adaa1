import SynthGraph.Proofs.Graph.Edit
import SynthGraph.Proofs.Number.Overflow

/-!
# Constant pools over a run

When a literal is interned, in which slot it is found afterwards, that interning only adds to a
pool, and that each slot stores the first literal of its key.
-/

namespace SynthGraph

namespace ConstantPool

variable {pool pool' : ConstantPool} {v : Binary64} {slot : Nat}

/-- The pool with one more literal. -/
def push (pool : ConstantPool) (key : Binary64) (x : Binary32) : ConstantPool :=
  ⟨pool.entries.push (key, x)⟩

/-- The number of stored literals is the number of slots. -/
@[simp] lemma length_values (pool : ConstantPool) : pool.values.length = pool.size := by
  simp [values, size]

/-- The literals after an addition are those before it and the new one. -/
@[simp] lemma values_push (pool : ConstantPool) (key : Binary64) (x : Binary32) :
    (pool.push key x).values = pool.values ++ [x] := by
  simp [push, values]

/-- Interning finds the slot of the key, or adds the literal in a new slot when it has single
precision. -/
lemma intern_eq_ok_iff :
    pool.intern v = .ok (slot, pool') ↔
      (pool.slot? (constantKey v) = some slot ∧ pool' = pool) ∨
        (pool.slot? (constantKey v) = none ∧ slot = pool.size ∧
          ∃ x, v.narrow? = some x ∧ pool' = pool.push (constantKey v) x) := by
  unfold intern
  cases hslot : pool.slot? (constantKey v) with
  | some found => simp [eq_comm]
  | none =>
    cases hnarrow : v.narrow? with
    | none => simp
    | some x => simp [push, eq_comm]

/-- The slot of a key exists. -/
lemma lt_size_of_slot? {key : Binary64} (h : pool.slot? key = some slot) : slot < pool.size := by
  obtain ⟨hlt, -⟩ := Array.findIdx?_eq_some_iff_getElem.mp h
  exact hlt

/-- Interning keeps the literals that are stored already in their slots. -/
lemma values_prefix_of_intern (h : pool.intern v = .ok (slot, pool')) :
    pool.values <+: pool'.values := by
  obtain ⟨-, rfl⟩ | ⟨-, -, x, -, rfl⟩ := intern_eq_ok_iff.mp h
  · exact List.prefix_rfl
  · simp

end ConstantPool

/-! ### What a pool stores -/

/-- Two literals share a slot. -/
def sameKey (v w : Binary64) : Bool := (constantKey v).sameNumber (constantKey w)

/-- What a pool stores for a literal that was interned with others: the first of them that shares
its slot, in single precision. -/
def firstStored (literals : List Binary64) (v : Binary64) : Binary32 :=
  ((literals.find? (sameKey · v)).getD v).convert .binary32

/-- Among some literals there is a first one that shares the slot of one of them. -/
lemma exists_find?_sameKey {literals : List Binary64} {v : Binary64} (hv : v ∈ literals) :
    ∃ w, literals.find? (sameKey · v) = some w := by
  rw [← Option.isSome_iff_exists, List.find?_isSome]
  exact ⟨v, hv, by simp [sameKey, FloatDatum.sameNumber]⟩

/-- Literals that come later do not change what is stored for a literal. -/
lemma firstStored_of_prefix {literals more : List Binary64} {v : Binary64} (hv : v ∈ literals)
    (h : literals <+: more) : firstStored more v = firstStored literals v := by
  obtain ⟨later, rfl⟩ := h
  obtain ⟨w, hw⟩ := exists_find?_sameKey hv
  rw [firstStored, firstStored, List.find?_append, hw]
  rfl

namespace ConstantPool

variable {pool pool' : ConstantPool} {v : Binary64} {slot : Nat}

/-- The entry that a key finds. -/
def lookup? (pool : ConstantPool) (key : Binary64) : Option (Binary64 × Binary32) :=
  pool.entries.toList.find? (·.1.sameNumber key)

/-- The pool holds exactly some literals: what a key finds is the first of them with that key, in
single precision. -/
def Holds (pool : ConstantPool) (literals : List Binary64) : Prop :=
  ∀ key : Binary64, (pool.lookup? key).map Prod.snd =
    (literals.find? fun w => (constantKey w).sameNumber key).map (·.convert .binary32)

/-- The empty pool holds no literals. -/
lemma holds_empty : empty.Holds [] := fun _ => rfl

/-- The slot of a key stores what the key finds. -/
lemma getElem?_values_of_slot? {key : Binary64} (h : pool.slot? key = some slot) :
    pool.values[slot]? = (pool.lookup? key).map Prod.snd := by
  obtain ⟨hlt, hkey, hearlier⟩ := Array.findIdx?_eq_some_iff_getElem.mp h
  have hentry : pool.lookup? key = some pool.entries[slot] := by
    rw [lookup?, List.find?_eq_some_iff_getElem]
    refine ⟨hkey, slot, hlt, rfl, fun j hj => ?_⟩
    simpa using hearlier j hj
  rw [hentry, values, List.getElem?_map, Array.getElem?_toList, Array.getElem?_eq_getElem hlt]

/-- A key without a slot finds nothing. -/
lemma lookup?_of_slot?_eq_none {key : Binary64} (h : pool.slot? key = none) :
    pool.lookup? key = none := by
  rw [slot?, Array.findIdx?_eq_none_iff] at h
  rw [lookup?, List.find?_eq_none]
  intro e he
  simpa using h e (Array.mem_toList_iff.mp he)

/-- The slot of a key stores the first literal of that key. -/
lemma Holds.getElem?_values {literals : List Binary64} (h : pool.Holds literals) {key : Binary64}
    (hslot : pool.slot? key = some slot) :
    ∃ w, (literals.find? fun w => (constantKey w).sameNumber key) = some w ∧
      pool.values[slot]? = some (w.convert .binary32) := by
  have hvalue := getElem?_values_of_slot? hslot
  have hlt := lt_size_of_slot? hslot
  rw [h key] at hvalue
  cases hfind : literals.find? fun w => (constantKey w).sameNumber key with
  | some w =>
    rw [hfind] at hvalue
    exact ⟨w, rfl, hvalue⟩
  | none =>
    rw [hfind, Option.map_none, List.getElem?_eq_none_iff, length_values] at hvalue
    omega

/-- A literal that shares a slot with another one that a pool holds adds nothing to it. -/
lemma Holds.keep {literals : List Binary64} (h : pool.Holds literals) {w : Binary64}
    (hw : literals.find? (sameKey · v) = some w) : pool.Holds (literals ++ [v]) := by
  intro key
  rw [h key, List.find?_append]
  cases hfind : literals.find? fun w => (constantKey w).sameNumber key with
  | some u => rfl
  | none =>
    have hsame : sameKey w v = true := List.find?_some (p := (sameKey · v)) hw
    have hother : (constantKey v).sameNumber key = false := by
      have hnot := List.find?_eq_none.mp hfind w (List.mem_of_find?_eq_some hw)
      simp only [sameKey, FloatDatum.sameNumber, beq_iff_eq] at hsame hnot ⊢
      simpa [hsame] using hnot
    simp [hother]

/-- A literal that shares no slot is added in a new one. -/
lemma Holds.push {literals : List Binary64} (h : pool.Holds literals) :
    (pool.push (constantKey v) (v.convert .binary32)).Holds (literals ++ [v]) := by
  intro key
  have hsplit : ((pool.push (constantKey v) (v.convert .binary32)).lookup? key).map Prod.snd =
      ((pool.lookup? key).map Prod.snd).or
        (if (constantKey v).sameNumber key then some (v.convert .binary32) else none) := by
    rw [lookup?, ConstantPool.push, Array.toList_push, List.find?_append, lookup?]
    cases pool.entries.toList.find? (·.1.sameNumber key) with
    | some e => rfl
    | none => cases hkey : (constantKey v).sameNumber key <;> simp [hkey]
  rw [hsplit, h key, List.find?_append]
  cases literals.find? fun w => (constantKey w).sameNumber key with
  | some w => rfl
  | none => cases hkey : (constantKey v).sameNumber key <;> simp [hkey]

/-- Interning adds a literal to those that a pool holds, and the slot stores the first literal that
shares it. -/
lemma Holds.intern {literals : List Binary64} (h : pool.Holds literals)
    (hintern : pool.intern v = .ok (slot, pool')) :
    pool'.Holds (literals ++ [v]) ∧
      pool'.values[slot]? = some (firstStored (literals ++ [v]) v) := by
  rw [firstStored, List.find?_append]
  obtain ⟨hslot, rfl⟩ | ⟨hslot, rfl, x, hnarrow, rfl⟩ := intern_eq_ok_iff.mp hintern
  · obtain ⟨w, hfind, hvalue⟩ := h.getElem?_values hslot
    have hfirst : literals.find? (sameKey · v) = some w := hfind
    rw [hvalue, hfirst]
    exact ⟨h.keep hfirst, rfl⟩
  · have hfound : (pool.lookup? (constantKey v)).map Prod.snd =
      (literals.find? (sameKey · v)).map (·.convert .binary32) := h (constantKey v)
    rw [lookup?_of_slot?_eq_none hslot] at hfound
    have hnone : literals.find? (sameKey · v) = none := Option.map_eq_none_iff.mp hfound.symm
    have hself : sameKey v v = true := by simp [sameKey, FloatDatum.sameNumber]
    obtain rfl := FloatDatum.convert_of_narrow? hnarrow
    refine ⟨h.push, ?_⟩
    rw [hnone, values_push, ← length_values]
    simp [hself]

end ConstantPool

end SynthGraph
