import Mathlib.Data.List.Induction
import Mathlib.Data.List.Nodup
import SynthGraph.Proofs.Graph.ConstantPool
import SynthGraph.Proofs.Number.Overflow

/-!
# Sequences of calls on a constant pool

A call interns a literal, and it may fail.  After any sequence of calls the slots of the pool are
the distinct keys of the literals that were accepted, in the order of their first appearance, and
each slot stores the first literal of its key.  Whether a call fails depends on its literal alone: a
literal that overflows single precision shares its key with no other literal, so that no slot of the
pool can hide it.
-/

namespace SynthGraph

-- Powers are those of the core library, also where a larger library brings its own.
attribute [local instance (2000)] instPowNat

/-- The first appearances in a list that goes on with one more element. -/
lemma eraseDups_concat {α : Type} [BEq α] [LawfulBEq α] [DecidableEq α] (l : List α) (a : α) :
    (l ++ [a]).eraseDups = if a ∈ l then l.eraseDups else l.eraseDups ++ [a] := by
  rw [List.eraseDups_append]
  split
  case isTrue ha => simp [List.removeAll, ha]
  case isFalse ha => simp [List.removeAll, ha, List.eraseDups_cons]

/-- Each element appears first at one place. -/
lemma nodup_eraseDups {α : Type} [BEq α] [LawfulBEq α] [DecidableEq α] (l : List α) :
    l.eraseDups.Nodup := by
  induction l using List.reverseRecOn with
  | nil => simp
  | append_singleton l a ih =>
    rw [eraseDups_concat]
    split
    case isTrue => exact ih
    case isFalse ha =>
      refine List.nodup_append.mpr ⟨ih, List.nodup_singleton a, fun x hx y hy => ?_⟩
      obtain rfl := List.mem_singleton.mp hy
      exact fun heq => ha (heq ▸ List.mem_eraseDups.mp hx)

/-- The elements up to a place and the one at it. -/
lemma take_succ_of_getElem? {α : Type} {l : List α} {i : Nat} {a : α} (ha : l[i]? = some a) :
    l.take (i + 1) = l.take i ++ [a] := by
  rw [List.take_add_one, ha]
  rfl

/-- The key of a literal as its place in the numeric order: both zeros are one key, and so is
everything that is not a number. -/
def literalKey (v : Binary64) : Option Int := (constantKey v).rank?

namespace ConstantPool

variable {pool pool' : ConstantPool} {literals : List Binary64} {v : Binary64} {slot : Nat}

/-! ### Which literals are accepted -/

/-- A literal that overflows has no slot in a pool that holds none that do. -/
lemma Holds.slot?_eq_none (h : pool.Holds literals) (hfit : ∀ w ∈ literals, ¬w.Overflows)
    (hv : v.Overflows) : pool.slot? (constantKey v) = none := by
  by_contra hslot
  obtain ⟨slot, hslot⟩ := Option.ne_none_iff_exists'.mp hslot
  obtain ⟨w, hfind, -⟩ := h.getElem?_values hslot
  have hsame : (constantKey w).sameNumber (constantKey v) = true := List.find?_some
    (p := fun w => (constantKey w).sameNumber (constantKey v)) hfind
  have hequal : w = v := hv.eq_of_roundPlaces hsame
  exact hfit w (List.mem_of_find?_eq_some hfind) (hequal ▸ hv)

/-- A literal that overflows is refused. -/
lemma Holds.intern_of_overflows (h : pool.Holds literals) (hfit : ∀ w ∈ literals, ¬w.Overflows)
    (hv : v.Overflows) : pool.intern v = .error (.notSingle v) := by
  rw [ConstantPool.intern, h.slot?_eq_none hfit hv, FloatDatum.narrow?_eq_none_iff.mpr hv]

/-- Every other literal is accepted, whatever the pool is. -/
lemma exists_intern_eq_ok (pool : ConstantPool) (hv : ¬v.Overflows) :
    ∃ slot pool', pool.intern v = .ok (slot, pool') := by
  obtain ⟨x, hx⟩ := Option.isSome_iff_exists.mp (FloatDatum.isSome_narrow?_iff.mpr hv)
  cases hslot : pool.slot? (constantKey v) with
  | some slot => exact ⟨slot, pool, intern_eq_ok_iff.mpr (.inl ⟨hslot, rfl⟩)⟩
  | none => exact ⟨_, _, intern_eq_ok_iff.mpr (.inr ⟨hslot, rfl, x, hx, rfl⟩)⟩

/-! ### Slots are keys -/

/-- The slot of a key is the place of the key among those of the pool. -/
lemma slot?_eq_idxOf? (pool : ConstantPool) (key : Binary64) :
    pool.slot? key = (pool.keys.map FloatDatum.rank?).idxOf? key.rank? := by
  rw [slot?, keys, List.map_map, List.idxOf?, List.findIdx?_map, ← List.findIdx?_toArray]
  rfl

/-- The keys of a pool with one more literal. -/
@[simp] lemma keys_push (pool : ConstantPool) (key : Binary64) (x : Binary32) :
    (pool.push key x).keys = pool.keys ++ [key] := by
  simp [push, keys]

/-- There are as many keys as slots. -/
@[simp] lemma length_keys (pool : ConstantPool) : pool.keys.length = pool.size := by
  simp [keys, size]

/-- The slots of a pool are the distinct keys of some literals in the order of their first
appearance, and each stores the first literal of its key. -/
structure Lists (pool : ConstantPool) (literals : List Binary64) : Prop where
  holds : pool.Holds literals
  keys : pool.keys.map FloatDatum.rank? = (literals.map literalKey).eraseDups
  fit : ∀ w ∈ literals, ¬w.Overflows

/-- The empty pool lists no literals. -/
lemma lists_empty : empty.Lists [] := ⟨holds_empty, rfl, by simp⟩

/-- A literal that is accepted does not overflow. -/
lemma Lists.not_overflows (h : pool.Lists literals) (hintern : pool.intern v = .ok (slot, pool')) :
    ¬v.Overflows := by
  intro hv
  rw [h.holds.intern_of_overflows h.fit hv] at hintern
  cases hintern

/-- A literal that is accepted gets the slot of its key, which is a new one at the end when the key
is new. -/
lemma Lists.intern (h : pool.Lists literals) (hv : ¬v.Overflows)
    (hintern : pool.intern v = .ok (slot, pool')) :
    pool'.Lists (literals ++ [v]) ∧
      ((literals ++ [v]).map literalKey).eraseDups[slot]? = some (literalKey v) := by
  have hfit : ∀ w ∈ literals ++ [v], ¬w.Overflows := by
    simpa [or_imp, forall_and, hv] using h.fit
  have hholds := (h.holds.intern hintern).1
  have hkeys : ((literals ++ [v]).map literalKey).eraseDups =
      if literalKey v ∈ literals.map literalKey then pool.keys.map FloatDatum.rank?
      else pool.keys.map FloatDatum.rank? ++ [literalKey v] := by
    rw [List.map_append, List.map_singleton, eraseDups_concat, h.keys]
  have hmem : literalKey v ∈ literals.map literalKey ↔
      literalKey v ∈ pool.keys.map FloatDatum.rank? := by rw [h.keys, List.mem_eraseDups]
  obtain ⟨hslot, rfl⟩ | ⟨hslot, rfl, x, -, rfl⟩ := intern_eq_ok_iff.mp hintern
  · -- The key is an old one, and neither list goes on.
    rw [slot?_eq_idxOf?, List.idxOf?_eq_some_iff] at hslot
    obtain ⟨hlt, hkey, -⟩ := hslot
    have hfound : (pool'.keys.map FloatDatum.rank?)[slot]? = some (literalKey v) :=
      List.getElem?_eq_some_iff.mpr ⟨hlt, hkey⟩
    rw [if_pos (hmem.mpr (List.mem_of_getElem? hfound))] at hkeys
    rw [hkeys]
    exact ⟨⟨hholds, hkeys.symm, hfit⟩, hfound⟩
  · -- The key is new, and both lists go on with it.
    rw [slot?_eq_idxOf?, List.idxOf?_eq_none_iff] at hslot
    rw [if_neg (fun hold => hslot (hmem.mp hold))] at hkeys
    refine ⟨⟨hholds, ?_, hfit⟩, ?_⟩
    · rw [hkeys, keys_push, List.map_append]
      rfl
    · rw [hkeys, ← length_keys, ← List.length_map FloatDatum.rank?, List.getElem?_concat_length]

/-- A pool that lists literals has a slot for each of their keys. -/
lemma Lists.size_eq (h : pool.Lists literals) :
    pool.size = (literals.map literalKey).eraseDups.length := by
  rw [← h.keys, List.length_map, length_keys]

/-- The slot of a key stores the first literal of that key in single precision. -/
lemma Lists.getElem?_values (h : pool.Lists literals) {key : Option Int}
    (hkey : (literals.map literalKey).eraseDups[slot]? = some key) :
    ∃ v, literals.find? (literalKey · == key) = some v ∧ pool.values[slot]? = v.narrow? := by
  have hnodup : (pool.keys.map FloatDatum.rank?).Nodup := h.keys ▸ nodup_eraseDups _
  rw [← h.keys] at hkey
  obtain ⟨hlt, hrank⟩ := List.getElem?_eq_some_iff.mp hkey
  have hlt' : slot < pool.keys.length := by simpa using hlt
  have hslot : pool.slot? pool.keys[slot] = some slot := by
    rw [slot?_eq_idxOf?, List.idxOf?_eq_some_iff]
    have hself : (pool.keys.map FloatDatum.rank?)[slot] = pool.keys[slot].rank? :=
      List.getElem_map _
    refine ⟨hlt, hself, fun j hj hearlier => ?_⟩
    rw [← hself, hnodup.getElem_inj_iff] at hearlier
    omega
  obtain ⟨v, hfind, hvalue⟩ := h.holds.getElem?_values hslot
  rw [List.getElem_map] at hrank
  refine ⟨v, ?_, ?_⟩
  · rw [← hrank]
    exact hfind
  · obtain ⟨x, hx⟩ := Option.isSome_iff_exists.mp
      (FloatDatum.isSome_narrow?_iff.mpr (h.fit v (List.mem_of_find?_eq_some hfind)))
    rw [hvalue, hx, FloatDatum.convert_of_narrow? hx]

/-! ### Sequences of calls -/

/-- A call: its outcome, and the pool that the next call finds. -/
def call (pool : ConstantPool) (v : Binary64) : Except Fault Nat × ConstantPool :=
  match pool.intern v with
  | .ok (slot, pool') => (.ok slot, pool')
  | .error e => (.error e, pool)

/-- Adding a literal to a definition is a call on its pool. -/
lemma apply_constant_eq_call (v : Binary64) (d : Definition) :
    (Edit.constant v).apply d =
      ((d.constants.call v).1.map fun slot => .constant slot,
        { d with constants := (d.constants.call v).2 }) := by
  rw [Edit.apply_constant, call]
  cases d.constants.intern v <;> rfl

/-- The pool after a sequence of calls. -/
def after (calls : List Binary64) : ConstantPool :=
  calls.foldl (fun pool v => (pool.call v).2) empty

/-- The outcome of the call at a place of a sequence. -/
def outcome? (calls : List Binary64) (i : Nat) : Option (Except Fault Nat) :=
  calls[i]?.map fun v => ((after (calls.take i)).call v).1

/-- The literals that do not overflow. -/
def accepted (calls : List Binary64) : List Binary64 := calls.filter fun v => ¬v.Overflows

/-- The distinct keys of the literals that do not overflow, in the order of their first
appearance. -/
def distinctKeys (calls : List Binary64) : List (Option Int) :=
  ((accepted calls).map literalKey).eraseDups

variable {calls : List Binary64} {i : Nat}

/-- The last call of a sequence. -/
lemma after_concat (calls : List Binary64) (v : Binary64) :
    after (calls ++ [v]) = ((after calls).call v).2 := by
  simp [after]

/-- One more call is accepted unless its literal overflows. -/
lemma accepted_concat (calls : List Binary64) (v : Binary64) :
    accepted (calls ++ [v]) = if v.Overflows then accepted calls else accepted calls ++ [v] := by
  by_cases hv : v.Overflows <;> simp [accepted, hv]

/-- A call on a pool that lists literals is refused and changes nothing when its literal overflows;
otherwise it returns the place of its key. -/
lemma Lists.call (h : pool.Lists literals) (v : Binary64) :
    (v.Overflows ∧ pool.call v = (.error (.notSingle v), pool)) ∨
      (¬v.Overflows ∧ ∃ slot pool', pool.call v = (.ok slot, pool') ∧
        pool'.Lists (literals ++ [v]) ∧
        ((literals ++ [v]).map literalKey).eraseDups[slot]? = some (literalKey v)) := by
  by_cases hv : v.Overflows
  · refine .inl ⟨hv, ?_⟩
    rw [ConstantPool.call, h.holds.intern_of_overflows h.fit hv]
  · obtain ⟨slot, pool', hintern⟩ := exists_intern_eq_ok pool hv
    refine .inr ⟨hv, slot, pool', ?_, h.intern hv hintern⟩
    rw [ConstantPool.call, hintern]

/-- After a sequence of calls the pool lists the literals that were accepted. -/
theorem lists_after (calls : List Binary64) : (after calls).Lists (accepted calls) := by
  induction calls using List.reverseRecOn with
  | nil => exact lists_empty
  | append_singleton calls v ih =>
    rw [after_concat, accepted_concat]
    rcases ih.call v with ⟨hv, hcall⟩ | ⟨hv, slot, pool', hcall, hlists, -⟩
    · rw [hcall, if_pos hv]
      exact ih
    · rw [hcall, if_neg hv]
      exact hlists

/-- The call at a place fails and changes nothing when its literal overflows; otherwise it returns
the place of its key among the distinct keys so far. -/
lemma outcome?_cases (hv : calls[i]? = some v) :
    (v.Overflows ∧ outcome? calls i = some (.error (.notSingle v)) ∧
        after (calls.take (i + 1)) = after (calls.take i)) ∨
      (¬v.Overflows ∧ ∃ slot, outcome? calls i = some (.ok slot) ∧
        (distinctKeys (calls.take (i + 1)))[slot]? = some (literalKey v)) := by
  rw [outcome?, hv, take_succ_of_getElem? hv, after_concat, distinctKeys, accepted_concat]
  rcases (lists_after (calls.take i)).call v with ⟨hover, hcall⟩ | ⟨hfits, slot, _, hcall, -, hslot⟩
  · exact .inl ⟨hover, by simp [hcall], by rw [hcall]⟩
  · rw [if_neg hfits]
    exact .inr ⟨hfits, slot, by simp [hcall], hslot⟩

/-- The distinct keys so far stay at their places. -/
lemma distinctKeys_take_prefix (calls : List Binary64) (n : Nat) :
    distinctKeys (calls.take n) <+: distinctKeys calls := by
  have hsplit : accepted calls = accepted (calls.take n) ++ accepted (calls.drop n) := by
    rw [accepted, accepted, accepted, ← List.filter_append, List.take_append_drop]
  rw [distinctKeys, distinctKeys, hsplit, List.map_append, List.eraseDups_append]
  exact List.prefix_append _ _

/-- What a sequence of calls on the empty pool amounts to. -/
structure SlotsAreKeys (calls : List Binary64) : Prop where
  /-- A call fails exactly when its literal is finite and becomes infinite in single precision. -/
  fails_iff : ∀ i v, calls[i]? = some v →
    ((∃ e, outcome? calls i = some (.error e)) ↔ v.Overflows)
  /-- A call that fails says so and leaves the pool as it was. -/
  unchanged : ∀ i v e, calls[i]? = some v → outcome? calls i = some (.error e) →
    e = .notSingle v ∧ e.kind = .format ∧ after (calls.take (i + 1)) = after (calls.take i)
  /-- Every other call returns the place of its key among the distinct keys so far. -/
  slot : ∀ i v, calls[i]? = some v → ¬v.Overflows → ∃ slot, outcome? calls i = some (.ok slot) ∧
    (distinctKeys (calls.take (i + 1)))[slot]? = some (literalKey v)
  /-- Two calls return the same slot exactly when they have the same key. -/
  same_iff : ∀ i j v w (slot slot' : Nat), calls[i]? = some v → calls[j]? = some w →
    outcome? calls i = some (.ok slot) → outcome? calls j = some (.ok slot') →
    (slot = slot' ↔ literalKey v = literalKey w)
  /-- The pool grows by one slot exactly when a key is accepted for the first time. -/
  size_succ : ∀ i v, calls[i]? = some v → (after (calls.take (i + 1))).size =
    (after (calls.take i)).size +
      if ¬v.Overflows ∧ literalKey v ∉ distinctKeys (calls.take i) then 1 else 0
  /-- There is one slot for each key. -/
  size : (after calls).size = (distinctKeys calls).length
  /-- A slot stores the first literal of its key that was accepted, in single precision. -/
  stored : ∀ (slot : Nat) key, (distinctKeys calls)[slot]? = some key →
    ∃ v, (accepted calls).find? (literalKey · == key) = some v ∧
      (after calls).values[slot]? = v.narrow?

/-- A call that returns a slot has its key there among the distinct keys of the whole sequence. -/
lemma getElem?_distinctKeys_of_outcome? (hv : calls[i]? = some v)
    (hslot : outcome? calls i = some (.ok slot)) :
    (distinctKeys calls)[slot]? = some (literalKey v) := by
  rcases outcome?_cases hv with ⟨-, herror, -⟩ | ⟨-, slot', hok, hkey⟩
  · rw [hslot] at herror
    cases herror
  · obtain rfl : slot = slot' := by simpa [hslot] using hok
    obtain ⟨later, hlater⟩ := distinctKeys_take_prefix calls (i + 1)
    obtain ⟨hlt, -⟩ := List.getElem?_eq_some_iff.mp hkey
    rw [← hlater, List.getElem?_append_left hlt, hkey]

/-- Two calls that return slots return the same one exactly when the keys are one number. -/
lemma slot_eq_slot_iff {j slot' : Nat} {w : Binary64} (hv : calls[i]? = some v)
    (hw : calls[j]? = some w) (hslot : outcome? calls i = some (.ok slot))
    (hslot' : outcome? calls j = some (.ok slot')) :
    slot = slot' ↔ literalKey v = literalKey w := by
  have hkey := getElem?_distinctKeys_of_outcome? hv hslot
  have hkey' := getElem?_distinctKeys_of_outcome? hw hslot'
  obtain ⟨hlt, -⟩ := List.getElem?_eq_some_iff.mp hkey
  have hnodup : (distinctKeys calls).Nodup := nodup_eraseDups _
  rw [← List.getElem?_inj hlt hnodup, hkey, hkey', Option.some.injEq]

/-- The number of slots after one more call. -/
lemma size_after_concat (calls : List Binary64) (v : Binary64) :
    (after (calls ++ [v])).size = (after calls).size +
      if ¬v.Overflows ∧ literalKey v ∉ distinctKeys calls then 1 else 0 := by
  have hmem : literalKey v ∈ distinctKeys calls ↔ literalKey v ∈ (accepted calls).map literalKey :=
    List.mem_eraseDups
  rw [(lists_after _).size_eq, (lists_after _).size_eq, accepted_concat]
  by_cases hv : v.Overflows
  · simp [hv]
  · rw [if_neg hv, List.map_append, List.map_singleton, eraseDups_concat]
    by_cases hold : literalKey v ∈ (accepted calls).map literalKey
    · rw [if_pos hold, if_neg (fun hnew => hnew.2 (hmem.mpr hold)), Nat.add_zero]
    · rw [if_neg hold, if_pos ⟨hv, fun hkey => hold (hmem.mp hkey)⟩, List.length_append,
        List.length_singleton]

/-- For every sequence of calls on arbitrary literals, the slots of the pool are the distinct keys
of the literals that do not overflow, in the order of their first appearance. -/
theorem slots_after_calls (calls : List Binary64) : SlotsAreKeys calls where
  fails_iff i v hv := by
    rcases outcome?_cases hv with ⟨hover, herror, -⟩ | ⟨hfits, slot, hok, -⟩
    · exact ⟨fun _ => hover, fun _ => ⟨_, herror⟩⟩
    · refine ⟨fun ⟨e, herror⟩ => ?_, fun hover => absurd hover hfits⟩
      rw [hok] at herror
      cases herror
  unchanged i v e hv he := by
    rcases outcome?_cases hv with ⟨-, herror, hkept⟩ | ⟨-, slot, hok, -⟩
    · obtain rfl : e = .notSingle v := by simpa [he] using herror
      exact ⟨rfl, rfl, hkept⟩
    · rw [he] at hok
      cases hok
  slot i v hv hfits := by
    rcases outcome?_cases hv with ⟨hover, -⟩ | ⟨-, hslot⟩
    · exact absurd hover hfits
    · exact hslot
  same_iff _ _ _ _ _ _ hv hw hslot hslot' := slot_eq_slot_iff hv hw hslot hslot'
  size_succ i v hv := by rw [take_succ_of_getElem? hv, size_after_concat]
  size := (lists_after calls).size_eq
  stored _ _ hkey := (lists_after calls).getElem?_values hkey

/-- A run with both zeros, a literal that shares a slot with them, two literals that are not
numbers, an infinity, and a literal that overflows. -/
theorem slots_after_calls_mixed :
    let calls : List Binary64 := [.zero true, .ofInt (10 ^ (300 : Nat)), .nan false, .zero false,
      .ofQuotient false 1 1, .nan true, .infinity false, .ofInt 1]
    SlotsAreKeys calls ∧
      (List.range 8).map (outcome? calls) =
        [some (.ok 0), some (.error (.notSingle (.ofInt (10 ^ (300 : Nat))))), some (.ok 1),
          some (.ok 0), some (.ok 0), some (.ok 1), some (.ok 2), some (.ok 3)] ∧
      (after calls).values = [.zero true, .nan false, .infinity false, .ofInt 1] :=
  ⟨slots_after_calls _, by decide +kernel, by decide +kernel⟩

end ConstantPool

end SynthGraph
