import SynthGraph.Proofs.Graph.Growth
import SynthGraph.Proofs.Graph.Interning

/-!
# Sequences of calls on a parameter table

A call declares a parameter or seals the table, and a declaration may fail.  A declaration has six
requirements; it succeeds when all of them are met, and otherwise the first one that is not met
decides the kind of its fault and the table stays as it was.  After any sequence of calls the table
holds the parameters of the declarations that succeeded, each at its index and under a name of its
own, and no block-rate parameter stands behind a sample-rate one.
-/

namespace SynthGraph

namespace ParameterRate

/-- Rates have different names. -/
lemma name_injective : Function.Injective name := by
  intro r r' h
  have hsome := ofName?_name r
  rw [h, ofName?_name] at hsome
  exact (Option.some.inj hsome).symm

/-- Only audio parameters change with every sample. -/
lemma isBlock_eq_false_iff {r : ParameterRate} : r.isBlock = false ↔ r = audio := by
  cases r <;> simp [isBlock]

end ParameterRate

namespace ParameterTable

variable {t t' : ParameterTable} {name : String} {default : Binary64} {rate : String} {index : Nat}

/-! ### What a declaration requires -/

/-- What a declaration has to meet, in the order in which it is looked at, and the kind of its fault
when it does not. -/
def requirements (t : ParameterTable) (name : String) (default : Binary64) (rate : String) :
    List (Bool × FaultKind) :=
  [(decide (IsShortName name), .nameLength),
    (decide (rate ∈ ["control", "trigger", "audio"]), .graph),
    (!t.isSealed, .parameterOrder),
    (decide (name ∉ t.toList.map Parameter.name), .duplicateParameter),
    (decide (rate = "audio" ∨ ∀ p ∈ t.toList, p.rate ≠ .audio), .parameterOrder),
    (decide ¬default.Overflows, .format)]

/-- The kind of fault of the first requirement that a declaration does not meet. -/
def firstViolated (t : ParameterTable) (name : String) (default : Binary64) (rate : String) :
    Option FaultKind :=
  ((t.requirements name default rate).find? (!·.1)).map Prod.snd

/-- No requirement is violated exactly when all of them are met. -/
lemma firstViolated_eq_none_iff :
    t.firstViolated name default rate = none ↔
      ∀ c ∈ t.requirements name default rate, c.1 = true := by
  simp [firstViolated, Option.map_eq_none_iff, List.find?_eq_none]

/-- The texts that name a rate. -/
lemma isSome_ofName?_iff :
    (∃ r, ParameterRate.ofName? rate = some r) ↔ rate ∈ ["control", "trigger", "audio"] := by
  constructor
  · rintro ⟨r, hr⟩
    rw [ParameterRate.ofName?_eq_some_iff.mp hr]
    cases r <;> simp [ParameterRate.name]
  · intro hmem
    have hcases : rate = "control" ∨ rate = "trigger" ∨ rate = "audio" := by simpa using hmem
    rcases hcases with rfl | rfl | rfl
    · exact ⟨.control, rfl⟩
    · exact ⟨.trigger, rfl⟩
    · exact ⟨.audio, rfl⟩

/-- A parameter comes in time when it is an audio parameter or none is declared. -/
lemma tooLate?_eq_none_iff {r : ParameterRate} :
    t.tooLate? r = none ↔ r.name = "audio" ∨ ∀ p ∈ t.toList, p.rate ≠ .audio := by
  have hsample : t.sampleRate.head? = none ↔ ∀ p ∈ t.toList, p.rate ≠ .audio := by
    simp [sampleRate, ← ParameterRate.isBlock_eq_false_iff]
  unfold tooLate?
  cases r with
  | control => simp [ParameterRate.isBlock, ParameterRate.name, hsample]
  | trigger => simp [ParameterRate.isBlock, ParameterRate.name, hsample]
  | audio => simp [ParameterRate.isBlock, ParameterRate.name]

/-- A declaration that meets all requirements returns the size of the table and appends one
parameter; any other one fails with the kind of the first requirement that it does not meet. -/
lemma declare_cases (t : ParameterTable) (name : String) (default : Binary64) (rate : String) :
    (t.firstViolated name default rate = none ∧ ∃ r x, rate = r.name ∧ default.narrow? = some x ∧
        t.tooLate? r = none ∧ t.declare name default rate = .ok (t.size, t.push name x r)) ∨
      ∃ e, t.declare name default rate = .error e ∧
        t.firstViolated name default rate = some e.kind := by
  unfold firstViolated requirements
  by_cases hname : IsShortName name
  swap
  · obtain ⟨e, he, hkind⟩ := declare_of_not_isShortName (t := t) hname default rate
    exact .inr ⟨e, he, by simp [hname, hkind]⟩
  by_cases hrate : rate ∈ ["control", "trigger", "audio"]
  swap
  · have hunknown : ParameterRate.ofName? rate = none := by
      by_contra hknown
      exact hrate (isSome_ofName?_iff.mp (Option.ne_none_iff_exists'.mp hknown))
    exact .inr ⟨.unknownRate rate, declare_of_unknownRate hname hunknown,
      by simp [hname, hrate, Fault.kind]⟩
  obtain ⟨r, hr⟩ := isSome_ofName?_iff.mpr hrate
  obtain rfl := ParameterRate.ofName?_eq_some_iff.mp hr
  rw [declare_of_isShortName hname]
  simp only [List.find?_cons, hname, hrate, decide_true, Bool.not_true]
  by_cases hsealed : t.isSealed = true
  · exact .inr ⟨_, if_pos hsealed, by simp [hsealed, Fault.kind]⟩
  rw [if_neg hsealed]
  by_cases hold : t.contains name = true
  · have hmem := contains_eq_true_iff.mp hold
    exact .inr ⟨_, if_pos hold, by simp [hsealed, hmem, Fault.kind]⟩
  have hmem : name ∉ t.toList.map Parameter.name := fun h => hold (contains_eq_true_iff.mpr h)
  rw [if_neg hold]
  cases hlate : t.tooLate? r with
  | some first =>
    have hfirst : ¬(r.name = "audio" ∨ ∀ p ∈ t.toList, p.rate ≠ .audio) := by
      rw [← tooLate?_eq_none_iff, hlate]
      exact Option.some_ne_none first
    refine .inr ⟨_, rfl, ?_⟩
    simp only [hsealed, hmem, hfirst, Fault.kind, not_false_eq_true, decide_true, decide_false,
      Bool.not_true, Bool.not_false, Option.map_some]
  | none =>
    have hfirst := tooLate?_eq_none_iff.mp hlate
    cases hnarrow : default.narrow? with
    | none =>
      have hover := FloatDatum.narrow?_eq_none_iff.mp hnarrow
      refine .inr ⟨_, rfl, ?_⟩
      simp only [hsealed, hmem, hfirst, hover, Fault.kind, not_true_eq_false, not_false_eq_true,
        decide_true, decide_false, Bool.not_true, Bool.not_false, Option.map_some]
    | some x =>
      have hfits : ¬default.Overflows := by
        rw [← FloatDatum.isSome_narrow?_iff, hnarrow]
        rfl
      refine .inl ⟨?_, r, x, rfl, rfl, hlate, rfl⟩
      simp only [hsealed, hmem, hfirst, hfits, not_false_eq_true, decide_true, Bool.not_true,
        Bool.not_false, List.find?_nil, Option.map_none]

/-! ### Tables in order -/

/-- A well-formed table in which no block-rate parameter stands behind a sample-rate one. -/
structure Ordered (t : ParameterTable) : Prop extends t.WellFormed where
  split : t.blockRate ++ t.sampleRate = t.toList

/-- The empty table is in order. -/
lemma ordered_empty : empty.Ordered := ⟨wellFormed_empty, rfl⟩

/-- A parameter that comes in time keeps the rates of a table in order. -/
lemma Ordered.push (h : t.Ordered) {r : ParameterRate} {x : Binary32} (hlate : t.tooLate? r = none)
    (hformed : (t.push name x r).WellFormed) : (t.push name x r).Ordered := by
  refine ⟨hformed, ?_⟩
  have hsplit := h.split
  unfold blockRate sampleRate at hsplit ⊢
  rw [toList_push, List.filter_append, List.filter_append]
  cases hblock : r.isBlock with
  | true =>
    -- There is no sample-rate parameter yet.
    have hnone : t.toList.filter (!·.rate.isBlock) = [] := by
      rw [tooLate?, if_pos hblock, sampleRate, List.head?_eq_none_iff] at hlate
      exact hlate
    rw [hnone, List.append_nil] at hsplit
    simp [hblock, hnone, hsplit]
  | false => simp [hblock, ← List.append_assoc, hsplit]

/-- Sealing keeps a table in order. -/
lemma Ordered.close (h : t.Ordered) : t.close.Ordered := ⟨h.toWellFormed.close, h.split⟩

/-- A block-rate parameter stands before every sample-rate one. -/
lemma Ordered.lt_of_rates (h : t.Ordered) {i j : Nat} {p q : Parameter}
    (hp : t.toList[i]? = some p) (hq : t.toList[j]? = some q) (hblock : p.rate.isBlock = true)
    (hsample : q.rate.isBlock = false) : i < j := by
  rw [← h.split] at hp hq
  have hi : i < t.blockRate.length := by
    by_contra hge
    rw [List.getElem?_append_right (Nat.not_lt.mp hge)] at hp
    have hmem := List.mem_filter.mp (List.mem_of_getElem? hp)
    simp [hblock] at hmem
  have hj : t.blockRate.length ≤ j := by
    by_contra hlt
    rw [List.getElem?_append_left (Nat.not_le.mp hlt)] at hq
    have hmem := List.mem_filter.mp (List.mem_of_getElem? hq)
    simp [hsample] at hmem
  exact Nat.lt_of_lt_of_le hi hj

/-- Looking a name up gives the parameter of that name. -/
lemma WellFormed.get_eq_ok_iff (h : t.WellFormed) {p : Parameter} :
    t.get name = .ok p ↔ p ∈ t.toList ∧ p.name = name := by
  constructor
  · exact mem_of_get_eq_ok
  · rintro ⟨hp, rfl⟩
    rw [get, h.find?_name hp]

/-! ### Sequences of calls -/

/-- A call on a table. -/
inductive Call where
  /-- Declares a parameter. -/
  | declare (name : String) (default : Binary64) (rate : String)
  /-- Closes the table for good. -/
  | close

/-- A call: its outcome, with the index when it declares a parameter, and the table that the next
call finds. -/
def call (t : ParameterTable) : Call → Except Fault (Option Nat) × ParameterTable
  | .declare name default rate =>
    match t.declare name default rate with
    | .ok (index, t') => (.ok (some index), t')
    | .error e => (.error e, t)
  | .close => (.ok none, t.close)

/-- Declaring a parameter of a definition is a call on its table. -/
lemma apply_declare_eq_call (name : String) (default : Binary64) (rate : String) (d : Definition) :
    (Edit.declare name default rate).apply d =
      ((d.parameters.call (.declare name default rate)).1.map fun index => index.getD 0,
        { d with parameters := (d.parameters.call (.declare name default rate)).2 }) := by
  rw [Edit.apply_declare, call]
  cases d.parameters.declare name default rate <;> rfl

/-- The table after a sequence of calls. -/
def after (calls : List Call) : ParameterTable :=
  calls.foldl (fun t c => (t.call c).2) empty

/-- The outcome of the call at a place of a sequence. -/
def outcome? (calls : List Call) (i : Nat) : Option (Except Fault (Option Nat)) :=
  calls[i]?.map fun c => ((after (calls.take i)).call c).1

variable {calls : List Call} {i : Nat}

/-- The last call of a sequence. -/
lemma after_concat (calls : List Call) (c : Call) :
    after (calls ++ [c]) = ((after calls).call c).2 := by
  simp [after]

/-- What a call may do to a table: nothing, seal it, or append the parameter that it declares. -/
lemma call_cases (t : ParameterTable) (c : Call) :
    (c = .close ∧ t.call c = (.ok none, t.close)) ∨
      (∃ name default rate e, c = .declare name default rate ∧ t.call c = (.error e, t) ∧
        t.firstViolated name default rate = some e.kind) ∨
      ∃ name default r x, c = .declare name default r.name ∧
        t.firstViolated name default r.name = none ∧ default.narrow? = some x ∧
        t.tooLate? r = none ∧ t.call c = (.ok (some t.size), t.push name x r) ∧
        (t.WellFormed → (t.push name x r).WellFormed) := by
  cases c with
  | close => exact .inl ⟨rfl, rfl⟩
  | declare name default rate =>
    rcases t.declare_cases name default rate with
      ⟨hnone, r, x, rfl, hnarrow, hlate, hok⟩ | ⟨e, herror, hkind⟩
    · refine .inr (.inr ⟨name, default, r, x, rfl, hnone, hnarrow, hlate, ?_, ?_⟩)
      · rw [call, hok]
      · exact fun hformed => hformed.declare hok
    · refine .inr (.inl ⟨name, default, rate, e, rfl, ?_, hkind⟩)
      rw [call, herror]

/-- A call keeps a table in order. -/
lemma Ordered.call (h : t.Ordered) (c : Call) : (t.call c).2.Ordered := by
  rcases t.call_cases c with ⟨-, hcall⟩ | ⟨_, _, _, _, -, hcall, -⟩ |
    ⟨_, _, _, _, -, -, -, hlate, hcall, hformed⟩
  · rw [hcall]
    exact h.close
  · rw [hcall]
    exact h
  · rw [hcall]
    exact h.push hlate (hformed h.toWellFormed)

/-- A call only appends parameters. -/
lemma toList_prefix_call (t : ParameterTable) (c : Call) : t.toList <+: (t.call c).2.toList := by
  rcases t.call_cases c with
    ⟨-, hcall⟩ | ⟨_, _, _, _, -, hcall, -⟩ | ⟨_, _, _, _, -, -, -, -, hcall, -⟩
  · exact ⟨[], by rw [hcall, List.append_nil, toList_close]⟩
  · exact ⟨[], by rw [hcall, List.append_nil]⟩
  · rw [hcall]
    simp

/-- A sequence of calls leaves a table in order. -/
theorem ordered_after (calls : List Call) : (after calls).Ordered := by
  induction calls using List.reverseRecOn with
  | nil => exact ordered_empty
  | append_singleton calls c ih =>
    rw [after_concat]
    exact ih.call c

/-- The parameters so far stay at their places. -/
lemma toList_prefix_after (calls more : List Call) :
    (after calls).toList <+: (after (calls ++ more)).toList := by
  induction more using List.reverseRecOn with
  | nil => exact ⟨[], by simp only [List.append_nil]⟩
  | append_singleton more c ih =>
    rw [← List.append_assoc, after_concat]
    exact ih.trans (toList_prefix_call _ c)

/-- A table is sealed by the calls that seal it, and by no others. -/
lemma isSealed_after_iff (calls : List Call) :
    (after calls).isSealed = true ↔ Call.close ∈ calls := by
  induction calls using List.reverseRecOn with
  | nil => simp [after, empty]
  | append_singleton calls c ih =>
    rw [after_concat, List.mem_append, List.mem_singleton, ← ih]
    rcases (after calls).call_cases c with ⟨rfl, hcall⟩ | ⟨_, _, _, _, rfl, hcall, -⟩ |
      ⟨_, _, _, _, rfl, -, -, -, hcall, -⟩
    · simp [hcall, ParameterTable.close]
    · simp [hcall]
    · simp [hcall, push]

/-- The outcome of a call does not depend on the calls after it. -/
lemma outcome?_append_left (hi : i < calls.length) (more : List Call) :
    outcome? (calls ++ more) i = outcome? calls i := by
  rw [outcome?, outcome?, List.getElem?_append_left hi,
    List.take_append_of_le_length (Nat.le_of_lt hi)]

/-- A declaration at a place either fails with the kind of the first requirement that is violated
and leaves the table as it was, or returns the size of the table and appends its parameter. -/
lemma outcome?_cases (hc : calls[i]? = some (.declare name default rate)) :
    (∃ e, outcome? calls i = some (.error e) ∧
        (after (calls.take i)).firstViolated name default rate = some e.kind ∧
        after (calls.take (i + 1)) = after (calls.take i)) ∨
      ∃ r x, rate = r.name ∧ (after (calls.take i)).firstViolated name default rate = none ∧
        default.narrow? = some x ∧
        outcome? calls i = some (.ok (some (after (calls.take i)).size)) ∧
        after (calls.take (i + 1)) = (after (calls.take i)).push name x r := by
  rw [outcome?, hc, take_succ_of_getElem? hc, after_concat]
  rcases (after (calls.take i)).call_cases (.declare name default rate) with ⟨hclose, -⟩ |
    ⟨_, _, _, e, hdeclare, hcall, hkind⟩ | ⟨_, _, r, x, hdeclare, hnone, hx, -, hcall, -⟩
  · cases hclose
  · obtain ⟨rfl, rfl, rfl⟩ := Call.declare.inj hdeclare
    exact .inl ⟨e, by simp [hcall], hkind, by rw [hcall]⟩
  · obtain ⟨rfl, rfl, rfl⟩ := Call.declare.inj hdeclare
    exact .inr ⟨r, x, rfl, hnone, hx, by simp [hcall], by rw [hcall]⟩

/-- A declaration that returns an index appends its parameter there. -/
lemma after_take_of_outcome? {k : Nat} (hc : calls[i]? = some (.declare name default rate))
    (hk : outcome? calls i = some (.ok (some k))) :
    ∃ r x, rate = r.name ∧ default.narrow? = some x ∧ k = (after (calls.take i)).size ∧
      (after (calls.take (i + 1))).toList = (after (calls.take i)).toList ++ [⟨name, x, r, k⟩] := by
  rcases outcome?_cases hc with ⟨e, herror, -⟩ | ⟨r, x, hr, -, hx, hok, hafter⟩
  · rw [hk] at herror
    cases herror
  · obtain rfl : k = (after (calls.take i)).size := by simpa [hk] using hok
    exact ⟨r, x, hr, hx, rfl, by rw [hafter, toList_push]⟩

/-- A declaration that succeeds leaves its parameter at the index that it returns, also in the
end. -/
lemma getElem?_after_of_outcome? {k : Nat}
    (hc : calls[i]? = some (.declare name default rate))
    (hk : outcome? calls i = some (.ok (some k))) :
    ∃ r x, rate = r.name ∧ default.narrow? = some x ∧
      (after calls).toList[k]? = some ⟨name, x, r, k⟩ := by
  obtain ⟨r, x, hr, hx, hsize, hafter⟩ := after_take_of_outcome? hc hk
  refine ⟨r, x, hr, hx, ?_⟩
  have hkept := toList_prefix_after (calls.take (i + 1)) (calls.drop (i + 1))
  rw [List.take_append_drop, hafter] at hkept
  refine getElem?_of_prefix hkept ?_
  rw [hsize, ← length_toList, List.getElem?_concat_length]

/-- Every parameter of the table comes from a declaration that returned its index. -/
lemma exists_call_of_getElem? {k : Nat} {p : Parameter} (hp : (after calls).toList[k]? = some p) :
    ∃ i v, calls[i]? = some (.declare p.name v p.rate.name) ∧
      outcome? calls i = some (.ok (some k)) ∧ v.narrow? = some p.default := by
  induction calls using List.reverseRecOn with
  | nil => simp [after, empty, toList] at hp
  | append_singleton calls c ih =>
    have hlater : (after calls).toList[k]? = some p →
        ∃ i v, (calls ++ [c])[i]? = some (.declare p.name v p.rate.name) ∧
          outcome? (calls ++ [c]) i = some (.ok (some k)) ∧ v.narrow? = some p.default := by
      intro hold
      obtain ⟨i, v, hcall, hok, hv⟩ := ih hold
      obtain ⟨hlt, -⟩ := List.getElem?_eq_some_iff.mp hcall
      refine ⟨i, v, ?_, ?_, hv⟩
      · rw [List.getElem?_append_left hlt, hcall]
      · rw [outcome?_append_left hlt, hok]
    have hlast : (calls ++ [c])[calls.length]? = some c := List.getElem?_concat_length
    rw [after_concat] at hp
    rcases (after calls).call_cases c with ⟨-, hcall⟩ | ⟨_, _, _, _, -, hcall, -⟩ |
      ⟨name, default, r, x, rfl, -, hx, -, hcall, -⟩
    · rw [hcall] at hp
      exact hlater hp
    · rw [hcall] at hp
      exact hlater hp
    · rw [hcall, toList_push] at hp
      by_cases hk : k < (after calls).toList.length
      · rw [List.getElem?_append_left hk] at hp
        exact hlater hp
      · rw [List.getElem?_append_right (Nat.not_lt.mp hk), List.getElem?_singleton] at hp
        split at hp
        case isFalse => cases hp
        case isTrue hzero =>
          obtain rfl := Option.some.inj hp
          have hsize : k = (after calls).size := by
            rw [length_toList] at hk hzero
            omega
          refine ⟨calls.length, default, hlast, ?_, hx⟩
          rw [outcome?, hlast, List.take_left, Option.map_some, hcall, hsize]

/-- The names of the table are those that a declaration put there. -/
lemma contains_after_iff (calls : List Call) (name : String) :
    (after calls).contains name = true ↔ ∃ (i : Nat) (v : Binary64) (rate : String) (k : Nat),
      calls[i]? = some (.declare name v rate) ∧ outcome? calls i = some (.ok (some k)) := by
  rw [contains_eq_true_iff, List.mem_map]
  constructor
  · rintro ⟨p, hp, rfl⟩
    obtain ⟨k, hk⟩ := List.mem_iff_getElem?.mp hp
    obtain ⟨i, v, hc, hok, -⟩ := exists_call_of_getElem? hk
    exact ⟨i, v, p.rate.name, k, hc, hok⟩
  · rintro ⟨i, v, rate, k, hc, hok⟩
    obtain ⟨r, x, -, -, hp⟩ := getElem?_after_of_outcome? hc hok
    exact ⟨_, List.mem_of_getElem? hp, rfl⟩

/-- The parameter at a place is the one whose declaration returned that place. -/
lemma getElem?_after_iff (calls : List Call) (k : Nat) (p : Parameter) :
    (after calls).toList[k]? = some p ↔ p.index = k ∧
      ∃ (i : Nat) (v : Binary64), calls[i]? = some (.declare p.name v p.rate.name) ∧
        outcome? calls i = some (.ok (some k)) ∧ v.narrow? = some p.default := by
  constructor
  · intro hp
    exact ⟨(ordered_after calls).getElem?_index hp, exists_call_of_getElem? hp⟩
  · rintro ⟨rfl, i, v, hc, hok, hv⟩
    obtain ⟨r, x, hr, hx, hp⟩ := getElem?_after_of_outcome? hc hok
    obtain rfl : x = p.default := by simpa [hv] using hx.symm
    rw [hp, ← ParameterRate.name_injective hr]

/-- A declaration succeeds exactly when the table before it meets all requirements. -/
lemma exists_outcome?_iff (hc : calls[i]? = some (.declare name default rate)) :
    (∃ k, outcome? calls i = some (.ok (some k))) ↔
      ∀ c ∈ (after (calls.take i)).requirements name default rate, c.1 = true := by
  rw [← firstViolated_eq_none_iff]
  rcases outcome?_cases hc with ⟨e, herror, hkind, -⟩ | ⟨r, x, -, hnone, -, hok, -⟩
  · simp [herror, hkind]
  · simp [hok, hnone]

/-- What a sequence of calls on the empty table amounts to. -/
structure KeepsDeclared (calls : List Call) : Prop where
  /-- The names are distinct. -/
  nodup : ((after calls).toList.map Parameter.name).Nodup
  /-- The names are ASCII of at most 255 bytes. -/
  short : ∀ p ∈ (after calls).toList, isAscii p.name = true ∧ p.name.length ≤ 255
  /-- The index of a parameter is its position. -/
  index : ∀ (k : Nat) p, (after calls).toList[k]? = some p → p.index = k
  /-- Control and trigger parameters stand before all audio parameters. -/
  blockFirst : ∀ (k l : Nat) p q, (after calls).toList[k]? = some p →
    (after calls).toList[l]? = some q → p.rate = .control ∨ p.rate = .trigger → q.rate = .audio →
    k < l
  /-- The block-rate parameters followed by the sample-rate ones are the whole table. -/
  split : (after calls).blockRate ++ (after calls).sampleRate = (after calls).toList
  /-- Looking a name up gives the one parameter of that name. -/
  get_iff : ∀ name p, (after calls).get name = .ok p ↔ p ∈ (after calls).toList ∧ p.name = name
  /-- The table contains exactly the names that were declared. -/
  contains_iff : ∀ name, (after calls).contains name = true ↔ ∃ (i : Nat) (v : Binary64)
    (rate : String) (k : Nat), calls[i]? = some (.declare name v rate) ∧
      outcome? calls i = some (.ok (some k))
  /-- The parameters are those of the declarations that succeeded, each at the index that was
  returned and with the default in single precision. -/
  entries : ∀ (k : Nat) p, (after calls).toList[k]? = some p ↔ p.index = k ∧
    ∃ (i : Nat) (v : Binary64), calls[i]? = some (.declare p.name v p.rate.name) ∧
      outcome? calls i = some (.ok (some k)) ∧ v.narrow? = some p.default
  /-- The table is sealed by a call that closes it. -/
  sealed_iff : (after calls).isSealed = true ↔ Call.close ∈ calls
  /-- A declaration succeeds exactly when the table before it meets all requirements. -/
  succeeds_iff : ∀ (i : Nat) name v rate, calls[i]? = some (.declare name v rate) →
    ((∃ k, outcome? calls i = some (.ok (some k))) ↔
      ∀ c ∈ (after (calls.take i)).requirements name v rate, c.1 = true)
  /-- A declaration that succeeds returns the number of parameters and appends one. -/
  appends : ∀ (i : Nat) name v rate k, calls[i]? = some (.declare name v rate) →
    outcome? calls i = some (.ok (some k)) → k = (after (calls.take i)).size ∧
      ∃ p, (after (calls.take (i + 1))).toList = (after (calls.take i)).toList ++ [p] ∧
        p.name = name ∧ p.rate.name = rate ∧ v.narrow? = some p.default
  /-- A declaration that fails does so for the first requirement that is violated, and leaves the
  table as it was. -/
  fails : ∀ (i : Nat) name v rate, calls[i]? = some (.declare name v rate) →
    (∀ k, outcome? calls i ≠ some (.ok (some k))) →
    ∃ e, outcome? calls i = some (.error e) ∧
      (((after (calls.take i)).requirements name v rate).find? (!·.1)).map Prod.snd =
        some e.kind ∧
      after (calls.take (i + 1)) = after (calls.take i)

/-- For every sequence of calls, whether they succeed or fail, the table holds the parameters that
were declared in their order, under distinct names and with the block-rate ones first, and the first
requirement that a declaration violates decides its fault. -/
theorem keepsDeclared_calls (calls : List Call) : KeepsDeclared calls where
  nodup := (ordered_after calls).nodup
  short p hp := (ordered_after calls).short p hp
  index _ _ hp := (ordered_after calls).getElem?_index hp
  blockFirst k l p q hp hq hblock hsample := by
    refine (ordered_after calls).lt_of_rates hp hq ?_ ?_
    · rcases hblock with hrate | hrate <;> rw [hrate] <;> rfl
    · rw [hsample]
      rfl
  split := (ordered_after calls).split
  get_iff _ _ := (ordered_after calls).get_eq_ok_iff
  contains_iff := contains_after_iff calls
  entries := getElem?_after_iff calls
  sealed_iff := isSealed_after_iff calls
  succeeds_iff _ _ _ _ hc := exists_outcome?_iff hc
  appends i name v rate k hc hk := by
    obtain ⟨r, x, rfl, hx, hsize, hafter⟩ := after_take_of_outcome? hc hk
    exact ⟨hsize, ⟨name, x, r, k⟩, hafter, rfl, rfl, hx⟩
  fails i name v rate hc hfails := by
    rcases outcome?_cases hc with ⟨e, herror, hkind, hkept⟩ | ⟨_, _, -, -, -, hok, -⟩
    · exact ⟨e, herror, hkind, hkept⟩
    · exact absurd hok (hfails _)

/-- A declaration fails in each of the six ways, and a table is closed. -/
example :
    let calls : List Call := [.declare "é" (.ofInt 0) "control",
      .declare "freq" (.ofInt 0) "scalar", .declare "freq" (.ofInt 440) "control",
      .declare "freq" (.ofInt 0) "audio", .declare "freq_mod" (.ofInt 0) "audio",
      .declare "gate" (.ofInt 0) "trigger",
      .declare "amp_mod" (.ofInt (10 ^ (300 : Nat))) "audio", .close,
      .declare "pan" (.ofInt 0) "audio"]
    (List.range 9).map (fun i => (outcome? calls i).map (·.mapError Fault.kind)) =
        [some (.error .nameLength), some (.error .graph), some (.ok (some 0)),
          some (.error .duplicateParameter), some (.ok (some 1)), some (.error .parameterOrder),
          some (.error .format), some (.ok none), some (.error .parameterOrder)] ∧
      (after calls).toList.map Parameter.name = ["freq", "freq_mod"] := by
  decide +kernel

end ParameterTable

end SynthGraph
