import SynthGraph.Graph.DefinitionFile
import SynthGraph.Proofs.Binary.Written
import SynthGraph.Proofs.Graph.Binding
import SynthGraph.Proofs.Graph.Dag
import SynthGraph.Proofs.Number.Exact

/-!
# Reachable definitions can be written

Every field of a reachable definition is legal as long as its counts have thirty-two bits: the
graph is acyclic, so the numbers of a reference are below counts; names are short; and stored
literals have single precision.  The file of such definitions is therefore written without a fault,
and its bytes are those of its fields.
-/

namespace SynthGraph

/-- The numbers of literals, parameters and nodes of a definition, and those of the inputs and
outputs of each node, have thirty-two bits. -/
structure Definition.CountsFit (d : Definition) : Prop where
  constants : d.constants.size < 2147483648
  parameters : d.parameters.size < 2147483648
  nodes : d.nodes.size < 2147483648
  inputs : ∀ n ∈ d.nodes, n.inputs.length < 2147483648
  outputs : ∀ n ∈ d.nodes, n.outputs.length < 2147483648

instance (d : Definition) : Decidable d.CountsFit :=
  decidable_of_iff
    (d.constants.size < 2147483648 ∧ d.parameters.size < 2147483648 ∧ d.nodes.size < 2147483648 ∧
      (∀ n ∈ d.nodes, n.inputs.length < 2147483648) ∧ ∀ n ∈ d.nodes, n.outputs.length < 2147483648)
    ⟨fun ⟨hc, hp, hn, hi, ho⟩ => ⟨hc, hp, hn, hi, ho⟩,
      fun h => ⟨h.constants, h.parameters, h.nodes, h.inputs, h.outputs⟩⟩

/-- What has thirty-two bits can be written as an integer of that width. -/
lemma fits_int32 {v : Int} (hlow : -1 ≤ v) (hhigh : v < 2147483648) :
    IntWidth.int32.fits v = true := by
  rw [IntWidth.fits, decide_eq_true_eq]
  change -2147483648 ≤ v ∧ v < 2147483648
  omega

/-- A count can be written. -/
lemma fits_int32_natCast {n : Nat} (hn : n < 2147483648) : IntWidth.int32.fits n = true :=
  fits_int32 (by omega) (by omega)

/-- A count that can be written has thirty-two bits. -/
lemma lt_of_isLegal_count {n : Nat} (h : (Field.int .int32 n).IsLegal) : n < 2147483648 := by
  rw [Field.IsLegal, IntWidth.fits, decide_eq_true_eq] at h
  change -2147483648 ≤ (n : Int) ∧ (n : Int) < 2147483648 at h
  omega

/-- The code of a rate can be written. -/
lemma fits_rateCode (r : Rate) : IntWidth.int8.fits r.code = true := by
  cases r <;> decide

/-- A counted list can be written when its elements can. -/
lemma isLegal_countedFields {α : Type} {xs : List α} {fields : α → List Field}
    (hcount : xs.length < 2147483648) (h : ∀ x ∈ xs, ∀ f ∈ fields x, f.IsLegal) :
    ∀ f ∈ countedFields xs fields, f.IsLegal := by
  refine List.forall_mem_cons.mpr ⟨fits_int32_natCast hcount, fun f hf => ?_⟩
  obtain ⟨x, hx, hf⟩ := List.mem_flatMap.mp hf
  exact h x hx f hf

/-- A stored literal can be written. -/
lemma isLegal_literalFields (x : Binary32) : ∀ f ∈ literalFields x, f.IsLegal := by
  have hlegal : (Field.single x.widen).IsLegal := by
    rw [Field.IsLegal, FloatDatum.narrow?_widen]
    rfl
  exact List.forall_mem_singleton.mpr hlegal

namespace Definition

variable {d : Definition}

/-- What a definition offers can be written. -/
lemma Offers.isLegal {i : Nat} {r : Reference} (hr : d.Offers i r) (hi : i ≤ d.nodes.size)
    (hcounts : d.CountsFit) : ∀ f ∈ r.fields, f.IsLegal := by
  have hnumbers : (-1 ≤ r.node ∧ r.node < 2147483648) ∧ -1 ≤ r.slot ∧ r.slot < 2147483648 := by
    have hconstants := hcounts.constants
    have hnodes := hcounts.nodes
    rcases offers_iff.mp hr with
      ⟨hnode, hslot, hlt⟩ | ⟨hnode, hearlier, hslot, source, hsource, hlt⟩
    · omega
    · have houtputs := hcounts.outputs source (Array.mem_of_getElem? hsource)
      omega
  refine List.forall_mem_cons.mpr ⟨?_, List.forall_mem_singleton.mpr ?_⟩
  · exact fits_int32 hnumbers.1.1 hnumbers.1.2
  · exact fits_int32 hnumbers.2.1 hnumbers.2.2

/-- A node that may stand where it is can be written. -/
lemma AdmitsAt.isLegal {i : Nat} {n : Node} (hn : d.AdmitsAt i n) (hi : d.nodes[i]? = some n)
    (hcounts : d.CountsFit) : ∀ f ∈ n.fields, f.IsLegal := by
  obtain ⟨hlt, -⟩ := Array.getElem?_eq_some_iff.mp hi
  have hmem : n ∈ d.nodes := Array.mem_of_getElem? hi
  rw [Node.fields, List.forall_mem_append, List.forall_mem_append]
  refine ⟨⟨?_, fun f hf => ?_⟩, fun f hf => ?_⟩
  · simp only [List.forall_mem_cons]
    refine ⟨hn.className, fits_rateCode n.rate, ?_, ?_, specialFits_iff.mpr hn.special,
      List.forall_mem_nil _⟩
    · exact fits_int32_natCast (hcounts.inputs n hmem)
    · exact fits_int32_natCast (hcounts.outputs n hmem)
  · obtain ⟨r, hr, hf⟩ := List.mem_flatMap.mp hf
    exact (hn.inputs r hr).isLegal hlt.le hcounts f hf
  · obtain ⟨r, -, rfl⟩ := List.mem_map.mp hf
    exact fits_rateCode r

/-- The name of a reachable definition is short. -/
lemma Reachable.isShortName_name (h : d.Reachable) : IsShortName d.name := by
  refine h.of_step (P := fun d => IsShortName d.name) ?_ ?_
  · intro name d hnew
    obtain ⟨hname, rfl⟩ := Definition.new_eq_ok_iff.mp hnew
    exact hname
  · intro d d' hstep hd
    rwa [hstep.extends.name]

/-- A reachable definition can be written when its counts have thirty-two bits. -/
theorem Reachable.isLegal_fields (h : d.Reachable) (hcounts : d.CountsFit) :
    ∀ f ∈ d.fields, f.IsLegal := by
  have htable := h.wellBound.table
  have hparameters : d.parameters.toList.length < 2147483648 := by
    rw [ParameterTable.length_toList]
    exact hcounts.parameters
  simp only [Definition.fields, List.forall_mem_append, List.forall_mem_singleton]
  refine ⟨⟨⟨⟨⟨h.isShortName_name, ?_⟩, ?_⟩, ?_⟩, ?_⟩, by decide⟩
  · refine isLegal_countedFields ?_ fun x _ => isLegal_literalFields x
    rw [ConstantPool.length_values]
    exact hcounts.constants
  · exact isLegal_countedFields hparameters fun p _ => isLegal_literalFields p.default
  · refine isLegal_countedFields hparameters fun p hp => ?_
    obtain ⟨i, hi, rfl⟩ := List.getElem_of_mem hp
    have hindex := htable.getElem?_index (List.getElem?_eq_getElem hi)
    refine List.forall_mem_cons.mpr ⟨htable.short _ hp, List.forall_mem_singleton.mpr ?_⟩
    exact fits_int32_natCast (by omega)
  · refine isLegal_countedFields ?_ fun n hn => ?_
    · exact hcounts.nodes
    · obtain ⟨i, hi, rfl⟩ := List.getElem_of_mem hn
      have hnode : d.nodes[i]? = some d.nodes.toList[i] := by
        rw [← Array.getElem?_toList, List.getElem?_eq_getElem hi]
      exact (h.isDag i _ hnode).isLegal hnode hcounts

/-- A definition that can be written has counts of thirty-two bits. -/
lemma countsFit_of_isLegal (h : ∀ f ∈ d.fields, f.IsLegal) : d.CountsFit := by
  simp only [fields, countedFields, List.forall_mem_append, List.forall_mem_cons] at h
  obtain ⟨⟨⟨⟨⟨-, hconstants, -⟩, hparameters, -⟩, -⟩, hnodes, hall⟩, -⟩ := h
  have hnode : ∀ n ∈ d.nodes, n.inputs.length < 2147483648 ∧ n.outputs.length < 2147483648 := by
    intro n hn
    have hfields : ∀ f ∈ n.fields, f.IsLegal := fun f hf =>
      hall f (List.mem_flatMap.mpr ⟨n, Array.mem_toList_iff.mpr hn, hf⟩)
    simp only [Node.fields, List.forall_mem_append, List.forall_mem_cons] at hfields
    obtain ⟨⟨⟨-, -, hinputs, houtputs, -⟩, -⟩, -⟩ := hfields
    exact ⟨lt_of_isLegal_count hinputs, lt_of_isLegal_count houtputs⟩
  refine ⟨?_, ?_, lt_of_isLegal_count hnodes, fun n hn => (hnode n hn).1,
    fun n hn => (hnode n hn).2⟩
  · rw [← ConstantPool.length_values]
    exact lt_of_isLegal_count hconstants
  · rw [← ParameterTable.length_toList]
    exact lt_of_isLegal_count hparameters

end Definition

namespace DefinitionFile

variable {ds : List Definition}

/-- The file of reachable definitions can be written. -/
lemma isLegal_fields (hcount : ds.length ≤ maxDefinitions)
    (hds : ∀ d ∈ ds, d.Reachable ∧ d.CountsFit) : ∀ f ∈ fields ds, f.IsLegal := by
  rw [fields, List.forall_mem_append]
  refine ⟨?_, fun f hf => ?_⟩
  · simp only [List.forall_mem_cons]
    refine ⟨trivial, by decide, ?_, List.forall_mem_nil _⟩
    have hlength : ds.length ≤ 32767 := hcount
    rw [Field.IsLegal, IntWidth.fits, decide_eq_true_eq]
    change -32768 ≤ (ds.length : Int) ∧ (ds.length : Int) < 32768
    omega
  · obtain ⟨d, hd, hf⟩ := List.mem_flatMap.mp hf
    exact (hds d hd).1.isLegal_fields (hds d hd).2 f hf

/-- A file of legal fields is written without a fault, and its bytes are those of its fields. -/
theorem encode_of_isLegal (hcount : ds.length ≤ maxDefinitions)
    (hlegal : ∀ f ∈ fields ds, f.IsLegal) :
    encode ds = .ok ((fields ds).flatMap Field.bytes) := by
  have hcheck : checkCount ds = .ok () := if_neg (Nat.not_lt.mpr hcount)
  have hsize : size ds = .ok ((fields ds).flatMap Field.bytes).length := by
    rw [size, hcheck]
    exact Field.totalSize_of_isLegal hlegal
  have hnew : Buffer.new ((fields ds).flatMap Field.bytes).length =
      .ok ⟨((fields ds).flatMap Field.bytes).length, #[]⟩ := by
    rw [Buffer.new, if_neg (by omega), Int.toNat_natCast]
  have hwritten := Buffer.writeAll_of_isLegal
    (b := ⟨((fields ds).flatMap Field.bytes).length, #[]⟩) hlegal (by simp [Buffer.position])
  refine bind_eq_ok.mpr ⟨_, hsize, bind_eq_ok.mpr ⟨_, hnew, ?_⟩⟩
  rw [hwritten]
  refine bind_eq_ok.mpr ⟨_, rfl, ?_⟩
  rw [Buffer.result, if_pos (by simp [Buffer.position, Buffer.append, ← Array.length_toList])]
  simp [Buffer.append]

/-- Files that are written are those of legal fields, and their bytes are those of the fields. -/
lemma isLegal_of_encode {bytes : List UInt8} (h : encode ds = .ok bytes) :
    (∀ f ∈ fields ds, f.IsLegal) ∧ bytes = (fields ds).flatMap Field.bytes := by
  obtain ⟨declared, hsize, hwrite⟩ := bind_eq_ok.mp h
  obtain ⟨_, hcheck, -⟩ := bind_eq_ok.mp hsize
  have hcount : ds.length ≤ maxDefinitions := by
    unfold checkCount at hcheck
    split at hcheck
    case isTrue => cases hcheck
    case isFalse hcount => exact Nat.not_lt.mp hcount
  obtain ⟨buffer, -, hresult⟩ := bind_eq_ok.mp hwrite
  obtain ⟨_, hwritten, -⟩ := bind_eq_ok.mp hresult
  have hlegal : ∀ f ∈ fields ds, f.IsLegal := Buffer.isLegal_of_writeAll (b := buffer) hwritten
  rw [encode_of_isLegal hcount hlegal] at h
  exact ⟨hlegal, (Except.ok.inj h).symm⟩

/-- Reachable definitions that a file can count have bytes exactly when their counts have thirty-two
bits. -/
lemma exists_encode_iff (hcount : ds.length ≤ maxDefinitions) (hds : ∀ d ∈ ds, d.Reachable) :
    (∃ bytes, encode ds = .ok bytes) ↔ ∀ d ∈ ds, d.CountsFit := by
  constructor
  · rintro ⟨bytes, hbytes⟩ d hd
    refine Definition.countsFit_of_isLegal fun f hf => (isLegal_of_encode hbytes).1 f ?_
    exact List.mem_append_right _ (List.mem_flatMap.mpr ⟨d, hd, hf⟩)
  · intro hfit
    exact ⟨_, encode_of_isLegal hcount (isLegal_fields hcount fun d hd => ⟨hds d hd, hfit d hd⟩)⟩

/-- A file of too many definitions has neither a size nor bytes. -/
lemma refused_of_too_many (hcount : maxDefinitions < ds.length) :
    size ds = .error (.tooManyDefinitions ds.length) ∧
      encode ds = .error (.tooManyDefinitions ds.length) := by
  have hcheck : checkCount ds = .error (.tooManyDefinitions ds.length) := if_pos hcount
  have hsize : size ds = .error (.tooManyDefinitions ds.length) := by
    rw [size, hcheck]
    rfl
  refine ⟨hsize, ?_⟩
  rw [encode, hsize]
  rfl

end DefinitionFile

end SynthGraph
