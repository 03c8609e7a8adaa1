import Mathlib
import SynthGraph.Proofs.File.Decode

/-!
# The size of a definition file

How many bytes a file takes, counted from the lengths of names and tables alone.  The count says
nothing of what is written where; that the size of the fields and the bytes that are written both
come to it means that the two passes over a file agree.
-/

namespace SynthGraph

/-! ### Counting bytes -/

/-- The bytes of a node: its class after a length byte, eleven bytes of numbers, eight for each
input and one for each output. -/
def Node.byteCount (n : Node) : Nat :=
  12 + n.className.length + 8 * n.inputs.length + n.outputs.length

/-- The bytes of a definition: its name, and after a count of four bytes each the literals, the
defaults, the names of the parameters with their indices, and the nodes; at the end the number of
variants. -/
def Definition.byteCount (d : Definition) : Nat :=
  (1 + d.name.length) + (4 + 4 * d.constants.size) + (4 + 4 * d.parameters.size) +
    (4 + (d.parameters.toList.map fun p => 5 + p.name.length).sum) +
    (4 + (d.nodes.toList.map Node.byteCount).sum) + 2

/-- The bytes of a file: ten before the definitions, then each of them. -/
def DefinitionFile.byteCount (ds : List Definition) : Nat :=
  10 + (ds.map Definition.byteCount).sum

namespace Field

/-- The number of bytes of some fields. -/
def byteLength (fs : List Field) : Nat := (fs.flatMap bytes).length

/-- An integer takes as many bytes as its width has. -/
@[simp] lemma length_bytes_int (w : IntWidth) (v : Int) : (int w v).bytes.length = w.bytes :=
  w.length_encode v

/-- A name takes one byte for its length and one for each character. -/
@[simp] lemma length_bytes_name (s : String) : (name s).bytes.length = 1 + s.length := by
  simp [bytes, Nat.add_comm]

/-- The bytes of fields are those of the first and those of the others. -/
@[simp] lemma byteLength_cons (f : Field) (fs : List Field) :
    byteLength (f :: fs) = f.bytes.length + byteLength fs := by
  simp [byteLength]

/-- No field takes no byte. -/
@[simp] lemma byteLength_nil : byteLength [] = 0 := rfl

/-- The bytes of fields add up. -/
@[simp] lemma byteLength_append (fs gs : List Field) :
    byteLength (fs ++ gs) = byteLength fs + byteLength gs := by
  simp [byteLength]

/-- The bytes of a list are the sum of those of its elements. -/
lemma byteLength_flatMap {α : Type} (xs : List α) (fields : α → List Field) :
    byteLength (xs.flatMap fields) = (xs.map fun x => byteLength (fields x)).sum := by
  induction xs with
  | nil => rfl
  | cons x xs ih => rw [List.flatMap_cons, byteLength_append, ih, List.map_cons, List.sum_cons]

/-- A counted list takes four bytes and then those of its elements. -/
lemma byteLength_countedFields {α : Type} (xs : List α) (fields : α → List Field) :
    byteLength (countedFields xs fields) = 4 + (xs.map fun x => byteLength (fields x)).sum := by
  rw [countedFields, byteLength_cons, length_bytes_int, byteLength_flatMap]
  rfl

/-- A counted list of elements of one size. -/
lemma byteLength_countedFields_of_eq {α : Type} (xs : List α) {fields : α → List Field} {k : Nat}
    (h : ∀ x, byteLength (fields x) = k) :
    byteLength (countedFields xs fields) = 4 + k * xs.length := by
  rw [byteLength_countedFields]
  simp [h, Nat.mul_comm]

end Field

/-- A stored literal takes four bytes. -/
lemma byteLength_literalFields (x : Binary32) : Field.byteLength (literalFields x) = 4 := by
  simp [literalFields, Field.bytes, FloatDatum.narrow?_widen]

/-- A reference takes eight bytes. -/
lemma Reference.byteLength_fields (r : Reference) : Field.byteLength r.fields = 8 := by
  simp [Reference.fields, IntWidth.bytes]

/-- An entry of the table of names takes five bytes and the characters of the name. -/
lemma Parameter.byteLength_nameFields (p : Parameter) :
    Field.byteLength p.nameFields = 5 + p.name.length := by
  simp [Parameter.nameFields, IntWidth.bytes]
  omega

/-- The fields of a node take as many bytes as are counted. -/
lemma Node.byteLength_fields (n : Node) : Field.byteLength n.fields = n.byteCount := by
  have hinputs : Field.byteLength (n.inputs.flatMap Reference.fields) = 8 * n.inputs.length := by
    rw [Field.byteLength_flatMap]
    simp [Reference.byteLength_fields, Nat.mul_comm]
  have houtputs : Field.byteLength (n.outputs.map fun r => .int .int8 r.code) =
      n.outputs.length := by
    simp [Field.byteLength, List.flatMap_map, List.length_flatMap, IntWidth.bytes]
  simp only [Node.fields, Field.byteLength_append, Field.byteLength_cons, Field.byteLength_nil,
    Field.length_bytes_name, Field.length_bytes_int, IntWidth.bytes, hinputs, houtputs, byteCount]
  omega

/-- The fields of a definition take as many bytes as are counted. -/
lemma Definition.byteLength_fields (d : Definition) :
    Field.byteLength d.fields = d.byteCount := by
  have hconstants := Field.byteLength_countedFields_of_eq d.constants.values
    byteLength_literalFields
  have hdefaults := Field.byteLength_countedFields_of_eq d.parameters.toList
    fun p => byteLength_literalFields p.default
  have hnames := Field.byteLength_countedFields d.parameters.toList Parameter.nameFields
  have hnodes := Field.byteLength_countedFields d.nodes.toList Node.fields
  simp only [Parameter.byteLength_nameFields] at hnames
  simp only [Node.byteLength_fields] at hnodes
  rw [ConstantPool.length_values] at hconstants
  rw [ParameterTable.length_toList] at hdefaults
  simp only [Definition.fields, Field.byteLength_append, Field.byteLength_cons,
    Field.byteLength_nil, Field.length_bytes_name, Field.length_bytes_int, hconstants, hdefaults,
    hnames, hnodes, byteCount, IntWidth.bytes, Nat.add_zero]

namespace DefinitionFile

variable {ds : List Definition}

/-- The fields of a file take as many bytes as are counted. -/
lemma byteLength_fields (ds : List Definition) : Field.byteLength (fields ds) = byteCount ds := by
  have hdefinitions := Field.byteLength_flatMap ds Definition.fields
  simp only [Definition.byteLength_fields] at hdefinitions
  rw [fields, Field.byteLength_append, hdefinitions, byteCount]
  rfl

/-- The size of a file of legal fields is what is counted. -/
lemma size_of_isLegal (hcount : ds.length ≤ maxDefinitions)
    (hlegal : ∀ f ∈ fields ds, f.IsLegal) : size ds = .ok (byteCount ds) := by
  have hcheck : checkCount ds = .ok () := if_neg (Nat.not_lt.mpr hcount)
  rw [size, hcheck, ← byteLength_fields]
  exact Field.totalSize_of_isLegal hlegal

/-- The size of a file and its bytes agree: a file of at most `32767` definitions that operations
lead to, with counts of thirty-two bits, is written without a fault, and has as many bytes as its
size says and as are counted; of more definitions neither the size nor the bytes are given. -/
theorem size_eq_length_encode (hds : ∀ d ∈ ds, d.Reachable ∧ d.CountsFit) :
    (ds.length ≤ 32767 → ∃ bytes, encode ds = .ok bytes ∧ size ds = .ok bytes.length ∧
      bytes.length = byteCount ds) ∧
    (32767 < ds.length → ∃ e, size ds = .error e ∧ encode ds = .error e ∧ e.kind = .format) := by
  refine ⟨fun hcount => ?_, fun hcount => ?_⟩
  · have hlegal := isLegal_fields hcount hds
    have hlength : ((fields ds).flatMap Field.bytes).length = byteCount ds := byteLength_fields ds
    refine ⟨_, encode_of_isLegal hcount hlegal, ?_, hlength⟩
    rw [hlength]
    exact size_of_isLegal hcount hlegal
  · obtain ⟨hsize, hencode⟩ := refused_of_too_many hcount
    exact ⟨_, hsize, hencode, rfl⟩

/-- A finished and an unfinished definition take 178 bytes, and one definition too many has no
file. -/
theorem size_eq_length_encode_sine :
    (∃ bytes, encode [sine, unfinished] = .ok bytes ∧
      size [sine, unfinished] = .ok bytes.length ∧ bytes.length = 178) ∧
    ∃ e, size (List.replicate 32768 unfinished) = .error e ∧
      encode (List.replicate 32768 unfinished) = .error e ∧ e.kind = .format := by
  have hmany : ∀ d ∈ List.replicate 32768 unfinished, d.Reachable ∧ d.CountsFit := fun d hd =>
    List.eq_of_mem_replicate hd ▸ reachable_sine_unfinished unfinished (by simp)
  obtain ⟨bytes, hbytes, hsize, hlength⟩ :=
    (size_eq_length_encode reachable_sine_unfinished).1 (by decide)
  have hcount : byteCount [sine, unfinished] = 178 := by decide +kernel
  refine ⟨⟨bytes, hbytes, hsize, hlength.trans hcount⟩, ?_⟩
  exact (size_eq_length_encode hmany).2 (by rw [List.length_replicate]; decide)

end DefinitionFile

end SynthGraph
