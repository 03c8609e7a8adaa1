import SynthGraph.Proofs.Binary.Reader
import SynthGraph.Proofs.File.Legal

/-!
# Reading definition files back

The contents of a definition file as a reader sees them, the reader of the format, and the round
trip: whatever can be written is read back with nothing left over.  Since every reachable definition
can be written, files of such definitions with equal bytes have equal contents.
-/

namespace SynthGraph

/-- What a file says about a node.  The inputs are pairs of a node and a slot, and rates are
codes. -/
structure NodeContents where
  className : String
  rate : Int
  special : Int
  inputs : List (Int × Int)
  outputs : List Int
  deriving DecidableEq

/-- What a file says about a definition. -/
structure DefinitionContents where
  name : String
  constants : List Binary32
  defaults : List Binary32
  parameters : List (String × Int)
  nodes : List NodeContents
  variants : Int
  deriving DecidableEq

/-- What a file says. -/
structure FileContents where
  magic : List UInt8
  version : Int
  definitions : List DefinitionContents
  deriving DecidableEq

/-- The contents of a node. -/
def Node.contents (n : Node) : NodeContents :=
  ⟨n.className, n.rate.code, n.special, n.inputs.map fun r => (r.node, r.slot),
    n.outputs.map Rate.code⟩

/-- The contents of a definition. -/
def Definition.contents (d : Definition) : DefinitionContents :=
  ⟨d.name, d.constants.values, d.parameters.toList.map Parameter.default,
    d.parameters.toList.map fun p => (p.name, (p.index : Int)), d.nodes.toList.map Node.contents, 0⟩

/-! ### The reader of the format -/

namespace ByteReader

/-- The reader of an input. -/
def reference : ByteReader (Int × Int) := do
  let node ← signed .int32
  let slot ← signed .int32
  return (node, slot)

/-- The reader of a parameter in the table of names. -/
def parameter : ByteReader (String × Int) := do
  let name ← text
  let index ← signed .int32
  return (name, index)

/-- The reader of a node.  Both counts stand before the special index. -/
def node : ByteReader NodeContents := do
  let className ← text
  let rate ← signed .int8
  let inputCount ← signed .int32
  let outputCount ← signed .int32
  let special ← signed .int16
  let inputs ← repeated reference inputCount.toNat
  let outputs ← repeated (signed .int8) outputCount.toNat
  return ⟨className, rate, special, inputs, outputs⟩

/-- The reader of a definition. -/
def definition : ByteReader DefinitionContents := do
  let name ← text
  let constants ← counted single
  let defaults ← counted single
  let parameters ← counted parameter
  let nodes ← counted node
  let variants ← signed .int16
  return ⟨name, constants, defaults, parameters, nodes, variants⟩

/-- The reader of a file. -/
def file : ByteReader FileContents := do
  let magic ← take 4
  let version ← signed .int32
  let count ← signed .int16
  let definitions ← repeated definition count.toNat
  return ⟨magic, version, definitions⟩

end ByteReader

/-- Reads a whole file, which must not go on after its last definition. -/
def DefinitionFile.decode (bytes : List UInt8) : Option FileContents :=
  match ByteReader.file bytes with
  | some (contents, []) => some contents
  | _ => none

/-! ### Legal fields are read back -/

namespace ByteReader

variable {α γ : Type}

/-- The integer of a legal field is read back. -/
lemma reads_int {w : IntWidth} {v : Int} (h : (Field.int w v).IsLegal) :
    Reads (signed w) (Field.int w v).bytes v := reads_signed h

/-- The name of a legal field is read back. -/
lemma reads_name {s : String} (h : (Field.name s).IsLegal) : Reads text (Field.name s).bytes s :=
  reads_text h

/-- A stored literal is read back. -/
lemma reads_literal (x : Binary32) : Reads single ((literalFields x).flatMap Field.bytes) x := by
  have hbytes : (literalFields x).flatMap Field.bytes = Field.singleBytes x := by
    simp [literalFields, Field.bytes, FloatDatum.narrow?_widen]
  rw [hbytes]
  exact reads_single x

/-- As many values as a legal count says are read back. -/
lemma reads_repeatedFields {r : ByteReader α} {xs : List γ} {fields : γ → List Field}
    {value : γ → α} (h : ∀ x ∈ xs, Reads r ((fields x).flatMap Field.bytes) (value x)) :
    Reads (repeated r (xs.length : Int).toNat) ((xs.flatMap fields).flatMap Field.bytes)
      (xs.map value) := by
  rw [Int.toNat_natCast, List.flatMap_assoc]
  exact reads_repeated h

/-- A counted list is read back when its elements are. -/
lemma reads_countedFields {r : ByteReader α} {xs : List γ} {fields : γ → List Field}
    {value : γ → α} (hlegal : ∀ f ∈ countedFields xs fields, f.IsLegal)
    (h : ∀ x ∈ xs, (∀ f ∈ fields x, f.IsLegal) →
      Reads r ((fields x).flatMap Field.bytes) (value x)) :
    Reads (counted r) ((countedFields xs fields).flatMap Field.bytes) (xs.map value) := by
  obtain ⟨hcount, hfields⟩ := List.forall_mem_cons.mp hlegal
  rw [countedFields, List.flatMap_cons]
  refine (reads_int hcount).bind (reads_repeatedFields fun x hx => h x hx fun f hf => ?_)
  exact hfields f (List.mem_flatMap.mpr ⟨x, hx, hf⟩)

/-- An input is read back. -/
lemma reads_reference {r : Reference} (hlegal : ∀ f ∈ r.fields, f.IsLegal) :
    Reads reference (r.fields.flatMap Field.bytes) (r.node, r.slot) := by
  simp only [Reference.fields, List.forall_mem_cons] at hlegal
  simp only [Reference.fields, List.flatMap_cons, List.flatMap_nil]
  exact (reads_int hlegal.1).bind ((reads_int hlegal.2.1).bind (.pure _))

/-- A parameter is read back. -/
lemma reads_parameter {p : Parameter} (hlegal : ∀ f ∈ p.nameFields, f.IsLegal) :
    Reads parameter (p.nameFields.flatMap Field.bytes) (p.name, (p.index : Int)) := by
  simp only [Parameter.nameFields, List.forall_mem_cons] at hlegal
  simp only [Parameter.nameFields, List.flatMap_cons, List.flatMap_nil]
  exact (reads_name hlegal.1).bind ((reads_int hlegal.2.1).bind (.pure _))

/-- The rates of outputs are read back. -/
lemma reads_rates {rs : List Rate}
    (hlegal : ∀ f ∈ rs.map fun r => Field.int .int8 r.code, f.IsLegal) :
    Reads (repeated (signed .int8) (rs.length : Int).toNat)
      ((rs.map fun r => Field.int .int8 r.code).flatMap Field.bytes) (rs.map Rate.code) := by
  rw [Int.toNat_natCast, List.flatMap_map]
  exact reads_repeated fun r hr => reads_int (hlegal _ (List.mem_map_of_mem hr))

/-- A node is read back. -/
lemma reads_node {n : Node} (hlegal : ∀ f ∈ n.fields, f.IsLegal) :
    Reads node (n.fields.flatMap Field.bytes) n.contents := by
  simp only [Node.fields, List.forall_mem_append, List.forall_mem_cons] at hlegal
  obtain ⟨⟨⟨hclass, hrate, hinputs, houtputs, hspecial, -⟩, hreferences⟩, hrates⟩ := hlegal
  simp only [Node.fields, List.flatMap_append, List.flatMap_cons, List.flatMap_nil,
    List.append_assoc, List.nil_append]
  refine (reads_name hclass).bind ((reads_int hrate).bind ((reads_int hinputs).bind ?_))
  refine (reads_int houtputs).bind ((reads_int hspecial).bind ?_)
  refine (reads_repeatedFields fun r hr => reads_reference fun f hf => ?_).bind ?_
  · exact hreferences f (List.mem_flatMap.mpr ⟨r, hr, hf⟩)
  · exact (reads_rates hrates).map _

/-- A definition is read back. -/
lemma reads_definition {d : Definition} (hlegal : ∀ f ∈ d.fields, f.IsLegal) :
    Reads definition (d.fields.flatMap Field.bytes) d.contents := by
  simp only [Definition.fields, List.forall_mem_append, List.forall_mem_singleton] at hlegal
  obtain ⟨⟨⟨⟨⟨hname, hconstants⟩, hdefaults⟩, hparameters⟩, hnodes⟩, hvariants⟩ := hlegal
  simp only [Definition.fields, List.flatMap_append, List.flatMap_singleton, List.append_assoc]
  have hliterals := reads_countedFields hconstants fun x _ _ => reads_literal x
  rw [List.map_id'] at hliterals
  refine (reads_name hname).bind (hliterals.bind ?_)
  refine (reads_countedFields hdefaults fun p _ _ => reads_literal p.default).bind ?_
  refine (reads_countedFields hparameters fun p _ hp => reads_parameter hp).bind ?_
  refine (reads_countedFields hnodes fun n _ hn => reads_node hn).bind ?_
  exact (reads_int hvariants).map _

end ByteReader

namespace DefinitionFile

/-- A file that can be written is read back, and nothing is left over. -/
theorem decode_of_isLegal {ds : List Definition} (hlegal : ∀ f ∈ fields ds, f.IsLegal) :
    decode ((fields ds).flatMap Field.bytes) =
      some ⟨magic, version, ds.map Definition.contents⟩ := by
  simp only [fields, List.forall_mem_append, List.forall_mem_cons] at hlegal
  obtain ⟨⟨-, hversion, hcount, -⟩, hdefinitions⟩ := hlegal
  have hmagic : ByteReader.Reads (ByteReader.take 4) magic magic :=
    ByteReader.reads_take (by decide)
  have hread : ByteReader.Reads ByteReader.file ((fields ds).flatMap Field.bytes)
      ⟨magic, version, ds.map Definition.contents⟩ := by
    simp only [fields, List.flatMap_append, List.flatMap_cons, List.flatMap_nil,
      List.append_assoc, List.nil_append]
    refine hmagic.bind ((ByteReader.reads_int hversion).bind ?_)
    refine (ByteReader.reads_int hcount).bind ?_
    refine (ByteReader.reads_repeatedFields fun d hd => ?_).map _
    refine ByteReader.reads_definition fun f hf => ?_
    exact hdefinitions f (List.mem_flatMap.mpr ⟨d, hd, hf⟩)
  have hall := hread []
  rw [List.append_nil] at hall
  rw [decode, hall]

/-- Definitions that operations lead to are written and read back: a file of at most `32767` of
them, with counts of thirty-two bits, gives the magic letters, the version and the contents of each
definition, and leaves no byte over.  Files with the same bytes therefore have the same
contents. -/
theorem decode_encode {ds : List Definition} (hcount : ds.length ≤ 32767)
    (hds : ∀ d ∈ ds, d.Reachable ∧ d.CountsFit) :
    ∃ bytes, encode ds = .ok bytes ∧
      decode bytes = some ⟨asciiBytes "SCgf", 2, ds.map Definition.contents⟩ ∧
      ∀ es : List Definition, es.length ≤ 32767 → (∀ e ∈ es, e.Reachable ∧ e.CountsFit) →
        encode es = .ok bytes → es.map Definition.contents = ds.map Definition.contents := by
  have hlegal := isLegal_fields hcount hds
  have hdecoded := decode_of_isLegal hlegal
  refine ⟨_, encode_of_isLegal hcount hlegal, hdecoded, fun es hes hreach hequal => ?_⟩
  have hlegal' := isLegal_fields hes hreach
  rw [encode_of_isLegal hes hlegal'] at hequal
  have hdecoded' := decode_of_isLegal hlegal'
  rw [Except.ok.inj hequal, hdecoded] at hdecoded'
  have hcontents := congrArg FileContents.definitions (Option.some.inj hdecoded')
  exact hcontents.symm

/-- A finished definition with a literal, a parameter and three nodes. -/
def sine : Definition :=
  (⟨"sine", .empty, .empty, #[], []⟩ : Definition).run
    [.declare "freq" (.ofInt 440) "control", .controls, .constant (.ofInt 0),
      .node "SinOsc" 2 [⟨0, 0⟩, ⟨-1, 0⟩] 1 0, .node "Out" 2 [⟨-1, 0⟩, ⟨1, 0⟩] 0 0]

/-- An unfinished definition whose parameter has no control node yet. -/
def unfinished : Definition :=
  (⟨"unfinished", .empty, .empty, #[], []⟩ : Definition).run
    [.declare "gate" (.ofInt 0) "trigger"]

/-- Both definitions can be written. -/
lemma reachable_sine_unfinished : ∀ d ∈ [sine, unfinished], d.Reachable ∧ d.CountsFit := by
  simp only [List.forall_mem_cons]
  refine ⟨⟨?_, by decide +kernel⟩, ⟨?_, by decide +kernel⟩, List.forall_mem_nil _⟩
  · exact (Definition.Reachable.new (show Definition.new "sine" = .ok _ from rfl)).run _
  · exact (Definition.Reachable.new (show Definition.new "unfinished" = .ok _ from rfl)).run _

/-- A finished and an unfinished definition are written into one file and read back. -/
theorem decode_encode_sine :
    sine.Reachable ∧ unfinished.Reachable ∧ sine.CountsFit ∧ unfinished.CountsFit ∧
      (∃ bytes, encode [sine, unfinished] = .ok bytes ∧
        decode bytes = some ⟨asciiBytes "SCgf", 2, [sine.contents, unfinished.contents]⟩) ∧
      sine.contents.nodes =
        [⟨"Control", 1, 0, [], [1]⟩, ⟨"SinOsc", 2, 0, [(0, 0), (-1, 0)], [2]⟩,
          ⟨"Out", 2, 0, [(-1, 0), (1, 0)], []⟩] ∧
      unfinished.contents.parameters = [("gate", 0)] := by
  have hsine := reachable_sine_unfinished sine (by simp)
  have hunfinished := reachable_sine_unfinished unfinished (by simp)
  obtain ⟨bytes, hbytes, hdecoded, -⟩ := decode_encode (by decide) reachable_sine_unfinished
  exact ⟨hsine.1, hunfinished.1, hsine.2, hunfinished.2, ⟨bytes, hbytes, hdecoded⟩,
    by decide +kernel, by decide +kernel⟩

end DefinitionFile

end SynthGraph
