import SynthGraph.Binary.Buffer
import SynthGraph.Graph.Definition

/-!
# Definition files

A definition file starts with four letters, the version of the format and the number of definitions,
and goes on with the definitions.  The file is described once, as a sequence of fields; its size is
the size of those fields, and its bytes are what they write into a buffer of that size.
-/

namespace SynthGraph

/-- The fields of a list: its length, then the fields of each element. -/
def countedFields {α : Type} (xs : List α) (fields : α → List Field) : List Field :=
  .int .int32 xs.length :: xs.flatMap fields

/-- A reference is its node and its slot. -/
def Reference.fields (r : Reference) : List Field :=
  [.int .int32 r.node, .int .int32 r.slot]

/-- A node is its class, its rate, its numbers of inputs and outputs, its special index, its inputs
and the rates of its outputs. -/
def Node.fields (n : Node) : List Field :=
  [.name n.className, .int .int8 n.rate.code, .int .int32 n.inputs.length,
    .int .int32 n.outputs.length, .int .int16 n.special] ++
  n.inputs.flatMap Reference.fields ++ n.outputs.map fun r => .int .int8 r.code

/-- A stored literal. -/
def literalFields (x : Binary32) : List Field := [.single x.widen]

/-- A parameter in the table of names: its name and its index. -/
def Parameter.nameFields (p : Parameter) : List Field :=
  [.name p.name, .int .int32 p.index]

/-- A definition is its name, its literals, the defaults of its parameters, their names, its nodes,
and the number of its variants, of which there are none. -/
def Definition.fields (d : Definition) : List Field :=
  [.name d.name] ++
  countedFields d.constants.values literalFields ++
  countedFields d.parameters.toList (fun p => literalFields p.default) ++
  countedFields d.parameters.toList Parameter.nameFields ++
  countedFields d.nodes.toList Node.fields ++
  [.int .int16 0]

namespace DefinitionFile

/-- The letters at the start of a file. -/
def magic : List UInt8 := asciiBytes "SCgf"

/-- The version of the format. -/
def version : Int := 2

/-- The most definitions that one file can count. -/
def maxDefinitions : Nat := 32767

/-- The name ending of definition files. -/
def suffix : String := ".scsyndef"

/-- The fields of a file. -/
def fields (ds : List Definition) : List Field :=
  [.raw magic, .int .int32 version, .int .int16 ds.length] ++ ds.flatMap Definition.fields

/-- Files count their definitions in sixteen bits. -/
def checkCount (ds : List Definition) : Except Fault Unit :=
  if maxDefinitions < ds.length then .error (.tooManyDefinitions ds.length) else .ok ()

/-- The size of the file of some definitions. -/
def size (ds : List Definition) : Except Fault Nat := do
  checkCount ds
  Field.totalSize (fields ds)

/-- Writes the file of some definitions into a buffer of a size. -/
def writeInto (declared : Int) (ds : List Definition) : Except Fault (List UInt8) := do
  let buffer ← Buffer.new declared
  let (outcome, buffer) := buffer.writeAll (fields ds)
  outcome
  buffer.result

/-- The bytes of the file of some definitions. -/
def encode (ds : List Definition) : Except Fault (List UInt8) := do
  let declared ← size ds
  writeInto declared ds

end DefinitionFile

end SynthGraph
