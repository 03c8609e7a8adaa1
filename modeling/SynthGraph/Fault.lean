import SynthGraph.Binary.IntWidth
import SynthGraph.Fault.Kind
import SynthGraph.Number.Shortest
import SynthGraph.Text.Quoted

/-!
# Failures of names, fields and graphs

One constructor per cause, with the data that its message shows.  The file gives the message and the
kind of each cause.
-/

namespace SynthGraph

/-- Why a name, a field or a graph operation was refused. -/
inductive Fault where
  /-- A name has a character that is not ASCII. -/
  | nameNotAscii (name : String)
  /-- A name is too long for its length byte. -/
  | nameTooLong (name : String)
  /-- A buffer was declared with a negative size. -/
  | negativeSize
  /-- A write would go past the declared size. -/
  | overflow (width offset declared : Nat)
  /-- A buffer was taken before it was full. -/
  | incomplete (written declared : Nat)
  /-- An integer does not have the width of its field. -/
  | integerRange (width : IntWidth) (value : Int)
  /-- A number written in single precision would become infinite. -/
  | singleRange (value : Binary64)
  /-- A number kept in single precision would become infinite. -/
  | notSingle (value : Binary64)
  /-- More definitions than a file can count. -/
  | tooManyDefinitions (count : Nat)
  /-- A parameter rate that does not exist. -/
  | unknownRate (rate : String)
  /-- A declaration after the control nodes were emitted. -/
  | sealedTable (name : String)
  /-- A second declaration of a name. -/
  | duplicateParameter (name : String)
  /-- A block-rate declaration after the first sample-rate one. -/
  | blockAfterSample (name first : String)
  /-- A name that no parameter has. -/
  | unknownParameter (name : String)
  /-- A parameter without a control node. -/
  | noControlNode (name : String)
  /-- Control nodes were to be emitted a second time. -/
  | controlsEmitted (document : String)
  /-- A negative number of outputs. -/
  | negativeOutputs (className : String)
  /-- A special index that does not have sixteen bits. -/
  | specialRange (className : String) (special : Int)
  /-- A rate code that does not exist. -/
  | invalidRate (code : Int)
  /-- A constant that is not in the pool. -/
  | noConstant (slot : Int) (size : Nat)
  /-- A node that is not in the graph. -/
  | noNode (index : Int) (size : Nat)
  /-- An output that the node does not have. -/
  | noOutput (index : Int) (className : String) (slot : Int) (count : Nat)
  /-- An input that does not come from an earlier node. -/
  | notEarlier (own : Nat) (index : Int)
  deriving DecidableEq

namespace Fault

/-- The kind of a fault. -/
def kind : Fault → FaultKind
  | nameNotAscii _ | nameTooLong _ => .nameLength
  | negativeSize | invalidRate _ => .value
  | overflow .. | incomplete .. => .sizeMismatch
  | integerRange .. | singleRange _ | notSingle _ | tooManyDefinitions _ => .format
  | sealedTable _ | blockAfterSample .. | controlsEmitted _ => .parameterOrder
  | duplicateParameter _ => .duplicateParameter
  | noControlNode _ | noConstant .. | noNode .. | noOutput .. | notEarlier .. =>
    .danglingReference
  | unknownRate _ | unknownParameter _ | negativeOutputs _ | specialRange .. => .graph

/-- Which integers a field of a width takes.  An integer of more than eight bytes is refused before
its width is looked at. -/
def integerRequirement (w : IntWidth) (v : Int) : String :=
  if v < -9223372036854775808 ∨ 9223372036854775808 ≤ v then "argument out of range"
  else
    (match w with
      | .int8 => "byte"
      | _ => "'" ++ w.letter ++ "'") ++
    s!" format requires {-w.bound} <= number <= {w.bound - 1}"

/-- The message of a fault. -/
def message : Fault → String
  | nameNotAscii name => "Name must be ASCII: " ++ quoted name
  | nameTooLong name =>
    s!"Name is {name.length} bytes, limit is 255: " ++
      quoted (String.ofList (name.toList.take 32)) ++ "..."
  | negativeSize => "expected_size must be non-negative"
  | overflow width offset declared =>
    s!"Write of {width} bytes at offset {offset} overflows declared size {declared}"
  | incomplete written declared => s!"BinaryWriter wrote {written} bytes, expected {declared}"
  | integerRange w v => s!"Cannot pack {v} as >{w.letter}: {integerRequirement w v}"
  | singleRange v => s!"Cannot pack {v.text} as >f: float too large to pack with f format"
  | notSingle v => s!"Value {v.text} does not fit in a float32"
  | tooManyDefinitions count => s!"Too many synthdefs for one file: {count}"
  | unknownRate rate => "Unknown parameter rate: " ++ quoted rate
  | sealedTable name => s!"Cannot declare {quoted name}: control nodes were already emitted"
  | duplicateParameter name => s!"Parameter {quoted name} is already declared"
  | blockAfterSample name first =>
    s!"Block-rate parameter {quoted name} declared after sample-rate parameter {quoted first}"
  | unknownParameter name => "Unknown parameter: " ++ quoted name
  | noControlNode name =>
    s!"Parameter {quoted name} has no control node yet; call add_controls() first"
  | controlsEmitted document => document ++ ": control nodes were already emitted"
  | negativeOutputs className => className ++ ": output_count must be non-negative"
  | specialRange className special =>
    s!"{className}: special index {special} does not fit int16"
  | invalidRate code => s!"{code} is not a valid Rate"
  | noConstant slot size => s!"Constant #{slot} does not exist (pool has {size})"
  | noNode index size => s!"Node #{index} does not exist (graph has {size})"
  | noOutput index className slot count =>
    s!"Node #{index} ({className}) has no output {slot} (it has {count})"
  | notEarlier own index =>
    s!"Node #{own} cannot read node #{index}: only earlier nodes may be referenced"

end Fault

end SynthGraph
