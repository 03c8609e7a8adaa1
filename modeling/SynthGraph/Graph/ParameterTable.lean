import SynthGraph.Binary.ShortName
import SynthGraph.Graph.Rate

/-!
# Parameter tables

The named inputs of a definition in the order of their declaration.  Block-rate parameters come
before sample-rate ones, names are distinct, and nothing is declared once the table is sealed.
-/

namespace SynthGraph

/-- A declared parameter. -/
structure Parameter where
  name : String
  default : Binary32
  rate : ParameterRate
  index : Nat
  deriving DecidableEq

/-- The parameters declared so far, and whether more may follow. -/
structure ParameterTable where
  entries : Array Parameter
  isSealed : Bool
  deriving DecidableEq

namespace ParameterTable

/-- The open table without parameters. -/
def empty : ParameterTable := ⟨#[], false⟩

/-- The number of parameters. -/
def size (t : ParameterTable) : Nat := t.entries.size

/-- The parameters in the order of their declaration. -/
def toList (t : ParameterTable) : List Parameter := t.entries.toList

/-- The table closed for good. -/
def close (t : ParameterTable) : ParameterTable := { t with isSealed := true }

/-- The parameters that change once per block. -/
def blockRate (t : ParameterTable) : List Parameter := t.toList.filter (·.rate.isBlock)

/-- The parameters that change with every sample. -/
def sampleRate (t : ParameterTable) : List Parameter := t.toList.filter (!·.rate.isBlock)

/-- The parameter of a name. -/
def find? (t : ParameterTable) (name : String) : Option Parameter :=
  t.entries.find? (·.name == name)

/-- A parameter has this name. -/
def contains (t : ParameterTable) (name : String) : Bool := (t.find? name).isSome

/-- The parameter of a name, which has to be declared. -/
def get (t : ParameterTable) (name : String) : Except Fault Parameter :=
  match t.find? name with
  | some p => .ok p
  | none => .error (.unknownParameter name)

/-- The first sample-rate parameter, when a block-rate one comes too late after it. -/
def tooLate? (t : ParameterTable) (rate : ParameterRate) : Option Parameter :=
  if rate.isBlock then t.sampleRate.head? else none

/-- Declares a parameter at the end of the table and returns its index. -/
def declare (t : ParameterTable) (name : String) (default : Binary64) (rate : String) :
    Except Fault (Nat × ParameterTable) := do
  let _ ← shortName name
  let some rate := ParameterRate.ofName? rate | throw (.unknownRate rate)
  if t.isSealed then throw (.sealedTable name)
  if t.contains name then throw (.duplicateParameter name)
  if let some first := t.tooLate? rate then throw (.blockAfterSample name first.name)
  let some narrowed := default.narrow? | throw (.notSingle default)
  return (t.size, { t with entries := t.entries.push ⟨name, narrowed, rate, t.size⟩ })

end ParameterTable

end SynthGraph
