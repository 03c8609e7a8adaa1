import SynthGraph.Generator.Spec
import SynthGraph.Graph.Definition

/-!
# From a generator spec to a definition

Every generator has the same shape.  Its parameters are declared and exposed by control nodes; each
parameter contributes its value, with its modulation added and then clamped; the unit generator
reads the contributions of the core parameters and is scaled by that of the amplitude; and the
signal is panned, clipped on its way to the hardware bus, and written out.
-/

namespace SynthGraph

/-- The references to the literals `0`, `1` and `-1`. -/
structure UnitConstants where
  zero : Reference
  one : Reference
  minusOne : Reference
  deriving DecidableEq, Repr

namespace Template

/-- A node at audio rate with the given inputs. -/
def audioNode (className : String) (inputs : List Reference) (outputs : Int) : Edit Nat :=
  Edit.node className Rate.audio.code inputs outputs 0

/-- The output of a node. -/
def output (index : Nat) (slot : Int) : Edit Reference :=
  Edit.ask fun d => d.reference index slot

/-- The output that a parameter is bound to. -/
def parameter (name : String) : Edit Reference :=
  Edit.ask fun d => d.parameterReference name

/-! ### What a parameter contributes -/

/-- A signal within limits. -/
def clamped (signal : Reference) (clamp : Clamp) (rate : Rate) : Edit Reference :=
  match clamp with
  | .range low high => do
    let low ← Edit.constant low
    let high ← Edit.constant high
    Edit.unit "Clip" rate.code [signal, low, high] 0
  | .floor low => do
    let low ← Edit.constant low
    Edit.binary .max rate.code signal low

/-- The value of a parameter, with its modulation when it has one, and the rate of the sum. -/
def modulated (p : ParamSpec) : Edit (Reference × Rate) := do
  let base ← parameter p.name
  match p.modName with
  | none => return (base, .control)
  | some modName =>
    let modulation ← parameter modName
    let sum ← Edit.binary .add Rate.audio.code base modulation
    return (sum, .audio)

/-- What a parameter contributes: its value, modulated and then clamped. -/
def contribution (p : ParamSpec) : Edit Reference := do
  let (signal, rate) ← modulated p
  match p.effectiveClamp with
  | none => return signal
  | some clamp => clamped signal clamp rate

/-- The contributions of the core parameters in their order, and that of the amplitude. -/
def contributions : List ParamSpec → Edit (List Reference × Option Reference)
  | [] => return ([], none)
  | p :: ps => do
    let signal ← contribution p
    let (core, amp) ← contributions ps
    return match p.role with
      | .core => (signal :: core, amp)
      | .amp => (core, some (amp.getD signal))

/-! ### The output stage -/

/-- Pans a signal and writes it to the output bus; the hardware bus, `0`, gets it clipped.  Returns
the index of the last node. -/
def outputStage (signal : Reference) (c : UnitConstants) : Edit Nat := do
  let pan ← parameter panName
  let outBus ← parameter outBusName
  let panned ← audioNode "Pan2" [signal, pan, c.one] 2
  let left ← output panned 0
  let right ← output panned 1
  let clippedLeft ← audioNode "Clip" [left, c.minusOne, c.one] 1
  let clippedRight ← audioNode "Clip" [right, c.minusOne, c.one] 1
  let toHardware ← Edit.binary .lte Rate.control.code outBus c.zero
  let selectLeft ← audioNode "Select" [toHardware, left, ← output clippedLeft 0] 1
  let selectRight ← audioNode "Select" [toHardware, right, ← output clippedRight 0] 1
  audioNode "Out" [outBus, ← output selectLeft 0, ← output selectRight 0] 0

/-! ### The stages of a generator -/

/-- Declares parameters with a default and a rate. -/
def declareAll (rate : ParameterRate) : List (String × Binary64) → Edit Unit
  | [] => return ()
  | (name, default) :: rest => do
    let _ ← Edit.declare name default rate.name
    declareAll rate rest

/-- The block-rate parameters of a generator with their defaults. -/
def blockDeclarations (g : GeneratorSpec) : List (String × Binary64) :=
  g.params.map (fun p => (p.name, p.default)) ++
    [(panName, .zero false), (outBusName, .zero false)]

/-- The modulation inputs of a generator. -/
def modDeclarations (g : GeneratorSpec) : List (String × Binary64) :=
  (g.params.filterMap ParamSpec.modName).map fun name => (name, .zero false)

/-- Interns the three literals that every generator needs and declares its parameters. -/
def declarations (g : GeneratorSpec) : Edit UnitConstants := do
  let zero ← Edit.constant (.ofInt 0)
  let one ← Edit.constant (.ofInt 1)
  let minusOne ← Edit.constant (.ofInt (-1))
  declareAll .control (blockDeclarations g)
  declareAll .audio (modDeclarations g)
  return ⟨zero, one, minusOne⟩

/-- Wires the contributions, the unit generator, the amplitude and the output stage. -/
def wiring (g : GeneratorSpec) (c : UnitConstants) : Edit Nat := do
  let (core, amp) ← contributions g.params
  let source ← Edit.unit g.ugen Rate.audio.code core 0
  let signal ← match amp with
    | none => pure source
    | some amp => Edit.binary .mul Rate.audio.code source amp
  outputStage signal c

/-- The whole graph of a generator. -/
def graph (g : GeneratorSpec) : Edit Nat := do
  let c ← declarations g
  let _ ← Edit.controls
  wiring g c

end Template

/-- The definition of a generator. -/
def GeneratorSpec.build (g : GeneratorSpec) : Except Fault Definition := do
  let d ← Definition.new g.name
  match (Template.graph g).apply d with
  | (.ok _, d) => return d
  | (.error e, _) => throw e

end SynthGraph
