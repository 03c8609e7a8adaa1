import SynthGraph.Generator.Spec
import SynthGraph.Proofs.Graph.Signal

/-!
# The signals of a generator

What the definition of a generator is meant to compute, as trees that are read off the spec alone:
the value of each parameter, the unit generator with its amplitude, and the output stage.  Nothing
here speaks of nodes, slots or the order in which a graph is built.
-/

namespace SynthGraph

/-- The limits of a clamp, the lower one first. -/
def Clamp.bounds : Clamp → List Binary64
  | .range low high => [low, high]
  | .floor low => [low]

/-- The literals that a parameter adds to the pool. -/
def ParamSpec.literals (p : ParamSpec) : List Binary64 :=
  (p.effectiveClamp.map Clamp.bounds).getD []

/-- The rate of what a parameter contributes: with a modulation it changes with every sample. -/
def ParamSpec.signalRate (p : ParamSpec) : Rate := if p.modulated then .audio else .control

/-- A whole number as a signal. -/
def Signal.number (n : Int) : Signal := .constant (.ofInt n)

/-- An arithmetic operation on two signals. -/
def Signal.binary (op : BinaryOperator) (rate : Rate) (left right : Signal) : Signal :=
  .output "BinaryOpUGen" rate op.special 0 [left, right]

namespace GeneratorSpec

variable (g : GeneratorSpec)

/-- The literals of a generator in the order in which they are interned. -/
def literals : List Binary64 :=
  [.ofInt 0, .ofInt 1, .ofInt (-1)] ++ g.params.flatMap ParamSpec.literals

/-- A literal as the pool stores it, which is as the first literal that shares its slot. -/
def literal (v : Binary64) : Signal := .constant (firstStored g.literals v)

/-- The parameter of a name, at its place among the parameters of the built definition. -/
def parameter (name : String) : Signal := .parameter (g.parameterNames.idxOf name)

/-- A signal within the limits of a clamp. -/
def limited (rate : Rate) (signal : Signal) : Option Clamp → Signal
  | none => signal
  | some (.range low high) => .output "Clip" rate 0 0 [signal, g.literal low, g.literal high]
  | some (.floor low) => .binary .max rate signal (g.literal low)

/-- The value of a parameter with its modulation. -/
def modulated (p : ParamSpec) : Signal :=
  match p.modName with
  | none => g.parameter p.name
  | some modName => .binary .add .audio (g.parameter p.name) (g.parameter modName)

/-- What a parameter contributes: its value, modulated and within the limits of its clamp. -/
def value (p : ParamSpec) : Signal :=
  g.limited p.signalRate (g.modulated p) p.effectiveClamp

/-- The unit generator, which reads the values of the core parameters in their order. -/
def source : Signal :=
  .output g.ugen .audio 0 0 ((g.params.filter (·.role == .core)).map g.value)

/-- The unit generator, scaled by the value of the amplitude when there is one. -/
def scaled : Signal :=
  match g.amplitudes.getLast? with
  | none => g.source
  | some amplitude => .binary .mul .audio g.source (g.value amplitude)

/-- A channel of the panned signal: `0` is the left one, `1` the right one. -/
def panned (channel : Int) : Signal :=
  .output "Pan2" .audio 0 channel [g.scaled, g.parameter panName, .number 1]

/-- A channel within minus one and one. -/
def clipped (channel : Int) : Signal :=
  .output "Clip" .audio 0 0 [g.panned channel, .number (-1), .number 1]

/-- Whether the output bus is the one of the hardware. -/
def toHardware : Signal := .binary .lte .control (g.parameter outBusName) (.number 0)

/-- A channel as it is written out: clipped when it goes to the hardware. -/
def selected (channel : Int) : Signal :=
  .output "Select" .audio 0 0 [g.toHardware, g.panned channel, g.clipped channel]

/-- What is written out: the bus and the two channels. -/
def written : List Signal := [g.parameter outBusName, g.selected 0, g.selected 1]

end GeneratorSpec

end SynthGraph
