import SynthGraph.Number.Decimal

/-!
# Generator specs

A generator spec says which unit generator a definition is built around and which parameters it has.
The order of the parameters is part of what a running synth relies on: the declared ones, then the
position and the output bus, then the modulation inputs.
-/

namespace SynthGraph

/-- How the value of a parameter is limited. -/
inductive Clamp where
  /-- Between two bounds. -/
  | range (low high : Binary64)
  /-- From a bound upwards. -/
  | floor (low : Binary64)
  deriving DecidableEq

/-- What a parameter is for: an input of the unit generator, or the amplitude. -/
inductive Role where
  | core
  | amp
  deriving DecidableEq, Repr

/-- The name of a role. -/
def Role.name : Role → String
  | core => "core"
  | amp => "amp"

/-- A parameter of a generator. -/
structure ParamSpec where
  name : String
  default : Binary64
  role : Role
  modName : Option String
  clamp : Option Clamp
  deriving DecidableEq

namespace ParamSpec

/-- The parameter has a modulation input. -/
def modulated (p : ParamSpec) : Bool := p.modName.isSome

/-- The limits of the value that a parameter contributes: its own, or zero from below for an
amplitude that is modulated and has no limits of its own. -/
def effectiveClamp (p : ParamSpec) : Option Clamp :=
  match p.clamp with
  | some clamp => some clamp
  | none => if p.role = .amp ∧ p.modulated then some (.floor (.zero false)) else none

end ParamSpec

/-- A generator. -/
structure GeneratorSpec where
  name : String
  ugen : String
  params : List ParamSpec
  deriving DecidableEq

/-- The parameter for the stereo position. -/
def panName : String := "pan"

/-- The parameter for the output bus. -/
def outBusName : String := "out_bus"

namespace GeneratorSpec

/-- The parameters with the role of the amplitude. -/
def amplitudes (g : GeneratorSpec) : List ParamSpec :=
  g.params.filter (·.role == .amp)

/-- The amplitude. -/
def amplitude? (g : GeneratorSpec) : Option ParamSpec := g.amplitudes.head?

/-- The names of the parameters of the built definition, at their absolute indices. -/
def parameterNames (g : GeneratorSpec) : List String :=
  g.params.map ParamSpec.name ++ [panName, outBusName] ++ g.params.filterMap ParamSpec.modName

end GeneratorSpec

end SynthGraph
