import SynthGraph.Generator.Spec

/-!
# Collections of generators

The generators that come with the library, and the choice of generators by name from a collection.
-/

namespace SynthGraph

namespace Collection

/-- The decimal number `digits · 10 ^ exponent` in double precision. -/
def decimal (digits : Nat) (exponent : Int) : Binary64 :=
  Decimal.toDatum .binary64 ⟨false, digits, exponent⟩

/-- A modulated core parameter. -/
def modulated (name : String) (default : Binary64) (clamp : Option Clamp) : ParamSpec :=
  ⟨name, default, .core, some (name ++ "_mod"), clamp⟩

/-- The frequency of an oscillator. -/
def freq : ParamSpec := modulated "freq" (.ofInt 440) none

/-- The frequency of a slow random signal, which stays above zero. -/
def slowFreq : ParamSpec := modulated "freq" (.ofInt 4) (some (.floor (decimal 1 (-2))))

/-- The amplitude. -/
def amp : ParamSpec := ⟨"amp", decimal 5 (-1), .amp, some "amp_mod", none⟩

/-- Limits that are whole numbers. -/
def between (low high : Int) : Option Clamp := some (.range (.ofInt low) (.ofInt high))

/-- The generators that come with the library: basic waveforms, harmonic oscillators, noise, and
slow random signals for modulation. -/
def builtIn : List GeneratorSpec :=
  [⟨"saw_osc", "Saw", [freq, amp]⟩,
    ⟨"pulse_osc", "Pulse", [freq, amp, modulated "width" (decimal 5 (-1)) (between 0 1)]⟩,
    ⟨"tri_osc", "LFTri", [freq, amp]⟩,
    ⟨"blip_osc", "Blip", [freq, amp, modulated "numharm" (.ofInt 20) (between 1 200)]⟩,
    ⟨"formant_osc", "Formant",
      [freq, amp, modulated "formfreq" (.ofInt 1760) none, modulated "bwfreq" (.ofInt 880) none]⟩,
    ⟨"dust", "Dust", [modulated "density" (.ofInt 1) (some (.floor (.ofInt 0))), amp]⟩,
    ⟨"crackle", "Crackle", [modulated "chaos" (decimal 15 (-1)) (between 1 2), amp]⟩,
    ⟨"white_noise", "WhiteNoise", [amp]⟩,
    ⟨"pink_noise", "PinkNoise", [amp]⟩,
    ⟨"lfnoise0", "LFNoise0", [slowFreq, amp]⟩,
    ⟨"lfnoise1", "LFNoise1", [slowFreq, amp]⟩,
    ⟨"lfnoise2", "LFNoise2", [slowFreq, amp]⟩]

/-- The generator of a name. -/
def find? (available : List GeneratorSpec) (name : String) : Option GeneratorSpec :=
  available.find? (·.name == name)

/-- The requested names that no generator has, as often as they were requested. -/
def missing (available : List GeneratorSpec) (names : List String) : List String :=
  names.filter fun name => (find? available name).isNone

/-- The generators of the requested names in the order of the request, or all of them when no name
was requested.  Names that no generator has are returned instead when there are any. -/
def select (available : List GeneratorSpec) (names : List String) :
    Except (List String) (List GeneratorSpec) :=
  if names.isEmpty then .ok available
  else if (missing available names).isEmpty then .ok (names.filterMap (find? available))
  else .error (missing available names)

/-- The first name that stands a second time. -/
def repeated? (seen : List String) : List GeneratorSpec → Option String
  | [] => none
  | g :: gs => if seen.contains g.name then some g.name else repeated? (g.name :: seen) gs

end Collection

end SynthGraph
