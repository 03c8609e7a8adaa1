import SynthGraph.Generator.Spec
import SynthGraph.Schema.Checked

/-!
# The schema of generator specs

What JSON data have to look like to be a generator spec.  A clamp is an object that says of which
kind it is; inside a parameter it may also be a list of one or two bounds, and no bound is a whole
number beyond the finite ones.
-/

namespace SynthGraph

namespace Checked

/-! ### Clamps -/

/-- The key that says of which kind a clamp is. -/
def kindKey : String := "kind"

/-- The name of the kind with two bounds. -/
def rangeKind : String := "range"

/-- The name of the kind with a lower bound. -/
def floorKind : String := "floor"

/-- The kind of a clamp, which may be left out where it is known. -/
def kind (members : List (String × Json)) (name : String) : Checked Unit :=
  optional members kindKey () (oneOf [(name, ())])

/-- A clamp with two bounds in order. -/
def range (bound : Json → Checked Binary64) (members : List (String × Json)) : Checked Clamp :=
  ((fun _ low high _ => (low, high)) <$> kind members rangeKind
    <*> required members "low" bound
    <*> required members "high" bound
    <*> onlyKeys [kindKey, "low", "high"] members).andThen fun (low, high) =>
  if low.exceeds high then fail (.boundsInverted low high) else valid (.range low high)

/-- A clamp with a lower bound. -/
def floor (bound : Json → Checked Binary64) (members : List (String × Json)) : Checked Clamp :=
  (fun _ low _ => .floor low) <$> kind members floorKind
    <*> required members "low" bound
    <*> onlyKeys [kindKey, "low"] members

/-- A clamp of the kind that it names. -/
def clampOfKind (bound : Json → Checked Binary64) (members : List (String × Json)) :
    Checked Clamp :=
  match members.lookup kindKey with
  | none => fail (.tagMissing kindKey)
  | some value =>
    match value with
    | .str "range" => (range bound members).within (.key rangeKind)
    | .str "floor" => (floor bound members).within (.key floorKind)
    | _ => fail (.tagUnknown kindKey value.shown [rangeKind, floorKind])

/-- A clamp that stands for itself. -/
def clamp : Json → Checked Clamp := object .notChoice (clampOfKind number)

/-- A list of bounds written out: one bound is a floor, two are a range. -/
def expandBounds : Json → Checked Json
  | .arr [low, high] => valid (.obj [(kindKey, .str rangeKind), ("low", low), ("high", high)])
  | .arr [low] => valid (.obj [(kindKey, .str floorKind), ("low", low)])
  | .arr [] => fail .noBounds
  | value => valid value

/-- A bound in a parameter: a number, unless it is written as a whole number beyond all finite
ones. -/
def boundField : Json → Checked Binary64
  | .int n => if (FloatDatum.ofInt n : Binary64).isFinite then valid (.ofInt n) else fail .notNumber
  | value => number value

/-- The clamp of a parameter. -/
def clampField (value : Json) : Checked (Option Clamp) :=
  (expandBounds value).andThen (nullable (object .notChoiceField (clampOfKind boundField)))

/-! ### Parameters and generators -/

/-- The role of a parameter. -/
def role : Json → Checked Role :=
  oneOf [(Role.core.name, .core), (Role.amp.name, .amp)]

/-- A parameter. -/
def param : Json → Checked ParamSpec :=
  object .notRecord fun members =>
    (fun name default role modName clamp _ => ⟨name, default, role, modName, clamp⟩)
      <$> required members "name" label
      <*> required members "default" number
      <*> optional members "role" .core role
      <*> optional members "mod_name" none (nullable label)
      <*> optional members "clamp" none clampField
      <*> onlyKeys ["name", "default", "role", "mod_name", "clamp"] members

/-- A generator with at most one amplitude. -/
def generator : Json → Checked GeneratorSpec :=
  object .notRecord fun members =>
    ((fun name ugen params _ => ⟨name, ugen, params⟩ : _ → _ → _ → _ → GeneratorSpec)
      <$> required members "name" label
      <*> required members "ugen" label
      <*> optional members "params" [] (array .notTuple param)
      <*> onlyKeys ["name", "ugen", "params"] members).andThen fun g =>
    if 1 < g.amplitudes.length then fail (.severalAmplitudes (g.amplitudes.map ParamSpec.name))
    else valid g

/-- A list of generators. -/
def generators : Json → Checked (List GeneratorSpec) := array .notArray generator

end Checked

end SynthGraph
