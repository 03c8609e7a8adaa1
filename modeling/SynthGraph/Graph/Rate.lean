/-!
# Rates and operators

The rates at which nodes are evaluated, the rates at which parameters are declared, and the
arithmetic operators of the graph.
-/

namespace SynthGraph

/-- The rate at which a node and its outputs are evaluated. -/
inductive Rate where
  | scalar
  | control
  | audio
  deriving DecidableEq, Repr

namespace Rate

/-- The code of a rate in a file. -/
def code : Rate → Int
  | scalar => 0
  | control => 1
  | audio => 2

/-- The rate of a code. -/
def ofCode? (n : Int) : Option Rate :=
  if n = 0 then some scalar else if n = 1 then some control else if n = 2 then some audio else none

@[simp]
theorem ofCode?_code (r : Rate) : ofCode? r.code = some r := by
  cases r <;> rfl

end Rate

/-- The rate at which a parameter is declared. -/
inductive ParameterRate where
  | control
  | trigger
  | audio
  deriving DecidableEq, Repr

namespace ParameterRate

/-- The name of a parameter rate. -/
def name : ParameterRate → String
  | control => "control"
  | trigger => "trigger"
  | audio => "audio"

/-- The parameter rate of a name. -/
def ofName? (s : String) : Option ParameterRate :=
  if s = "control" then some control
  else if s = "trigger" then some trigger
  else if s = "audio" then some audio
  else none

@[simp]
theorem ofName?_name (r : ParameterRate) : ofName? r.name = some r := by
  cases r <;> simp [ofName?, name]

/-- Control and trigger parameters change once per block, audio parameters with every sample. -/
def isBlock : ParameterRate → Bool
  | audio => false
  | _ => true

/-- The class of the node that exposes parameters of this rate. -/
def nodeClass : ParameterRate → String
  | control => "Control"
  | trigger => "TrigControl"
  | audio => "AudioControl"

/-- The rate of that node. -/
def nodeRate : ParameterRate → Rate
  | audio => .audio
  | _ => .control

end ParameterRate

/-- The arithmetic operators. -/
inductive BinaryOperator where
  | add
  | sub
  | mul
  | lte
  | max
  deriving DecidableEq, Repr

/-- The special index that selects an operator. -/
def BinaryOperator.special : BinaryOperator → Int
  | add => 0
  | sub => 1
  | mul => 2
  | lte => 10
  | max => 13

end SynthGraph
