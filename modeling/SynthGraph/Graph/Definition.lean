import SynthGraph.Graph.ConstantPool
import SynthGraph.Graph.ParameterTable

/-!
# Synth definitions

A definition is one named graph: a constant pool, a parameter table, and nodes that read constants
and the outputs of earlier nodes.  It is edited by appending.  An edit that fails half way keeps
what it had appended before, so an edit is a computation with a state and a failure that does not
undo the state.
-/

namespace SynthGraph

/-- What an input reads: a slot of the constant pool, with `-1` for the node, or an output of a
node. -/
structure Reference where
  node : Int
  slot : Int
  deriving DecidableEq, Repr

namespace Reference

/-- A slot of the constant pool. -/
def constant (slot : Int) : Reference := ⟨-1, slot⟩

/-- The reference reads the constant pool. -/
def isConstant (r : Reference) : Bool := r.node == -1

end Reference

/-- A node of the graph. -/
structure Node where
  className : String
  rate : Rate
  inputs : List Reference
  outputs : List Rate
  special : Int
  deriving DecidableEq

/-- A synth definition.  The bindings say which output of which control node a parameter is. -/
structure Definition where
  name : String
  constants : ConstantPool
  parameters : ParameterTable
  nodes : Array Node
  bindings : List (String × Reference)
  deriving DecidableEq

/-- An edit of a definition: it may fail, and it may have appended to the definition all the
same. -/
abbrev Edit := ExceptT Fault (StateM Definition)

/-- The outcome of an edit and the definition after it. -/
def Edit.apply {α : Type} (e : Edit α) (d : Definition) : Except Fault α × Definition :=
  (ExceptT.run e).run d

namespace Definition

/-- The definition of a name without any content. -/
def new (name : String) : Except Fault Definition := do
  let _ ← shortName name
  return ⟨name, .empty, .empty, #[], []⟩

/-- A line that shows the name and the sizes. -/
def summary (d : Definition) : String :=
  s!"SynthDef({quoted d.name}, constants={d.constants.size}, parameters={d.parameters.size}, " ++
    s!"nodes={d.nodes.size})"

/-! ### Looking things up -/

/-- The reference to a slot of the pool, which has to exist. -/
def constantReference (d : Definition) (slot : Int) : Except Fault Reference :=
  if 0 ≤ slot ∧ slot < d.constants.size then .ok (.constant slot)
  else .error (.noConstant slot d.constants.size)

/-- The node at an index. -/
def node? (d : Definition) (index : Int) : Option Node :=
  if 0 ≤ index then d.nodes[index.toNat]? else none

/-- The reference to an output of a node, which has to exist. -/
def reference (d : Definition) (index slot : Int) : Except Fault Reference :=
  match d.node? index with
  | none => .error (.noNode index d.nodes.size)
  | some node =>
    if 0 ≤ slot ∧ slot < node.outputs.length then .ok ⟨index, slot⟩
    else .error (.noOutput index node.className slot node.outputs.length)

/-- Checks an input of the next node: a constant in the pool, or an output of an earlier node. -/
def checkInput (d : Definition) (r : Reference) : Except Fault Unit := do
  if r.isConstant then
    let _ ← d.constantReference r.slot
  else if (d.nodes.size : Int) ≤ r.node then
    throw (.notEarlier d.nodes.size r.node)
  else
    let _ ← d.reference r.node r.slot

/-- Checks inputs from left to right. -/
def checkInputs (d : Definition) : List Reference → Except Fault Unit
  | [] => .ok ()
  | r :: rs => do d.checkInput r; d.checkInputs rs

/-- The output that a parameter is bound to. -/
def binding? (d : Definition) (name : String) : Option Reference :=
  (d.bindings.find? (·.1 == name)).map Prod.snd

/-- The reference to a declared parameter that has a control node. -/
def parameterReference (d : Definition) (name : String) : Except Fault Reference := do
  let _ ← d.parameters.get name
  match d.binding? name with
  | some r => .ok r
  | none => .error (.noControlNode name)

end Definition

namespace Edit

/-- Asks the definition something that may fail. -/
def ask {α : Type} (question : Definition → Except Fault α) : Edit α := do
  match question (← get) with
  | .ok a => return a
  | .error e => throw e

/-! ### Appending -/

/-- Adds a literal to the pool. -/
def constant (v : Binary64) : Edit Reference := do
  let (slot, pool) ← ask fun d => d.constants.intern v
  modify fun d => { d with constants := pool }
  return .constant slot

/-- Declares a parameter. -/
def declare (name : String) (default : Binary64) (rate : String) : Edit Nat := do
  let (index, table) ← ask fun d => d.parameters.declare name default rate
  modify fun d => { d with parameters := table }
  return index

/-- A special index has sixteen bits. -/
def specialFits (special : Int) : Bool := IntWidth.int16.fits special

/-- Appends a node with the given number of outputs, all at its rate. -/
def node (className : String) (rate : Int) (inputs : List Reference) (outputs special : Int) :
    Edit Nat := do
  let _ ← ask fun _ => shortName className
  if outputs < 0 then throw (.negativeOutputs className)
  if !specialFits special then throw (.specialRange className special)
  ask fun d => d.checkInputs inputs
  let some rate := Rate.ofCode? rate | throw (.invalidRate rate)
  let index := (← get).nodes.size
  modify fun d =>
    { d with
      nodes := d.nodes.push ⟨className, rate, inputs, List.replicate outputs.toNat rate, special⟩ }
  return index

/-- Appends a node and refers to its first output. -/
def unit (className : String) (rate : Int) (inputs : List Reference) (special : Int) :
    Edit Reference := do
  let index ← node className rate inputs 1 special
  ask fun d => d.reference index 0

/-- Appends an arithmetic node. -/
def binary (op : BinaryOperator) (rate : Int) (left right : Reference) : Edit Reference :=
  unit "BinaryOpUGen" rate [left, right] op.special

/-! ### Control nodes -/

/-- The maximal runs of consecutive parameters of one rate. -/
def runs : List Parameter → List (ParameterRate × List Parameter)
  | [] => []
  | p :: ps =>
    match runs ps with
    | [] => [(p.rate, [p])]
    | (rate, run) :: rest =>
      if rate = p.rate then (rate, p :: run) :: rest else (p.rate, [p]) :: (rate, run) :: rest

/-- The bindings of a run of parameters to the outputs of one node. -/
def runBindings (index : Nat) (run : List Parameter) : List (String × Reference) :=
  run.zipIdx.map fun (p, slot) => (p.name, ⟨index, slot⟩)

/-- Appends the control node of a run.  Its special index is the index of the run's first
parameter. -/
def controlNode (rate : ParameterRate) (run : List Parameter) : Edit Nat := do
  let first := (run.head?.map Parameter.index).getD 0
  let index ← node rate.nodeClass rate.nodeRate.code [] run.length first
  modify fun d => { d with bindings := d.bindings ++ runBindings index run }
  return index

/-- Appends the control nodes of runs. -/
def controlNodes : List (ParameterRate × List Parameter) → Edit (List Nat)
  | [] => return []
  | (rate, run) :: rest => do
    let index ← controlNode rate run
    let indices ← controlNodes rest
    return index :: indices

/-- Seals the parameter table and appends one control node per run of its parameters. -/
def controls : Edit (List Nat) := do
  let d ← get
  if d.parameters.isSealed then throw (.controlsEmitted d.name)
  set { d with parameters := d.parameters.close }
  controlNodes (runs d.parameters.toList)

end Edit

end SynthGraph
