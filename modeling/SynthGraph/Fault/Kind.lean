import SynthGraph.Fault.System

/-!
# Kinds of failure

Every failure has a kind.  A kind has the name under which reports and logs show it, and some kinds
belong to the library while others are general.
-/

namespace SynthGraph

/-- What kind of failure it is. -/
inductive FaultKind where
  | base
  | format
  | nameLength
  | sizeMismatch
  | graph
  | duplicateParameter
  | danglingReference
  | parameterOrder
  | invalidSpec
  | value
  | runtime
  | key
  | system (error : SystemError)
  | schema
  deriving DecidableEq, Repr

namespace FaultKind

/-- The name of the kind in reports. -/
def name : FaultKind → String
  | base => "SynthForgeError"
  | format => "FormatError"
  | nameLength => "StringTooLongError"
  | sizeMismatch => "SizeMismatchError"
  | graph => "GraphError"
  | duplicateParameter => "DuplicateParameterError"
  | danglingReference => "DanglingReferenceError"
  | parameterOrder => "ParameterOrderError"
  | invalidSpec => "InvalidSpecError"
  | value => "ValueError"
  | runtime => "RuntimeError"
  | key => "KeyError"
  | system error => error.name
  | schema => "ValidationError"

/-- The kinds that belong to the library. -/
def isOwn : FaultKind → Bool
  | value | runtime | key | system _ | schema => false
  | _ => true

/-- The name in traces, where the library's kinds carry their module. -/
def qualifiedName (k : FaultKind) : String :=
  (if k.isOwn then "synthforge.errors." else "") ++ k.name

/-- All kinds. -/
def all : List FaultKind :=
  [base, format, nameLength, sizeMismatch, graph, duplicateParameter, danglingReference,
    parameterOrder, invalidSpec, value, runtime, key, schema] ++ SystemError.all.map system

/-- The kind of a name. -/
def ofName? (s : String) : Option FaultKind :=
  all.find? (·.name == s)

end FaultKind

end SynthGraph
