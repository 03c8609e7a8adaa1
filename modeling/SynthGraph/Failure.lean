import SynthGraph.Fault
import SynthGraph.Files.FileSystem
import SynthGraph.Schema.Issue

/-!
# Failures of a run

What can stop a run: a fault of a definition, a request for a generator that does not exist, data
that do not fit their schema, the file system, or a home directory that is not known.
-/

namespace SynthGraph

/-- Why a run stopped. -/
inductive Failure where
  | fault (cause : Fault)
  /-- A single generator was asked for by a name that none has. -/
  | unknownGenerator (name : String)
  /-- Some requested names belong to no generator. -/
  | unknownGenerators (names : List String)
  /-- Two generators of a file have one name. -/
  | definedTwice (source : Path) (name : String)
  | invalid (issues : List Issue)
  | file (cause : FileFault)
  /-- A path starts in a home directory that is not known. -/
  | unknownHome
  deriving DecidableEq

namespace Failure

/-- The kind of a failure. -/
def kind : Failure → FaultKind
  | fault cause => cause.kind
  | unknownGenerator _ | unknownGenerators _ | definedTwice .. => .invalidSpec
  | invalid _ => .schema
  | file (.system error _) => .system error
  | file .nullCharacter => .value
  | unknownHome => .runtime

/-- A place in the data, its steps between dots. -/
def placeText (place : List PathStep) : String :=
  ".".intercalate <| place.map fun step =>
    match step with
    | .key name => name
    | .index n => toString n

/-- One line for an issue. -/
def issueText (issue : Issue) : String :=
  placeText issue.place ++ ": " ++ issue.problem.message?.getD issue.problem.code

/-- The message of a failure.  A refusal of the operating system has its number and words, and the
path that was refused. -/
def message : Failure → String
  | fault cause => cause.message
  | unknownGenerator name => "Unknown generator: " ++ quoted name
  | unknownGenerators names => "Unknown generator(s): " ++ ", ".intercalate names
  | definedTwice source name => s!"{source}: generator {quoted name} is defined twice"
  | invalid issues => "\n".intercalate (issues.map issueText)
  | file (.system error path) =>
    s!"[Errno {error.number}] {error.words}: {quoted path.toString}"
  | file .nullCharacter => "embedded null byte"
  | unknownHome => "Could not determine home directory."

/-- The operating system refused something. -/
def isSystem : Failure → Bool
  | file (.system ..) => true
  | _ => false

end Failure

end SynthGraph
