import SynthGraph.CommandLine.Option

/-!
# Invocations

A command line either asks for help, is no legal command line, or invokes a command with options and
names.  The names of a command stand together; options may stand before and after them, and of an
option that is repeated the last value counts.  Two dashes stand for nothing, whether they stand
among the names or after the equals sign of an option.
-/

namespace SynthGraph

namespace CommandLine

/-- A command of the program. -/
inductive Command where
  /-- Build and write definitions. -/
  | generate
  /-- Show generators. -/
  | list
  deriving DecidableEq, Repr

/-- The name of a command. -/
def Command.name : Command → String
  | generate => "generate"
  | list => "list"

/-- The options of a command besides help. -/
def Command.valueOptions : Command → List String
  | generate => ["out-dir", "spec", "bundle"]
  | list => ["spec"]

/-- All options of a command. -/
def Command.options (c : Command) : List OptionName :=
  .help :: c.valueOptions.map .named

/-- A command with the names it is for and the values of its options.  An option may be given
without a value. -/
structure Invocation where
  command : Command
  names : List String
  values : List (String × Option String)
  deriving DecidableEq, Repr

/-- What a command line says. -/
inductive Request where
  | help
  | misuse
  | invoke (invocation : Invocation)
  deriving DecidableEq, Repr

/-- The value of an option: the last one that was given. -/
def Invocation.value? (i : Invocation) (option : String) : Option (Option String) :=
  (i.values.reverse.find? (·.1 == option)).map Prod.snd

/-- What was read of the arguments of a command: its names, once they have stood, the values of its
options, and whether something stood there that is none of these. -/
structure Reading where
  names : Option (List String)
  values : List (String × Option String)
  stray : Bool

/-- An argument that belongs to a run of names. -/
def Argument.isName : Argument → Bool
  | .value _ | .dashes => true
  | _ => false

/-- The names in a run; two dashes among them do not count. -/
def namesOf (run : List Argument) : List String :=
  run.filterMap fun a =>
    match a with
    | .value text => some text
    | _ => none

/-- A run of names, of which a command has only one. -/
def Reading.takeNames (r : Reading) (run : List Argument) : Reading :=
  match r.names with
  | none => { r with names := some (namesOf run) }
  | some _ => { r with stray := true }

/-- The value of an option.  Two dashes are no value, here as among names. -/
def Reading.takeValue (r : Reading) (option value : String) : Reading :=
  { r with values := r.values ++ [(option, if value = "--" then none else some value)] }

/-- Reads arguments from left to right: a run of names at a time, or an option with its value.  Each
step is paid for by an argument. -/
def readArguments : (fuel : Nat) → List Argument → Reading → Except Request Reading
  | 0, _, r => .ok r
  | _, [], r => .ok r
  | fuel + 1, a :: rest, r =>
    match a with
    | .value _ | .dashes =>
      readArguments fuel (rest.dropWhile Argument.isName)
        (r.takeNames (a :: rest.takeWhile Argument.isName))
    | .option .help none => .error .help
    | .option .help (some _) | .spoiledHelp => .error .misuse
    | .option (.named option) (some value) => readArguments fuel rest (r.takeValue option value)
    | .option (.named option) none =>
      match rest with
      | .value value :: rest => readArguments fuel rest (r.takeValue option value)
      | _ => .error .misuse
    | .unknown => readArguments fuel rest { r with stray := true }
    | .ambiguous => .error .misuse

/-- Reads the arguments of a command. -/
def readCommand (stray : Bool) (c : Command) (args : List String) : Request :=
  let arguments := classifyAll c.options args
  if arguments.contains .ambiguous then .misuse
  else
    match readArguments arguments.length arguments ⟨none, [], stray⟩ with
    | .error request => request
    | .ok r => if r.stray then .misuse else .invoke ⟨c, r.names.getD [], r.values⟩

/-- The command of a name. -/
def Command.ofName? (s : String) : Option Command :=
  [generate, list].find? (·.name == s)

/-- Reads a command line: options of the program, then a command with its own arguments. -/
def readFrom (stray : Bool) : List String → Request
  | [] => .misuse
  | arg :: args =>
    match classify [.help] arg with
    | .value name =>
      match Command.ofName? name with
      | some c => readCommand stray c args
      | none => .misuse
    | .option .help none => .help
    | .unknown => readFrom true args
    | _ => .misuse

/-- What a command line says. -/
def Request.ofArguments (args : List String) : Request := readFrom false args

end CommandLine

end SynthGraph
