import SynthGraph.CommandLine.Invocation

/-!
# The description of the arguments

What the program prints when it is asked for help or when it cannot read its arguments: what it is
for, and each command with its arguments and what they are for.
-/

namespace SynthGraph

namespace CommandLine

/-- What the program is for. -/
def description : String := "Generate SuperCollider .scsyndef files without sclang."

/-- What a command does. -/
def Command.purpose : Command → String
  | generate => "Build and write synthdef files."
  | list => "Show generators and their parameter order."

/-- What the names of a command are for. -/
def Command.namesPurpose : Command → String
  | generate => "Generators to build (default: all)."
  | list => ""

/-- What an option of a command is for. -/
def Command.optionPurpose : Command → String → String
  | generate, "spec" => "JSON list of generator specs."
  | generate, "bundle" => "Write one multi-def file."
  | _, _ => ""

/-- An option with the name of its value. -/
def optionUsage (option : String) : String :=
  let value := option.toList.map fun c => if c = '-' then '_' else c.toUpper
  "--" ++ option ++ " " ++ String.ofList value

/-- The lines of a command: its arguments, its purpose, and those of its arguments that have one. -/
def Command.usageLines (c : Command) : List String :=
  let options := c.valueOptions.map fun option => "[" ++ optionUsage option ++ "] "
  let arguments := ("names", c.namesPurpose) ::
    c.valueOptions.map fun option => (optionUsage option, c.optionPurpose option)
  [s!"synthforge {c.name} [--help] {String.join options}[names ...]", "  " ++ c.purpose] ++
    (arguments.filter (·.2 != "")).map fun (argument, purpose) => s!"    {argument}: {purpose}"

/-- The description of the arguments. -/
def usage : String :=
  String.join <| ([description] ++ [Command.generate, .list].flatMap Command.usageLines).map
    (· ++ "\n")

end CommandLine

end SynthGraph
