import SynthGraph.Files.Path

/-!
# The environment of a run

What a run looks at besides files: the variables, the home directories that the system knows, and
the widths of the screens that it prints to; and the paths that follow from them.  A variable that
is set to the empty text counts as not set, except for that of the home directory.
-/

namespace SynthGraph

/-- The environment of a run. -/
structure Environment where
  /-- The values of variables. -/
  bindings : List (String × String) := []
  /-- The home directory of the one who runs the program, as the system has it. -/
  ownHome : Option String := none
  /-- The home directories of users by their names, as the system has them. -/
  homes : List (String × String) := []
  /-- The cells in a line of the output. -/
  outputWidth : Nat := 80
  /-- The cells in a line of the terminal that reports go to. -/
  panelWidth : Nat := 80

namespace Environment

/-- The variable for the output directory. -/
def outDirVariable : String := "SYNTHFORGE_OUT_DIR"

/-- The variable for the log directory. -/
def logDirVariable : String := "SYNTHFORGE_LOG_DIR"

/-- The variable that turns debugging on. -/
def debugVariable : String := "SYNTHFORGE_DEBUG"

/-- The variable for the home directory. -/
def homeVariable : String := "HOME"

/-- The value of a variable that is set to some text. -/
def get? (env : Environment) (name : String) : Option String :=
  (env.bindings.lookup name).filter (· != "")

/-- A text without the slashes at its end, of which the text of the root keeps one. -/
def trimSlashes (text : String) : String :=
  match text.toList.reverse.dropWhile (· == '/') with
  | [] => "/"
  | cs => String.ofList cs.reverse

/-- The text of the home directory of a user, who without a name is the one who runs the program.
For that one the variable counts, and without it what the system has. -/
def homeText? (env : Environment) (user : String) : Option String :=
  if user = "" then (env.bindings.lookup homeVariable).or env.ownHome else env.homes.lookup user

/-- The home directory of a user, which is not known when its text leads to a home directory
again. -/
def home? (env : Environment) (user : String) : Option Path :=
  ((env.homeText? user).map trimSlashes).bind fun text =>
    if text.toList.head? = some '~' then none else some (Path.ofString text)

/-- Where definitions go when nothing else is said, unless that is in a home directory that is not
known. -/
def outDir? (env : Environment) : Option Path :=
  match env.get? outDirVariable with
  | some text => (Path.ofString text).expandHome? env.home?
  | none => some (Path.ofString "synthdefs")

/-- Where the log file is, unless that is in a home directory that is not known. -/
def logDir? (env : Environment) : Option Path :=
  let text := (env.get? logDirVariable).getD "~/.cache/synthforge/logs"
  (Path.ofString text).expandHome? env.home?

/-- Debugging is on. -/
def debug (env : Environment) : Bool := (env.get? debugVariable).isSome

end Environment

end SynthGraph
