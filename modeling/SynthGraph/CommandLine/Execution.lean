import SynthGraph.CommandLine.Invocation
import SynthGraph.CommandLine.Table
import SynthGraph.Output
import SynthGraph.Session.LogFile
import SynthGraph.Settings

/-!
# Running the program

The program sets logging up when that is still to do, reads its arguments, and runs the command.  A
run that succeeds prints what it did and returns zero; one that fails prints nothing, reports the
failure, and returns one.  What fails outside of the command, when logging is set up or the failure
is reported, is not caught.
-/

namespace SynthGraph

namespace CommandLine

/-- What the program prints and how it ends.  A request for help and a misuse print a description of
the arguments, which is not part of this value. -/
inductive Outcome where
  | usage (exit : Nat)
  | done (output : String)
  | failed (failure : Failure) (report : String)
  /-- A failure that the program does not catch. -/
  | raised (failure : Failure)

/-- The number that the program returns. -/
def Outcome.returned? : Outcome → Option Nat
  | usage _ => none
  | done _ => some 0
  | failed .. => some 1
  | raised _ => none

/-- The exit code.  A failure that is not caught ends the program with one. -/
def Outcome.exit : Outcome → Nat
  | usage exit => exit
  | done _ => 0
  | failed .. => 1
  | raised _ => 1

/-- The settings that an invocation gives, as the members of an object.  An option that was given
without a value gives the empty list, which no setting takes. -/
def Invocation.members (i : Invocation) : List (String × Json) :=
  [("generators", .arr (i.names.map .str))] ++
    [("spec", "spec_file"), ("out-dir", "out_dir"), ("bundle", "bundle_name")].filterMap
      fun (option, key) => (i.value? option).map fun value =>
        (key, (value.map Json.str).getD (.arr []))

/-- A text as the program prints it: with emoji for their codes, and in lines of some cells. -/
def printed (width : Nat) (s : String) : String := folded width (withEmoji s)

/-- The size of the file at a path. -/
def fileSize (path : Path) : Run Nat := do
  let content ← Run.ofFileFault ((← get).files.read path)
  return content.length

/-- One line per file that was written. -/
def writtenLines (width : Nat) : List Path → Run (List String)
  | [] => return []
  | path :: paths => do
    let size ← fileSize path
    let lines ← writtenLines width paths
    return printed width s!"  {path.name} ... ok ({size} bytes)" :: lines

/-- Runs a command and returns the lines that it prints. -/
def perform (i : Invocation) : Run (List String) := do
  let width := (← get).environment.outputWidth
  let settings ← Run.settings i.members
  match i.command with
  | .generate =>
    let paths ← Output.writeAll (← settings.resolve) settings.outDir settings.bundleName
    let lines ← writtenLines width paths
    return lines ++ [printed width s!"Wrote {paths.length} file(s) to {settings.outDir}"]
  | .list => return Table.ofGenerators width (← settings.resolve)

/-- The name under which the program reports failures. -/
def context : String := "synthforge CLI"

/-- Reports a failure in the log and in the log file, and returns the report to the user, who may
sit at a terminal. -/
def report (f : Failure) (terminal : Bool) : Run String := do
  Run.log .warning .commandLine (context ++ " failed: " ++ f.message)
  let _ ← LogFile.record context f.incident
  let logs ← LogFile.path
  return f.incident.render (← get).environment logs context terminal

/-- Runs the program on its arguments. -/
def run (args : List String) (terminal : Bool) (s : Session) : Outcome × Session :=
  match (LogFile.configure false).apply s with
  | (.error f, s) => (.raised f, s)
  | (.ok (), s) =>
    match Request.ofArguments args with
    | .help => (.usage 0, s)
    | .misuse => (.usage 2, s)
    | .invoke i =>
      match (perform i).apply s with
      | (.ok lines, s) => (.done (String.join (lines.map (· ++ "\n"))), s)
      | (.error f, s) =>
        match (report f terminal).apply s with
        | (.ok text, s) => (.failed f text, s)
        | (.error f, s) => (.raised f, s)

end CommandLine

end SynthGraph
