import SynthGraph.Session.Report

/-!
# The log file

The set-up of logging, which attaches a handler for the console and, when the log file can be
opened, one for the file; and the entries that failures get in the log file.  Both put up with what
the system refuses, and with nothing else: they fail when the home directory of the log file is not
known.
-/

namespace SynthGraph

namespace LogFile

/-- The path of the log file in its directory. -/
def pathIn (dir : Path) : Path := dir.child "synthforge.log"

/-- The directory of the log file. -/
def directory : Run Path := do
  match (← get).environment.logDir? with
  | some dir => return dir
  | none => throw .unknownHome

/-- The path of the log file. -/
def path : Run Path := return pathIn (← directory)

/-- Opens the log file under a path that is made of its own.  Its directory is made when it is
missing. -/
def openLog (place : Path → Path) : Run Location := do
  let dir ← directory
  let (made, files) := (← get).files.makeDirectories dir
  modify fun s => { s with files := files }
  Run.ofFileFault made
  let loc ← Run.ofFileFault ((← get).files.openFile (place (pathIn dir)))
  modify fun s => { s with files := s.files.append loc [] }
  return loc

/-- Runs a step.  When the system refuses something the step has no result, and the refusal is
recorded. -/
def toleratingSystem {α : Type} (what : String) (step : Run α) : Run (Option α) := fun s =>
  match step s with
  | (.ok a, s) => (.ok (some a), s)
  | (.error f, s) =>
    if f.isSystem then (.ok none, s.log ⟨.warning, .logFile, what ++ ": " ++ f.message⟩)
    else (.error f, s)

/-- The console takes warnings, or everything with debugging on. -/
def consoleHandler (env : Environment) : Handler :=
  .console (if env.debug then .debug else .warning)

/-- Sets logging up, unless it was set up before, or anew when it is forced.  The handler of the
file knows it by its path from the root. -/
def configure (force : Bool) : Run Unit := do
  let s ← get
  if s.configured && !force then return
  let kept := if force then [] else s.handlers
  let console := if force || !s.observed then [consoleHandler s.environment] else []
  modify fun s => { s with handlers := kept ++ console }
  let opened ← toleratingSystem "Failed to configure file logging" <|
    openLog fun path => path.absolute s.files.here
  modify fun s =>
    { s with handlers := s.handlers ++ (opened.map Handler.file).toList, configured := true }

/-- Writes the entry of a failure and returns the path of the log file, unless the system refuses
it. -/
def record (context : String) (i : Incident) : Run (Option Path) :=
  toleratingSystem "Failed to write log file" do
    let loc ← openLog id
    modify fun s =>
      let entry := i.logEntry s.clock.entry context
      { s with files := s.files.append loc entry.toUTF8.toList }
    path

end LogFile

end SynthGraph
