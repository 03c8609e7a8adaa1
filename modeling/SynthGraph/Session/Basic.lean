import SynthGraph.Failure
import SynthGraph.Session.Environment
import SynthGraph.Session.Log

/-!
# Sessions

A session is what a run starts from and what it leaves: the environment, the time, the files, the
records, and the log handlers.  A step of a run may fail, and what it did to the session before
stays.
-/

namespace SynthGraph

/-- The time, once for the lines of records and once for the entries of failures. -/
structure Clock where
  line : String
  entry : String

/-- Where records go. -/
inductive Handler where
  /-- To the console, from a level on. -/
  | console (level : Level)
  /-- To the file at a location. -/
  | file (loc : Location)
  deriving DecidableEq, Repr

/-- The state of a run. -/
structure Session where
  environment : Environment
  clock : Clock
  files : FileSystem
  records : Array Record := #[]
  handlers : List Handler := []
  /-- Logging was set up. -/
  configured : Bool := false
  /-- The process around the run handles records itself, so that it needs no console. -/
  observed : Bool := false

/-- A step of a run. -/
abbrev Run := ExceptT Failure (StateM Session)

/-- The outcome of a step and the session after it. -/
def Run.apply {α : Type} (r : Run α) (s : Session) : Except Failure α × Session :=
  (ExceptT.run r).run s

namespace Session

/-- A session without records or handlers. -/
def start (environment : Environment) (clock : Clock) (files : FileSystem) : Session :=
  { environment, clock, files }

/-- Adds text to the log files of the handlers. -/
def appendToLogs (s : Session) (text : String) : Session :=
  s.handlers.foldl (fun s handler =>
    match handler with
    | .console _ => s
    | .file loc => { s with files := s.files.append loc text.toUTF8.toList }) s

/-- Writes a record. -/
def log (s : Session) (r : Record) : Session :=
  { s.appendToLogs (r.line s.clock.line) with records := s.records.push r }

end Session

namespace Run

/-- Writes a record. -/
def log (level : Level) (source : Source) (message : String) : Run Unit :=
  modify fun s => s.log ⟨level, source, message⟩

/-- The result of something that may have a fault. -/
def ofFault {α : Type} : Except Fault α → Run α
  | .ok a => return a
  | .error e => throw (.fault e)

/-- The result of something that the file system may refuse. -/
def ofFileFault {α : Type} : Except FileFault α → Run α
  | .ok a => return a
  | .error e => throw (.file e)

end Run

end SynthGraph
