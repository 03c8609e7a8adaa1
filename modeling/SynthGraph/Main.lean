import Std.Time.Format
import SynthGraph.CommandLine.Execution
import SynthGraph.CommandLine.Usage

/-!
# The program

A run is a function of the session that it starts from.  This file makes that session out of the
environment, the clock and the disk, and carries what the run leaves back to them.  The disk is
loaded as far as the run looks at it: the ways to the paths that it is given, and then whatever it
would make and is there already.  What is protected is not known before the disk refuses it.
-/

namespace SynthGraph

namespace Disk

/-- The text of a location. -/
def textOf (loc : Location) : String := "/" ++ "/".intercalate loc

/-- What is at a location.  What is there and cannot be read counts as a directory. -/
def entry? (loc : Location) : IO (Option FileEntry) := do
  match ← (IO.FS.readBinFile (textOf loc)).toBaseIO with
  | .ok content => return some (.file content.toList)
  | .error _ =>
    match ← (IO.FS.realPath (textOf loc)).toBaseIO with
    | .ok _ => return some .directory
    | .error _ => return none

/-- The locations that a walk visits. -/
def visited (loc : Location) : List String → List Location
  | [] => []
  | part :: parts =>
    let next := if part = ".." then loc.dropLast else loc ++ [part]
    next :: visited next parts

/-- Loads locations that are not known yet. -/
def load (fs : FileSystem) (locs : List Location) : IO FileSystem :=
  locs.foldlM (fun fs loc => do
    if (fs.entry? loc).isSome then return fs
    match ← entry? loc with
    | some entry => return fs.put loc entry
    | none => return fs) fs

/-- Loads the way to a path. -/
def loadWay (fs : FileSystem) (p : Path) : IO FileSystem :=
  load fs (visited (fs.startOf p.start) p.parts)

/-- Makes what is there after a run and was not there before it. -/
def store (before after : FileSystem) : IO Unit :=
  after.entries.forM fun (loc, entry) => do
    if before.entry? loc = some entry then return
    match entry with
    | .directory => IO.FS.createDir (textOf loc)
    | .file content => IO.FS.writeBinFile (textOf loc) ⟨content.toArray⟩

end Disk

namespace CommandLine

/-- The users of the system with their home directories, which are the sixth fields of lines. -/
def readHomes : IO (List (String × String)) := do
  match ← (IO.FS.readFile "/etc/passwd").toBaseIO with
  | .error _ => return []
  | .ok text =>
    return (text.splitOn "\n").filterMap fun line =>
      match line.splitOn ":" with
      | user :: _ :: _ :: _ :: _ :: home :: _ => some (user, home)
      | _ => none

/-- The environment of the program.  Without a terminal that tells its width a line has eighty
cells. -/
def readEnvironment : IO Environment := do
  let names := [Environment.outDirVariable, Environment.logDirVariable, Environment.debugVariable,
    Environment.homeVariable]
  let bindings ← names.filterMapM fun name => return (← IO.getEnv name).map (name, ·)
  let homes ← readHomes
  let user ← IO.getEnv "LOGNAME"
  let width := ((← IO.getEnv "COLUMNS").bind String.toNat?).getD 80
  let ownHome := user.bind fun name => homes.lookup name
  return ⟨bindings, ownHome, homes, width, width⟩

/-- The time now. -/
def readClock : IO Clock := do
  let now ← Std.Time.PlainDateTime.now
  return ⟨now.format "uuuu-MM-dd HH:mm:ss", now.format "uuuu-MM-dd'T'HH:mm:ss.SSSSSS"⟩

/-- The paths that arguments may name, with or without an option before them. -/
def pathsIn (args : List String) : List Path :=
  args.flatMap fun arg =>
    [Path.ofString arg] ++
      ((splitEquals arg.toList).2.map fun cs => Path.ofString (String.ofList cs)).toList

/-- The session that a run starts from. -/
def readSession (args : List String) : IO Session := do
  let environment ← readEnvironment
  let here := (Path.ofString (← IO.currentDir).toString).parts
  let logs := environment.logDir?.map LogFile.pathIn
  let paths := environment.outDir?.toList ++ logs.toList ++ pathsIn args
  let files ← paths.foldlM Disk.loadWay (FileSystem.withHere here)
  return Session.start environment (← readClock) files

/-- Runs the program; when it would make something that the disk has already, runs it again with
that loaded.  A run is tried a few times at most. -/
def settle (args : List String) (terminal : Bool) : (attempts : Nat) → Session →
    IO (Outcome × Session × Session)
  | 0, s => return ((run args terminal s).1, s, (run args terminal s).2)
  | attempts + 1, s => do
    let (outcome, after) := run args terminal s
    let files ← Disk.load s.files (after.files.entries.map Prod.fst)
    if files.entries.length = s.files.entries.length then return (outcome, s, after)
    settle args terminal attempts { s with files := files }

/-- Prints the records that go to the console. -/
def printRecords (s : Session) : IO Unit :=
  s.handlers.forM fun handler =>
    match handler with
    | .console level =>
      s.records.forM fun r => do
        if level.number ≤ r.level.number then IO.eprint r.consoleLine
    | .file _ => return

/-- Prints what the program says. -/
def printOutcome : Outcome → IO Unit
  | .usage 0 => IO.print usage
  | .usage _ => IO.eprint usage
  | .done output => IO.print output
  | .failed _ text => IO.eprint text
  | .raised failure => IO.eprintln failure.incident.traceLine

/-- Runs the program on the disk and returns its exit code. -/
def runOnDisk (args : List String) : IO Nat := do
  let terminal ← (← IO.getStderr).isTty
  let (outcome, before, after) ← settle args terminal 8 (← readSession args)
  Disk.store before.files after.files
  printRecords after
  printOutcome outcome
  return outcome.exit

end CommandLine

end SynthGraph

/-- Runs the program. -/
def main (args : List String) : IO UInt32 :=
  return UInt32.ofNat (← SynthGraph.CommandLine.runOnDisk args)
