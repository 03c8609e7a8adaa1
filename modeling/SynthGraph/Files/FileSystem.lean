import SynthGraph.Fault.System
import SynthGraph.Files.Path

/-!
# File systems

A file system maps locations, which are lists of names from the root, to regular files and
directories.  There are no links, names have at most 255 bytes and paths at most 4095, and two dots
lead to the directory above.  Making a directory with its parents may fail half way and then keeps
the parents.  Everything can be read and searched, but some locations are protected: a file there
cannot be opened to be written, and in a directory there nothing can be made or taken away.
-/

namespace SynthGraph

/-- The names on the way from the root. -/
abbrev Location := List String

/-- What is at a location. -/
inductive FileEntry where
  | file (content : List UInt8)
  | directory
  deriving DecidableEq

/-- A file system, the working directory, from which relative paths start, and the locations that
are protected. -/
structure FileSystem where
  here : Location
  entries : List (Location × FileEntry)
  locked : List Location
  deriving DecidableEq

/-- Why the file system refused something. -/
inductive FileFault where
  /-- The system refused a path. -/
  | system (error : SystemError) (path : Path)
  /-- The path holds a character that no path may hold. -/
  | nullCharacter
  deriving DecidableEq, Repr

namespace FileSystem

/-- What is at a location.  The root is a directory. -/
def entry? (fs : FileSystem) (loc : Location) : Option FileEntry :=
  if loc = [] then some .directory else (fs.entries.find? (·.1 == loc)).map Prod.snd

/-- Puts an entry at a location, in the place of what was there. -/
def put (fs : FileSystem) (loc : Location) (entry : FileEntry) : FileSystem :=
  if fs.entries.any (·.1 == loc) then
    { fs with
      entries := fs.entries.map fun old => if old.1 == loc then (loc, entry) else old }
  else { fs with entries := fs.entries ++ [(loc, entry)] }

/-- All directories on the way to a location, and the location itself as a directory. -/
def withDirectories (fs : FileSystem) (loc : Location) : FileSystem :=
  (List.range loc.length).foldl (fun fs n => fs.put (loc.take (n + 1)) .directory) fs

/-- Takes away what is at a location, and its protection. -/
def erase (fs : FileSystem) (loc : Location) : FileSystem :=
  { fs with
    entries := fs.entries.filter (·.1 != loc)
    locked := fs.locked.filter (· != loc) }

/-- A file system that holds nothing but an empty working directory. -/
def withHere (here : Location) : FileSystem :=
  withDirectories ⟨here, [], []⟩ here

/-- The regular files with their contents. -/
def files (fs : FileSystem) : List (Location × List UInt8) :=
  fs.entries.filterMap fun (loc, entry) =>
    match entry with
    | .file content => some (loc, content)
    | .directory => none

/-! ### Protection -/

/-- A location is protected. -/
def isLocked (fs : FileSystem) (loc : Location) : Bool := fs.locked.contains loc

/-- The directory of a location is protected, so that nothing can be made or taken away there. -/
def isFixed (fs : FileSystem) (loc : Location) : Bool := fs.isLocked loc.dropLast

/-- A file at a location can be opened to be written, or can be made when it is not there. -/
def isWritable (fs : FileSystem) (loc : Location) : Bool :=
  !fs.isLocked loc && ((fs.entry? loc).isSome || !fs.isFixed loc)

/-! ### Finding locations -/

/-- How many bytes a name may have. -/
def nameLimit : Nat := 255

/-- How many bytes the text of a path may have. -/
def pathLimit : Nat := 4095

/-- One step from a location, which has to be a directory. -/
def step (fs : FileSystem) (loc : Location) (part : String) : Except SystemError Location :=
  match fs.entry? loc with
  | none => .error .missing
  | some (.file _) => .error .notDirectory
  | some .directory =>
    if part = ".." then .ok loc.dropLast
    else if nameLimit < part.utf8ByteSize then .error .nameTooLong
    else .ok (loc ++ [part])

/-- The location to which components lead; nothing needs to be there. -/
def walk (fs : FileSystem) (loc : Location) : List String → Except SystemError Location
  | [] => .ok loc
  | part :: parts =>
    match fs.step loc part with
    | .ok next => fs.walk next parts
    | .error e => .error e

/-- Where a path starts. -/
def startOf (fs : FileSystem) : PathStart → Location
  | .here => fs.here
  | _ => []

/-- The location to which a path leads. -/
def locate (fs : FileSystem) (p : Path) : Except SystemError Location :=
  if pathLimit < p.toString.utf8ByteSize then .error .nameTooLong
  else fs.walk (fs.startOf p.start) p.parts

/-! ### Directories -/

/-- Makes one directory, unless it is there.  Something else may be there, the directory above may
be missing, or nothing may be made there. -/
def makeDirectory (fs : FileSystem) (p : Path) : Except SystemError FileSystem :=
  match fs.locate p with
  | .error e => .error e
  | .ok loc =>
    match fs.entry? loc with
    | some .directory => .ok fs
    | some (.file _) => .error .present
    | none => if fs.isFixed loc then .error .denied else .ok (fs.put loc .directory)

/-- Makes a directory after those above it, which are the reversed components `above`, when one of
them is missing. -/
def makeWithParents (fs : FileSystem) (start : PathStart) :
    (above : List String) → Except FileFault Unit × FileSystem
  | [] => (.ok (), fs)
  | part :: above =>
    let p : Path := ⟨start, (part :: above).reverse⟩
    match fs.makeDirectory p with
    | .ok fs => (.ok (), fs)
    | .error e =>
      if e = .missing then
        match fs.makeWithParents start above with
        | (.error f, fs) => (.error f, fs)
        | (.ok (), fs) =>
          match fs.makeDirectory p with
          | .ok fs => (.ok (), fs)
          | .error e => (.error (.system e p), fs)
      else (.error (.system e p), fs)

/-- Makes a directory with its parents. -/
def makeDirectories (fs : FileSystem) (p : Path) : Except FileFault Unit × FileSystem :=
  if p.hasNull then (.error .nullCharacter, fs) else fs.makeWithParents p.start p.parts.reverse

/-! ### Files -/

/-- The location of a file that can be written. -/
def openFile (fs : FileSystem) (p : Path) : Except FileFault Location :=
  if p.hasNull then .error .nullCharacter
  else
    match fs.locate p with
    | .error e => .error (.system e p)
    | .ok loc =>
      if fs.entry? loc = some .directory then .error (.system .isDirectory p)
      else if fs.isWritable loc then .ok loc
      else .error (.system .denied p)

/-- The content of a file. -/
def read (fs : FileSystem) (p : Path) : Except FileFault (List UInt8) :=
  if p.hasNull then .error .nullCharacter
  else
    match fs.locate p with
    | .error e => .error (.system e p)
    | .ok loc =>
      match fs.entry? loc with
      | none => .error (.system .missing p)
      | some .directory => .error (.system .isDirectory p)
      | some (.file content) => .ok content

/-- Writes a file, in the place of what it held. -/
def write (fs : FileSystem) (p : Path) (content : List UInt8) : Except FileFault FileSystem :=
  (fs.openFile p).map fun loc => fs.put loc (.file content)

/-- Takes away a file, also a protected one, unless nothing is there.  Nothing is there when a
directory on the way is missing. -/
def remove (fs : FileSystem) (p : Path) : Except FileFault FileSystem :=
  if p.hasNull then .error .nullCharacter
  else
    match fs.locate p with
    | .error e => if e = .missing then .ok fs else .error (.system e p)
    | .ok loc =>
      match fs.entry? loc with
      | none => .ok fs
      | some entry =>
        if fs.isFixed loc then .error (.system .denied p)
        else if entry = .directory then .error (.system .isDirectory p)
        else .ok (fs.erase loc)

/-- Writes a file after making its directory.  When the file cannot be opened, what is there is
taken away, and a failure of that comes in the place of the first one. -/
def store (fs : FileSystem) (p : Path) (content : List UInt8) :
    Except FileFault Unit × FileSystem :=
  match fs.makeDirectories p.parent with
  | (.error e, fs) => (.error e, fs)
  | (.ok (), fs) =>
    match fs.write p content with
    | .ok fs => (.ok (), fs)
    | .error e =>
      match fs.remove p with
      | .ok fs => (.error e, fs)
      | .error e => (.error e, fs)

/-- Adds to the end of the file at a location, which is made when it is not there. -/
def append (fs : FileSystem) (loc : Location) (content : List UInt8) : FileSystem :=
  match fs.entry? loc with
  | some (.file old) => fs.put loc (.file (old ++ content))
  | _ => fs.put loc (.file content)

end FileSystem

end SynthGraph
