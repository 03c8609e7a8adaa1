import SynthGraph.Text.Pieces

/-!
# Paths

A path is where it starts and the components to walk.  Repeated slashes and components that are a
single dot vanish when a path is read; two dots stay, since only the file system knows where they
lead.  A path that starts with exactly two slashes keeps them.
-/

namespace SynthGraph

/-- Where a path starts. -/
inductive PathStart where
  | here
  | root
  | doubleRoot
  deriving DecidableEq, Repr

/-- The text of a start. -/
def PathStart.text : PathStart → String
  | here => ""
  | root => "/"
  | doubleRoot => "//"

/-- A start and the components after it. -/
structure Path where
  start : PathStart
  parts : List String
  deriving DecidableEq, Repr

namespace Path

/-- The start of a text. -/
def startOf : List Char → PathStart
  | '/' :: '/' :: '/' :: _ => .root
  | '/' :: '/' :: _ => .doubleRoot
  | '/' :: _ => .root
  | _ => .here

/-- A component that says where to go. -/
def isStep (part : String) : Bool := part != "" && part != "."

/-- The path of a text. -/
def ofString (s : String) : Path :=
  ⟨startOf s.toList, ((pieces (· == '/') s.toList).map String.ofList).filter isStep⟩

/-- The text of a path; that of the empty path is a dot. -/
def toString (p : Path) : String :=
  let text := p.start.text ++ "/".intercalate p.parts
  if text = "" then "." else text

instance : ToString Path := ⟨toString⟩

/-- The second path seen from the first, unless it has a start of its own. -/
def join (p q : Path) : Path :=
  match q.start with
  | .here => { p with parts := p.parts ++ q.parts }
  | _ => q

/-- A name below a path; the name may hold slashes. -/
def child (p : Path) (name : String) : Path := p.join (ofString name)

/-- The path without its last component. -/
def parent (p : Path) : Path := { p with parts := p.parts.dropLast }

/-- The last component. -/
def name (p : Path) : String := p.parts.getLast?.getD ""

/-- A path of a user's text, in which a first component that starts with `~` stands for the home
directory of the user whose name follows, if that is known.  Without a name it is the one who runs
the program. -/
def expandHome? (p : Path) (home? : (user : String) → Option Path) : Option Path :=
  match p.start, p.parts with
  | .here, part :: parts =>
    match part.toList with
    | '~' :: user =>
      (home? (String.ofList user)).map fun home => { home with parts := home.parts ++ parts }
    | _ => some p
  | _, _ => some p

/-- The components without the steps up, each of which takes back the one before it. -/
def resolved (above : List String) : List String → List String
  | [] => above
  | part :: parts => resolved (if part = ".." then above.dropLast else above ++ [part]) parts

/-- The path from the root that a path names in a directory, without steps up. -/
def absolute (p : Path) (here : List String) : Path :=
  match p.start with
  | .here => ⟨.root, resolved here p.parts⟩
  | start => ⟨start, resolved [] p.parts⟩

/-- A component holds the character that no file name may hold. -/
def hasNull (p : Path) : Bool := p.parts.any fun part => part.toList.contains '\x00'

end Path

end SynthGraph
