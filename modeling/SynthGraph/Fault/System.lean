/-!
# Errors of the operating system

The errors with which the operating system refuses a request for a file or a directory.  Each has a
number and some words, and a name that it may share with others.
-/

namespace SynthGraph

/-- Why the operating system refused a request. -/
inductive SystemError where
  | missing
  | denied
  | present
  | notDirectory
  | isDirectory
  | nameTooLong
  deriving DecidableEq, Repr

namespace SystemError

/-- The number of an error. -/
def number : SystemError → Nat
  | missing => 2
  | denied => 13
  | present => 17
  | notDirectory => 20
  | isDirectory => 21
  | nameTooLong => 36

/-- The words of an error. -/
def words : SystemError → String
  | missing => "No such file or directory"
  | denied => "Permission denied"
  | present => "File exists"
  | notDirectory => "Not a directory"
  | isDirectory => "Is a directory"
  | nameTooLong => "File name too long"

/-- The name of an error in reports.  One without a name of its own has the name of all. -/
def name : SystemError → String
  | missing => "FileNotFoundError"
  | denied => "PermissionError"
  | present => "FileExistsError"
  | notDirectory => "NotADirectoryError"
  | isDirectory => "IsADirectoryError"
  | nameTooLong => "OSError"

/-- All errors. -/
def all : List SystemError := [missing, denied, present, notDirectory, isDirectory, nameTooLong]

end SystemError

end SynthGraph
