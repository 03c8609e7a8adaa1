/-!
# Log records

The records that a run leaves, each with its level, the part of the program that it comes from, and
its message; and the line of a record in a log file.
-/

namespace SynthGraph

/-- How serious a record is. -/
inductive Level where
  | debug
  | info
  | warning
  | error
  | critical
  deriving DecidableEq, Repr

namespace Level

/-- The name of a level. -/
def name : Level → String
  | debug => "DEBUG"
  | info => "INFO"
  | warning => "WARNING"
  | error => "ERROR"
  | critical => "CRITICAL"

/-- The number of a level. -/
def number : Level → Nat
  | debug => 10
  | info => 20
  | warning => 30
  | error => 40
  | critical => 50

/-- The level of a name. -/
def ofName? (s : String) : Option Level :=
  [debug, info, warning, error, critical].find? (·.name == s)

end Level

/-- The parts of the program that write records. -/
inductive Source where
  | settings
  | collection
  | graph
  | template
  | definitionFile
  | output
  | commandLine
  | logFile
  | other (name : String)
  deriving DecidableEq, Repr

/-- The name of a source in records. -/
def Source.name : Source → String
  | settings => "synthforge.config"
  | collection => "synthforge.catalog"
  | graph => "synthforge.graph"
  | template => "synthforge.patterns"
  | definitionFile => "synthforge.encoder"
  | output => "synthforge.build"
  | commandLine => "synthforge.cli"
  | logFile => "synthforge.logging"
  | other name => "synthforge." ++ name

/-- A log record. -/
structure Record where
  level : Level
  source : Source
  message : String
  deriving DecidableEq, Repr

/-- The line of a record on the console, which shows the level by its first letter. -/
def Record.consoleLine (r : Record) : String :=
  s!"{String.ofList (r.level.name.toList.take 1)} {r.source.name}: {r.message}\n"

/-- The line of a record in a log file, after the time. -/
def Record.line (time : String) (r : Record) : String :=
  s!"{time} [{r.level.name}] {r.source.name}: {r.message}\n"

end SynthGraph
