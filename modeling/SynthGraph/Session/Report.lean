import SynthGraph.Session.Basic
import SynthGraph.Text.Layout

/-!
# Reports of failures

A failure is reported to people on one line, or in a panel when it goes to a terminal, and the log
file gets an entry for it.  With debugging on, a report ends with the trace line of the failure.
-/

namespace SynthGraph

/-- What a report says of a failure: its kind and its message. -/
structure Incident where
  kind : FaultKind
  message : String
  deriving DecidableEq, Repr

/-- The report of a failed run. -/
def Failure.incident (f : Failure) : Incident := ⟨f.kind, f.message⟩

namespace Incident

/-- The text of the message.  A missing key is shown between quotes. -/
def text (i : Incident) : String :=
  if i.kind = .key then quoted i.message else i.message

/-- A name, and a text after it when there is one. -/
def labelled (label text : String) : String :=
  if text = "" then label else label ++ ": " ++ text

/-- The trace line. -/
def traceLine (i : Incident) : String := labelled i.kind.qualifiedName i.text

/-- The sentence that says what failed. -/
def sentence (i : Incident) (context : String) : String :=
  s!"{context} failed: {i.kind.name}: {i.text}"

/-! ### Reports -/

/-- The report on one line, with the path of the log file. -/
def plain (i : Incident) (env : Environment) (logs : Path) (context : String) : String :=
  s!"{i.sentence context} (logs: {logs})\n" ++ (if env.debug then i.traceLine ++ "\n" else "")

/-- A line of some number of equal characters. -/
def rule (c : Char) (n : Nat) : String := String.ofList (List.replicate n c)

/-- The upper edge of a panel with a title in its middle.  A title that is too long is cut, and a
panel of four cells or less has none. -/
def panelTop (width : Nat) (title : String) : String :=
  if width ≤ 4 then "╭" ++ rule '─' (width - 2) ++ "╮"
  else
    let shown := cropCells (width - 4) (" " ++ title ++ " ").toList
    let free := width - 4 - textWidth shown
    "╭─" ++ rule '─' (free / 2) ++ String.ofList shown ++ rule '─' (free - free / 2) ++ "─╮"

/-- A line inside a panel. -/
def panelLine (line : List Char) : String := "│ " ++ String.ofList line ++ " │"

/-- The lower edge of a panel. -/
def panelBottom (width : Nat) : String := "╰" ++ rule '─' (width - 2) ++ "╯"

/-- The end of the context in the panel.  The colon after it has a cell of its own, even when the
context ends with a joiner. -/
def withColon (width : Nat) (line : List Char) : List Char :=
  let cells := textWidth line
  if cells < width then line ++ ':' :: blankCells (width - cells - 1) else fitCells width line

/-- The first lines in a panel, whose text has a width. -/
def headingLines (width : Nat) (context : String) : List (List Char) :=
  let lines := foldedLines width s!"synthforge error while {context}:"
  lines.dropLast.map (fitCells width) ++ [withColon width (lines.getLast?.getD []).dropLast]

/-- The other lines in a panel, whose text has a width. -/
def detailLines (i : Incident) (width : Nat) (logs : Path) : List (List Char) :=
  let details := s!"\n{i.kind.name}: {i.text}\nLogs: {logs}\n\n" ++
    "Set SYNTHFORGE_DEBUG=1 for console trace."
  (foldedLines width details).map (fitCells width)

/-- The report for a terminal.  The panel has an edge and a blank on each side of its text. -/
def panel (i : Incident) (env : Environment) (logs : Path) (context : String) : String :=
  let width := env.panelWidth
  let lines := [panelTop width "Error"] ++
    (headingLines (width - 4) context ++ i.detailLines (width - 4) logs).map panelLine ++
    [panelBottom width] ++
    (if env.debug then [folded width (labelled i.kind.name i.text)] else [])
  String.join (lines.map (· ++ "\n"))

/-- The report, in a panel on a terminal. -/
def render (i : Incident) (env : Environment) (logs : Path) (context : String) (terminal : Bool) :
    String :=
  if terminal then i.panel env logs context else i.plain env logs context

/-- The entry in the log file. -/
def logEntry (i : Incident) (time context : String) : String :=
  s!"[{time}] {i.sentence context}\n{i.traceLine}\n\n"

end Incident

end SynthGraph
