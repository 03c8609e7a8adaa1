import SynthGraph.Text.Pieces
import SynthGraph.Text.Width

/-!
# Text on a screen

What is left of a text when it is shown on a screen: characters that would move the cursor are
dropped, and a tabulator moves on to the next stop, of which there is one every eight cells.
-/

namespace SynthGraph

/-- The characters that a screen does not show: bell, backspace, vertical tabulator, form feed and
carriage return. -/
def cursorControls : List Char := ['\x07', '\x08', '\x0b', '\x0c', '\r']

/-- The text without the characters that would move the cursor. -/
def dropControls (cs : List Char) : List Char := cs.filter (!cursorControls.contains ·)

/-- The distance between two stops. -/
def tabDistance : Nat := 8

/-- The blanks from a position to the next stop; none at a stop. -/
def blanksToStop (position : Nat) : List Char :=
  blankCells ((tabDistance - position % tabDistance) % tabDistance)

/-- Pieces of a line with tabulators between them, the first of which starts at a position.  A
tabulator is at least one blank. -/
def joinAtStops (position : Nat) : List (List Char) → List Char
  | [] => []
  | [piece] => piece
  | piece :: rest =>
    let shown := piece ++ [' ']
    let shown := shown ++ blanksToStop (position + textWidth shown)
    shown ++ joinAtStops (position + textWidth shown) rest

/-- A line with blanks in the place of tabulators. -/
def expandTabs (line : List Char) : List Char := joinAtStops 0 (pieces (· == '\t') line)

/-- The lines of a text as a screen shows them. -/
def screenLines (s : String) : List (List Char) :=
  (pieces (· == '\n') (dropControls s.toList)).map expandTabs

end SynthGraph
