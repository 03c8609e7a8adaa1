import SynthGraph.Generator.Spec
import SynthGraph.Number.Rounding
import SynthGraph.Text.Emoji
import SynthGraph.Text.Layout

/-!
# The table of generators

A table drawn with box characters: a title over its middle, heavy lines around the headings, light
lines around the rows, and columns that are one blank wider on each side than their widest cell.
Where that is too wide, the widest columns give way.  A row has as many lines as its highest cell.
-/

namespace SynthGraph

namespace Table

/-! ### The widths of columns -/

/-- The widths of columns with one more row. -/
def widened (widths : List Nat) (cells : List String) : List Nat :=
  (widths.zip cells).map fun (width, cell) => max width (columnWidth cell)

/-- The width that each column would like to have. -/
def desiredWidths (headings : List String) (rows : List (List String)) : List Nat :=
  rows.foldl widened (headings.map columnWidth)

/-- The sum of widths. -/
def total (widths : List Nat) : Nat := widths.foldl (· + ·) 0

/-- The largest of widths. -/
def widest (widths : List Nat) : Nat := widths.foldl max 0

/-- Takes an excess from the columns of one width, of which `count` are left, each of which gives an
even share up to a limit. -/
def takeFrom (width limit : Nat) : (excess count : Nat) → List Nat → List Nat
  | _, _, [] => []
  | excess, count, w :: ws =>
    if w = width then
      let share := min limit (roundDiv excess count)
      (w - share) :: takeFrom width limit (excess - share) (count - 1) ws
    else w :: takeFrom width limit excess count ws

/-- Lets the widest columns give way until no more than some cells are used.  A step takes the
widest columns down to the next, so that there are no more steps than columns. -/
def shrink (cells : Nat) : (steps : Nat) → List Nat → List Nat
  | 0, widths => widths
  | steps + 1, widths =>
    if total widths ≤ cells then widths
    else
      let excess := total widths - cells
      let first := widest widths
      let second := widest (widths.filter (· != first))
      shrink cells steps
        (takeFrom first (min excess (first - second)) excess (widths.count first) widths)

/-- The width of each column in a table of at most some cells, which has an edge before each column
and one at the end, and a blank on each side of a cell. -/
def columnWidths (cells : Nat) (headings : List String) (rows : List (List String)) : List Nat :=
  let free := cells - (headings.length + 1)
  let padded := (desiredWidths headings rows).map fun width => min free (width + 2)
  (shrink free (headings.length + 1) padded).map (· - 2)

/-! ### Drawing -/

/-- The lines of one kind in a box: its left edge, its fill, the divider of columns, its right
edge. -/
structure Rule where
  left : Char
  fill : Char
  divider : Char
  right : Char

/-- Cells between edges, each between two blanks, or with its width of fill around it. -/
def bordered (left divider right : Char) (cells : List String) : String :=
  left.toString ++ divider.toString.intercalate cells ++ right.toString

/-- A line without text. -/
def line (r : Rule) (widths : List Nat) : String :=
  bordered r.left r.divider r.right
    (widths.map fun width => String.ofList (List.replicate (width + 2) r.fill))

/-- The lines of a cell.  A joiner at the end of a line takes the first blank along, for which the
line is filled up once more. -/
def cellLines (width : Nat) (cell : String) : List (List Char) :=
  (columnLines width cell).map (fitCells width)

/-- The number of lines of the highest of some cells, which stand behind their widths. -/
def height (columns : List (Nat × List (List Char))) : Nat :=
  columns.foldl (fun height column => max height column.2.length) 0

/-- A row of cells, each in the lines that it takes in its column. -/
def row (edge : Char) (widths : List Nat) (cells : List String) : List String :=
  let columns := (widths.zip cells).map fun (width, cell) => (width, cellLines width cell)
  (List.range (height columns)).map fun n =>
    bordered edge edge edge <| columns.map fun (width, lines) =>
      String.ofList (' ' :: lines.getD n (blankCells width) ++ [' '])

/-- The title over the middle of the table. -/
def titleLine (title : String) (widths : List Nat) : String :=
  let cells := widths.foldl (fun cells width => cells + width + 3) 1
  String.ofList (blankCells ((cells - columnWidth title) / 2)) ++ title

/-- The lines of a table of at most some cells. -/
def render (cells : Nat) (title : String) (headings : List String) (rows : List (List String)) :
    List String :=
  let widths := columnWidths cells headings rows
  [titleLine title widths, line ⟨'┏', '━', '┳', '┓'⟩ widths] ++ row '┃' widths headings ++
    [line ⟨'┡', '━', '╇', '┩'⟩ widths] ++ rows.flatMap (row '│' widths) ++
    [line ⟨'└', '─', '┴', '┘'⟩ widths]

/-- The parameters of a generator with their absolute indices. -/
def parameterOrder (g : GeneratorSpec) : String :=
  ", ".intercalate (g.parameterNames.zipIdx.map fun (name, index) => s!"{index}:{name}")

/-- The headings of the table of generators. -/
def generatorHeadings : List String := ["name", "ugen", "parameters (absolute index)"]

/-- The cells of a generator. -/
def generatorCells (g : GeneratorSpec) : List String := [g.name, g.ugen, parameterOrder g]

/-- The rows of generators, with emoji for their codes. -/
def generatorRows (gs : List GeneratorSpec) : List (List String) :=
  gs.map fun g => (generatorCells g).map withEmoji

/-- The table of generators. -/
def ofGenerators (cells : Nat) (gs : List GeneratorSpec) : List String :=
  render cells "Generators" generatorHeadings (generatorRows gs)

end Table

end SynthGraph
