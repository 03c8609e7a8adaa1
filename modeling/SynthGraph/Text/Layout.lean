import SynthGraph.Text.Blank
import SynthGraph.Text.Screen

/-!
# Text in a column

A column of a fixed width takes a text line by line.  A line that is too long goes on in a new one
before the word that does not fit; a word that fits in no line is cut, or goes on in the next line
as well.
-/

namespace SynthGraph

/-! ### Words -/

/-- The words of a line, each with the blanks around it that belong to no word before. -/
def wordsFrom (word : List Char) : List Char → List (List Char)
  | [] => [word]
  | c :: cs =>
    if !isSpacing c && word.getLast?.any isSpacing && !word.all isSpacing then
      word :: wordsFrom [c] cs
    else wordsFrom (word ++ [c]) cs

/-- The words of a line.  A line of blanks counts as one word. -/
def lineWords (line : List Char) : List (List Char) := wordsFrom [] line

theorem flatten_wordsFrom (word cs : List Char) : (wordsFrom word cs).flatten = word ++ cs := by
  induction cs generalizing word with
  | nil => simp [wordsFrom]
  | cons c cs ih =>
    simp only [wordsFrom]
    split <;> simp [ih]

/-- The words make up the line. -/
@[simp]
theorem flatten_lineWords (line : List Char) : (lineWords line).flatten = line := by
  simp [lineWords, flatten_wordsFrom]

/-- A word without the blanks behind it. -/
def trimRight (cs : List Char) : List Char := (cs.reverse.dropWhile isSpacing).reverse

/-! ### Lines -/

/-- What becomes of a word that fits in no line. -/
inductive LongWords where
  /-- It goes on in the next line. -/
  | fold
  /-- It has a line of its own, which is cut. -/
  | cut
  deriving DecidableEq, Repr

/-- Clusters after a line of which some cells are used: the lines that are full, and the last. -/
def foldClusters (width used : Nat) (line : List Char) :
    List Cluster → List (List Char) × List Char
  | [] => ([], line)
  | cluster :: rest =>
    if used + cluster.width ≤ width then
      foldClusters width (used + cluster.width) (line ++ cluster.chars) rest
    else
      let (full, last) := foldClusters width cluster.width cluster.chars rest
      (line :: full, last)

theorem flatten_foldClusters (width used : Nat) (line : List Char) (cs : List Cluster) :
    (foldClusters width used line cs).1.flatten ++ (foldClusters width used line cs).2 =
      line ++ cs.flatMap Cluster.chars := by
  induction cs generalizing used line with
  | nil => simp [foldClusters]
  | cons cluster rest ih =>
    simp only [foldClusters]
    split
    · simp [ih]
    · simp [ih]

/-- The lines that a word fills on lines of its own, and what it leaves on the last. -/
def LongWords.linesOf (long : LongWords) (width : Nat) (word : List Char) :
    List (List Char) × List Char :=
  if textWidth (trimRight word) ≤ width then ([], word)
  else
    match long with
    | fold => foldClusters width 0 [] (clusters word)
    | cut => ([], word)

/-- The lines of a word make up the word. -/
theorem LongWords.flatten_linesOf (long : LongWords) (width : Nat) (word : List Char) :
    (long.linesOf width word).1.flatten ++ (long.linesOf width word).2 = word := by
  unfold linesOf
  split
  · simp
  · cases long <;> simp [flatten_foldClusters]

/-- Lays out words after the current line, which ends `offset` cells from its start.  A word that
does not fit there starts a new line, unless the line is empty. -/
def wrapWords (long : LongWords) (width offset : Nat) (line : List Char) :
    List (List Char) → List (List Char)
  | [] => [line]
  | word :: words =>
    if offset + textWidth (trimRight word) ≤ width then
      wrapWords long width (offset + textWidth word) (line ++ word) words
    else
      let (full, last) := long.linesOf width word
      (if line = [] then [] else [line]) ++ full ++
        wrapWords long width (textWidth last) last words

/-- Laying words out neither adds nor drops a character. -/
theorem flatten_wrapWords (long : LongWords) (width offset : Nat) (line : List Char)
    (words : List (List Char)) :
    (wrapWords long width offset line words).flatten = line ++ words.flatten := by
  induction words generalizing offset line with
  | nil => simp [wrapWords]
  | cons word words ih =>
    simp only [wrapWords]
    split
    · simp [ih]
    · have h := long.flatten_linesOf width word
      rw [List.flatten_append, List.flatten_append, ih, List.flatten_cons, ← List.append_assoc,
        List.append_assoc _ _ (long.linesOf width word).2, h, List.append_assoc]
      split <;> simp_all

/-- Blanks at the end of a line give way as far as it has more characters than the column has
cells. -/
def cropBlanks (width : Nat) (line : List Char) : List Char :=
  line.take (max (trimRight line).length (min width line.length))

/-- The lines of a text in a column, before they are brought to its width. -/
def wrappedLines (long : LongWords) (width : Nat) (s : String) : List (List Char) :=
  (screenLines s).flatMap fun line =>
    (wrapWords long width 0 [] (lineWords line)).map (cropBlanks width)

/-- A text in a column of some cells, which its lines fill. -/
def columnLines (width : Nat) (s : String) : List (List Char) :=
  (wrappedLines .cut width s).map (fitCells width)

/-- A text on a screen of some cells, where long words go on in the next line. -/
def foldedLines (width : Nat) (s : String) : List (List Char) :=
  (wrappedLines .fold width s).map (cropCells width)

/-- A text on a screen of some cells, with its lines one after the other. -/
def folded (width : Nat) (s : String) : String :=
  "\n".intercalate ((foldedLines width s).map String.ofList)

/-! ### The width of a column -/

/-- The characters that end a line in a document, those that no screen shows left out. -/
def lineEnds : List Char := ['\n', '\x1c', '\x1d', '\x1e', '\u0085', '\u2028', '\u2029']

/-- The cells of the widest line of a text, in which tabulators do not count. -/
def columnWidth (s : String) : Nat :=
  ((pieces lineEnds.contains (dropControls s.toList)).map textWidth).foldl max 0

end SynthGraph
