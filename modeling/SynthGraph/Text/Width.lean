import SynthGraph.Text.CellTable

/-!
# The width of a text on a terminal

A terminal shows a text in cells.  The characters of a text gather in clusters: what takes no cell
belongs to the cluster before it, a joiner takes the character after it along, and the selector of
the picture form widens a character that takes one cell as text.  The width of a text is that of its
clusters, but for a joiner at the start of the text: it makes a cluster of its own, and in the width
of the text it takes the character after it along all the same.
-/

namespace SynthGraph

/-- The cells that a character takes by itself. -/
def cellWidth (c : Char) : Nat :=
  if 0x20 ≤ c.toNat ∧ c.toNat < 0x7F then 1
  else if weightlessCharacters.contains c then 0
  else if wideCharacters.contains c then 2
  else 1

/-! ### Clusters -/

/-- Characters that stand in the same cells, and the number of those cells. -/
structure Cluster where
  chars : List Char
  width : Nat
  deriving DecidableEq, Repr

/-- Joins the characters around it. -/
def joiner : Char := '\u200d'

/-- Asks for the picture form of the character before it. -/
def pictureSelector : Char := '\ufe0f'

/-- Adds characters and cells to the last cluster, which is the first of the list. -/
def extendLast (chars : List Char) (cells : Nat) : List Cluster → List Cluster
  | [] => [⟨chars, cells⟩]
  | cluster :: before => ⟨cluster.chars ++ chars, cluster.width + cells⟩ :: before

/-- The clusters of a text after others, which stand in reverse, and after a character whose picture
form may be asked for. -/
def clustersFrom (before : List Cluster) (last : Option Char) : List Char → List Cluster
  | [] => before.reverse
  | c :: cs =>
    if c = joiner ∧ before ≠ [] then
      match cs with
      | [] => (extendLast [c] 0 before).reverse
      | joined :: rest => clustersFrom (extendLast [c, joined] 0 before) last rest
    else if c = pictureSelector then
      let widened := last.any pictureCharacters.contains
      clustersFrom (extendLast [c] (if widened then 1 else 0) before) none cs
    else if cellWidth c = 0 then clustersFrom (extendLast [c] 0 before) last cs
    else clustersFrom (⟨[c], cellWidth c⟩ :: before) (some c) cs

/-- The clusters of a text. -/
def clusters (cs : List Char) : List Cluster := clustersFrom [] none cs

theorem flatMap_reverse_extendLast (chars : List Char) (cells : Nat) (before : List Cluster) :
    (extendLast chars cells before).reverse.flatMap Cluster.chars =
      before.reverse.flatMap Cluster.chars ++ chars := by
  cases before <;> simp [extendLast]

theorem flatMap_clustersFrom (before : List Cluster) (last : Option Char) (cs : List Char) :
    (clustersFrom before last cs).flatMap Cluster.chars =
      before.reverse.flatMap Cluster.chars ++ cs := by
  fun_induction clustersFrom before last cs <;> simp_all [flatMap_reverse_extendLast]

/-- The clusters make up the text. -/
@[simp]
theorem flatMap_clusters (cs : List Char) : (clusters cs).flatMap Cluster.chars = cs := by
  simp [clusters, flatMap_clustersFrom]

/-! ### Texts -/

/-- The cells that a text takes after a character whose picture form may be asked for. -/
def widthAfter (last : Option Char) : List Char → Nat
  | [] => 0
  | c :: cs =>
    if c = joiner then
      match cs with
      | [] => 0
      | _ :: rest => widthAfter last rest
    else if c = pictureSelector then
      (if last.any pictureCharacters.contains then 1 else 0) + widthAfter none cs
    else if cellWidth c = 0 then widthAfter last cs
    else cellWidth c + widthAfter (some c) cs

/-- The cells that a text takes. -/
def textWidth (cs : List Char) : Nat := widthAfter none cs

/-- A character that is no joiner takes its cells and leaves the rest of the text to itself. -/
theorem widthAfter_cons {c : Char} (h : c ≠ joiner) (last : Option Char) (cs : List Char) :
    widthAfter last (c :: cs) =
      if c = pictureSelector then
        (if last.any pictureCharacters.contains then 1 else 0) + widthAfter none cs
      else if cellWidth c = 0 then widthAfter last cs
      else cellWidth c + widthAfter (some c) cs := by
  cases cs <;> simp [widthAfter, h]

/-- The cells that clusters take. -/
def clusterCells : List Cluster → Nat
  | [] => 0
  | cluster :: rest => cluster.width + clusterCells rest

theorem clusterCells_append (as bs : List Cluster) :
    clusterCells (as ++ bs) = clusterCells as + clusterCells bs := by
  induction as with
  | nil => simp [clusterCells]
  | cons a as ih => simp [clusterCells, ih, Nat.add_assoc]

theorem clusterCells_reverse (cs : List Cluster) : clusterCells cs.reverse = clusterCells cs := by
  induction cs with
  | nil => rfl
  | cons c cs ih => simp [clusterCells_append, clusterCells, ih, Nat.add_comm]

theorem clusterCells_extendLast (chars : List Char) (cells : Nat) (before : List Cluster) :
    clusterCells (extendLast chars cells before) = clusterCells before + cells := by
  cases before <;> simp +arith [extendLast, clusterCells]

theorem extendLast_ne_nil (chars : List Char) (cells : Nat) (before : List Cluster) :
    extendLast chars cells before ≠ [] := by
  cases before <;> simp [extendLast]

theorem clusterCells_clustersFrom {before : List Cluster} (h : before ≠ []) (last : Option Char)
    (cs : List Char) :
    clusterCells (clustersFrom before last cs) = clusterCells before + widthAfter last cs := by
  fun_induction clustersFrom before last cs with
  | case1 => simp [widthAfter, clusterCells_reverse]
  | case2 => simp_all [widthAfter, clusterCells_reverse, clusterCells_extendLast]
  | case3 => simp_all [widthAfter, clusterCells_extendLast, extendLast_ne_nil]
  | case4 before last rest widened hne ih =>
    simp_all [widthAfter_cons, clusterCells_extendLast, extendLast_ne_nil, Nat.add_assoc, widened]
  | case5 => simp_all [widthAfter_cons, clusterCells_extendLast, extendLast_ne_nil]
  | case6 => simp_all [widthAfter_cons, clusterCells, Nat.add_assoc, Nat.add_left_comm]

/-- A text that does not start with a joiner takes the cells of its clusters. -/
theorem textWidth_eq_clusterCells {c : Char} (h : c ≠ joiner) (cs : List Char) :
    textWidth (c :: cs) = clusterCells (clusters (c :: cs)) := by
  rw [textWidth, clusters, widthAfter_cons h, clustersFrom.eq_def]
  simp only [h, false_and, if_false]
  split
  · rw [clusterCells_clustersFrom (extendLast_ne_nil _ _ _)]
    simp [extendLast, clusterCells]
  · split
    · rw [clusterCells_clustersFrom (extendLast_ne_nil _ _ _)]
      simp [extendLast, clusterCells]
    · rw [clusterCells_clustersFrom (by simp)]
      simp [clusterCells]

/-- Blanks. -/
def blankCells (n : Nat) : List Char := List.replicate n ' '

/-- The clusters that fit into some cells, and a blank where only half of the next one would. -/
def takeCells : (cells : Nat) → List Cluster → List Char
  | _, [] => []
  | cells, cluster :: rest =>
    if cells = 0 then []
    else if cluster.width ≤ cells then cluster.chars ++ takeCells (cells - cluster.width) rest
    else blankCells cells

/-- A text in at most `width` cells: what does not fit is cut off. -/
def cropCells (width : Nat) (cs : List Char) : List Char :=
  if textWidth cs ≤ width then cs else takeCells width (clusters cs)

/-- A text in exactly `width` cells: filled up with blanks, or cut to make room for dots. -/
def fitCells (width : Nat) (cs : List Char) : List Char :=
  if textWidth cs ≤ width then cs ++ blankCells (width - textWidth cs)
  else takeCells (width - 1) (clusters cs) ++ ['…']

end SynthGraph
