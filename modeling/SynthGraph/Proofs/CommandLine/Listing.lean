import Mathlib.Data.List.Forall2
import SynthGraph.Proofs.CommandLine.Running
import SynthGraph.Proofs.Text.Plain

/-!
# What the command that lists prints

Where a table has room, every column has the width of its widest cell, and a row whose cells are
texts of one line is drawn on one line that shows them as they are.  The command that lists prints
such a line for every generator that it finds, with the parameters of the generator behind their
indices.
-/

namespace SynthGraph

open Session

variable {width : Nat} {ws widths : List Nat} {cell : String} {headings row : List String}
  {rows : List (List String)} {g : GeneratorSpec} {gs : List GeneratorSpec}

/-! ### Cells -/

/-- Blanks take a cell each. -/
lemma widthAfter_blankCells (last : Option Char) (n : Nat) :
    widthAfter last (blankCells n) = n := by
  induction n generalizing last with
  | zero => rfl
  | succ n ih =>
    have hblank : cellWidth ' ' = 1 := rfl
    rw [blankCells, List.replicate_succ, widthAfter_cons (by decide), if_neg (by decide), hblank,
      if_neg Nat.one_ne_zero, ← blankCells, ih, Nat.add_comm]

/-- Blanks behind a text take no more than a cell each.  The first one takes none when the text ends
with a joiner. -/
lemma widthAfter_append_blankCells_le (last : Option Char) (cs : List Char) (n : Nat) :
    widthAfter last (cs ++ blankCells n) ≤ widthAfter last cs + n := by
  induction last, cs using widthAfter.induct with
  | case1 last =>
    rw [List.nil_append, widthAfter_blankCells]
    exact Nat.le_add_left n _
  | case2 last =>
    cases n with
    | zero => simp [blankCells]
    | succ n =>
      rw [blankCells, List.replicate_succ, List.singleton_append, widthAfter_joiner, ← blankCells,
        widthAfter_blankCells]
      omega
  | case3 last c rest ih =>
    rw [List.cons_append, List.cons_append, widthAfter_joiner, widthAfter_joiner]
    exact ih
  | case4 last rest _ ih =>
    rw [List.cons_append, widthAfter_pictureSelector, widthAfter_pictureSelector, Nat.add_assoc]
    exact Nat.add_le_add_left ih _
  | case5 last c rest hjoiner hselector hzero ih =>
    simpa [widthAfter_cons hjoiner, hselector, hzero] using ih
  | case6 last c rest hjoiner hselector hzero ih =>
    simpa [widthAfter_cons hjoiner, hselector, hzero, Nat.add_assoc] using ih

/-- A text that fits is filled up with blanks, also when it is filled up twice. -/
lemma exists_fitCells_fitCells {cs : List Char} (h : textWidth cs ≤ width) :
    ∃ n, fitCells width (fitCells width cs) = cs ++ blankCells n := by
  have hfilled : fitCells width cs = cs ++ blankCells (width - textWidth cs) := if_pos h
  have hwidth : textWidth (fitCells width cs) ≤ width := by
    have hblanks : textWidth (cs ++ blankCells (width - textWidth cs)) ≤
        textWidth cs + (width - textWidth cs) := widthAfter_append_blankCells_le none cs _
    rw [hfilled]
    omega
  refine ⟨width - textWidth cs + (width - textWidth (fitCells width cs)), ?_⟩
  rw [fitCells, if_pos hwidth, hfilled, List.append_assoc, blankCells, blankCells,
    List.replicate_append_replicate, blankCells]

/-- What has room in a line has room in a wider one. -/
lemma FitsLine.mono {s : String} {n m : Nat} (h : FitsLine n s) (hle : n ≤ m) : FitsLine m s :=
  ⟨Nat.le_trans h.1 hle, fun hlong => h.2 (Nat.lt_of_le_of_lt hle hlong)⟩

/-- A text of one line: it has no control characters, and it has room in a column of its own
width. -/
def OneLine (s : String) : Prop := (∀ c ∈ s.toList, 0x20 ≤ c.toNat) ∧ FitsLine (columnWidth s) s

namespace Table

/-- A cell of one line is filled up with blanks in a column that is wide enough. -/
lemma exists_cellLines_eq (h : OneLine cell) (hwidth : columnWidth cell ≤ width) :
    ∃ n, cellLines width cell = [cell.toList ++ blankCells n] := by
  have hfits := h.2.mono hwidth
  obtain ⟨n, hn⟩ := exists_fitCells_fitCells hfits.1
  refine ⟨n, ?_⟩
  rw [cellLines, columnLines, wrappedLines, screenLines_eq h.1, List.flatMap_singleton,
    wrapWords_lineWords _ hfits.1, List.map_singleton, cropBlanks_eq hfits.2, List.map_singleton,
    List.map_singleton, hn]

/-! ### Rows -/

/-- A line shows texts: each behind a blank and in front of some more, with edges around them. -/
def Shows (line : String) (cells : List String) : Prop :=
  ∃ spaces : List Nat, spaces.length = cells.length ∧
    line = "│" ++ "│".intercalate (List.zipWith (fun cell n =>
      " " ++ cell ++ String.ofList (List.replicate (n + 1) ' ')) cells spaces) ++ "│"

/-- Columns have a width for each cell of a row, which the cell does not exceed. -/
def Holds (widths : List Nat) (row : List String) : Prop :=
  List.Forall₂ (fun width cell => columnWidth cell ≤ width) widths row

/-- Cells of one line fill one line each, in columns that are wide enough. -/
lemma exists_columns_eq (hcells : ∀ cell ∈ row, OneLine cell) (hwidths : Holds widths row) :
    ∃ (spaces : List Nat) (texts : List (Nat × List Char)), spaces.length = row.length ∧
      (widths.zip row).map (fun (width, cell) => (width, cellLines width cell)) =
        texts.map (fun text => (text.1, [text.2])) ∧
      texts.map (fun text => String.ofList (' ' :: text.2 ++ [' '])) =
        List.zipWith (fun cell n => " " ++ cell ++ String.ofList (List.replicate (n + 1) ' '))
          row spaces := by
  induction hwidths with
  | nil => exact ⟨[], [], rfl, rfl, rfl⟩
  | @cons width cell widths row hwidth _ ih =>
    obtain ⟨hfirst, hrest⟩ := List.forall_mem_cons.mp hcells
    obtain ⟨n, hn⟩ := exists_cellLines_eq hfirst hwidth
    obtain ⟨spaces, texts, hlength, hcolumns, htexts⟩ := ih hrest
    refine ⟨n :: spaces, (width, cell.toList ++ blankCells n) :: texts, by simp [hlength], ?_, ?_⟩
    · rw [List.zip_cons_cons, List.map_cons, List.map_cons, hcolumns]
      dsimp only
      rw [hn]
    · rw [List.map_cons, List.zipWith_cons_cons, htexts]
      congr 1
      apply String.toList_injective
      simp [blankCells, List.replicate_succ']

/-- Cells of one line have the height of a line. -/
lemma height_map_singleton {texts : List (Nat × List Char)} (hne : texts ≠ []) :
    height (texts.map fun text => (text.1, [text.2])) = 1 := by
  have hrest (texts : List (Nat × List Char)) :
      (texts.map fun text => (text.1, [text.2])).foldl
        (fun height column => max height column.2.length) 1 = 1 := by
    induction texts with
    | nil => rfl
    | cons _ _ ih => exact ih
  obtain ⟨text, texts, rfl⟩ := List.exists_cons_of_ne_nil hne
  exact hrest texts

/-- Cells of one line make a row of one line, which shows them. -/
lemma exists_row_eq (hne : row ≠ []) (hcells : ∀ cell ∈ row, OneLine cell)
    (hwidths : Holds widths row) :
    ∃ line, Table.row '│' widths row = [line] ∧ Shows line row := by
  obtain ⟨spaces, texts, hlength, hcolumns, htexts⟩ := exists_columns_eq hcells hwidths
  have hsome : texts ≠ [] := by
    rintro rfl
    have hempty : (widths.zip row).length = 0 := by
      simpa using congrArg List.length hcolumns
    rw [List.length_zip, hwidths.length_eq, Nat.min_self] at hempty
    exact hne (List.length_eq_zero_iff.mp hempty)
  refine ⟨_, ?_, spaces, hlength, rfl⟩
  rw [Table.row, hcolumns, height_map_singleton hsome, ← htexts]
  simp [bordered, Function.comp_def]

/-! ### The widths of columns -/

/-- A table has room for columns that hold its headings and its rows, with an edge and two blanks
for each column and one more edge. -/
def HasRoom (cells : Nat) (headings : List String) (rows : List (List String)) : Prop :=
  ∃ widths : List Nat, (∀ row ∈ headings :: rows, Holds widths row) ∧
    total (widths.map (· + 3)) + 1 ≤ cells

/-- The total of widths is the first one and the total of the others. -/
lemma total_cons (width : Nat) (ws : List Nat) : total (width :: ws) = width + total ws := by
  have hfrom (n : Nat) (ws : List Nat) : ws.foldl (· + ·) n = n + ws.foldl (· + ·) 0 := by
    induction ws generalizing n with
    | nil => rfl
    | cons width ws ih =>
      rw [List.foldl_cons, List.foldl_cons, ih (n + width), ih (0 + width)]
      omega
  rw [total, List.foldl_cons, Nat.zero_add]
  exact hfrom width ws

/-- The total of widths that are all increased alike. -/
lemma total_map_add (ws : List Nat) (n : Nat) :
    total (ws.map (· + n)) = total ws + n * ws.length := by
  induction ws with
  | nil => rfl
  | cons width ws ih =>
    rw [List.map_cons, total_cons, total_cons, ih, List.length_cons, Nat.mul_add, Nat.mul_one]
    omega

/-- No width is more than the total. -/
lemma le_total_of_mem (h : width ∈ ws) : width ≤ total ws := by
  induction ws with
  | nil => cases h
  | cons first ws ih =>
    rw [total_cons]
    rcases List.mem_cons.mp h with rfl | hrest
    · exact Nat.le_add_right _ _
    · exact Nat.le_trans (ih hrest) (Nat.le_add_left _ _)

/-- The total of widths is no more than that of greater ones. -/
lemma total_le_total (h : List.Forall₂ (· ≤ ·) ws widths) : total ws ≤ total widths := by
  induction h with
  | nil => exact Nat.le_refl _
  | cons hle _ ih =>
    rw [total_cons, total_cons]
    exact Nat.add_le_add hle ih

/-- Columns hold a row that they are widened for. -/
lemma holds_widened (h : ws.length = row.length) : Holds (widened ws row) row := by
  induction ws generalizing row with
  | nil =>
    obtain rfl := List.length_eq_zero_iff.mp h.symm
    exact .nil
  | cons width ws ih =>
    obtain ⟨cell, row, rfl⟩ := List.exists_cons_of_length_eq_add_one h.symm
    exact .cons (Nat.le_max_right _ _) (ih (Nat.succ.inj h))

/-- Columns that are widened still hold what they held. -/
lemma Holds.widened (h : Holds ws row) {cells : List String} (hlength : ws.length = cells.length) :
    Holds (widened ws cells) row := by
  induction h generalizing cells with
  | nil => exact .nil
  | cons hle _ ih =>
    obtain ⟨cell, cells, rfl⟩ := List.exists_cons_of_length_eq_add_one hlength.symm
    exact .cons (Nat.le_trans hle (Nat.le_max_left _ _)) (ih (Nat.succ.inj hlength))

/-- Columns are not widened past others that hold the row. -/
lemma widened_le (h : List.Forall₂ (· ≤ ·) ws widths) (hrow : Holds widths row) :
    List.Forall₂ (· ≤ ·) (widened ws row) widths := by
  induction h generalizing row with
  | nil => exact .nil
  | cons hle _ ih =>
    cases hrow with
    | cons hcell hrow => exact .cons (Nat.max_le.mpr ⟨hle, hcell⟩) (ih hrow)

/-- A row that is widened for leaves as many columns as there are. -/
lemma length_widened (h : ws.length = row.length) : (widened ws row).length = ws.length := by
  rw [widened, List.length_map, List.length_zip, ← h, Nat.min_self]

/-- Columns that are widened for rows hold what they held, and these rows. -/
lemma holds_foldl_widened (hlength : ∀ row ∈ rows, ws.length = row.length) :
    (∀ row, Holds ws row → Holds (rows.foldl widened ws) row) ∧
      ∀ row ∈ rows, Holds (rows.foldl widened ws) row := by
  induction rows generalizing ws with
  | nil => exact ⟨fun _ h => h, nofun⟩
  | cons first rows ih =>
    obtain ⟨hfirst, hrest⟩ := List.forall_mem_cons.mp hlength
    have hwidened : ∀ row ∈ rows, (widened ws first).length = row.length := fun row hrow =>
      (length_widened hfirst).trans (hrest row hrow)
    obtain ⟨hkept, hheld⟩ := ih hwidened
    exact ⟨fun row h => hkept row (h.widened hfirst),
      List.forall_mem_cons.mpr ⟨hkept first (holds_widened hfirst), hheld⟩⟩

/-- Columns are not widened past others that hold all rows. -/
lemma foldl_widened_le (h : List.Forall₂ (· ≤ ·) ws widths)
    (hrows : ∀ row ∈ rows, Holds widths row) :
    List.Forall₂ (· ≤ ·) (rows.foldl widened ws) widths := by
  induction rows generalizing ws with
  | nil => exact h
  | cons first rows ih =>
    obtain ⟨hfirst, hrest⟩ := List.forall_mem_cons.mp hrows
    exact ih (widened_le h hfirst) hrest

/-- In a table with room, columns get the widths that they would like to have, and hold the rows. -/
lemma HasRoom.columnWidths_eq {cells : Nat} (h : HasRoom cells headings rows) :
    columnWidths cells headings rows = desiredWidths headings rows ∧
      ∀ row ∈ rows, Holds (desiredWidths headings rows) row := by
  obtain ⟨widths, hholds, hcells⟩ := h
  obtain ⟨hheadings, hrows⟩ := List.forall_mem_cons.mp hholds
  have hstart : List.Forall₂ (· ≤ ·) (headings.map columnWidth) widths :=
    List.forall₂_map_left_iff.mpr hheadings.flip
  have hdesired : List.Forall₂ (· ≤ ·) (desiredWidths headings rows) widths :=
    foldl_widened_le hstart hrows
  have htotal : total (desiredWidths headings rows) ≤ total widths := total_le_total hdesired
  have hlength : (desiredWidths headings rows).length = widths.length := hdesired.length_eq
  have hcolumns : widths.length = headings.length := hheadings.length_eq
  rw [total_map_add] at hcells
  -- With a column there are three cells for its edge and blanks, so that a single column with its
  -- blanks fits into what is left by the edges.
  have hpadded : (desiredWidths headings rows).map
      (fun width => min (cells - (headings.length + 1)) (width + 2)) =
        (desiredWidths headings rows).map (· + 2) := by
    refine List.map_congr_left fun width hwidth => Nat.min_eq_right ?_
    have hle := le_total_of_mem hwidth
    have hsome := List.length_pos_of_mem hwidth
    omega
  refine ⟨?_, (holds_foldl_widened fun row hrow => ?_).2⟩
  · simp only [columnWidths]
    rw [hpadded, shrink, if_pos, List.map_map]
    · exact List.map_id'' (fun _ => rfl) _
    · rw [total_map_add]
      omega
  · rw [List.length_map, ← hcolumns]
    exact (hrows row hrow).length_eq

/-! ### Tables -/

/-- A table with room shows a row of texts of one line. -/
lemma exists_mem_render {cells : Nat} (h : HasRoom cells headings rows) (hrow : row ∈ rows)
    (hne : row ≠ []) (hcells : ∀ cell ∈ row, OneLine cell) (title : String) :
    ∃ line ∈ render cells title headings rows, Shows line row := by
  obtain ⟨hwidths, hholds⟩ := h.columnWidths_eq
  obtain ⟨line, hline, hshows⟩ := exists_row_eq hne hcells (hholds row hrow)
  refine ⟨line, ?_, hshows⟩
  have hmem : line ∈ rows.flatMap (Table.row '│' (desiredWidths headings rows)) :=
    List.mem_flatMap.mpr ⟨row, hrow, by rw [hline]; exact List.mem_cons_self⟩
  simp only [render, hwidths, List.mem_append]
  exact .inl (.inr hmem)

/-! ### The parameters of a generator -/

/-- Behind a colon, a text without colons that holds a blank is no code. -/
lemma not_hasCode_cons_append {cs rest : List Char} (hcolon : ':' ∉ cs)
    (hblank : cs.any isSpacing = true) (hrest : ¬Emoji.HasCode rest) :
    ¬Emoji.HasCode (':' :: (cs ++ rest)) := by
  intro h
  obtain ⟨before, code, after, hsplit, hcode, hspaces, hemoji⟩ := h
  cases before with
  | nil =>
    obtain ⟨more, rfl, -⟩ | ⟨more, rfl, hmore⟩ :=
      List.append_eq_append_iff.mp (List.cons.inj hsplit).2
    · simp [hblank] at hspaces
    · cases more with
      | nil => simp [hspaces] at hblank
      | cons c more =>
        obtain rfl : ':' = c := (List.cons.inj hmore).1
        exact hcolon (List.mem_append_right code List.mem_cons_self)
  | cons c before =>
    have htail : Emoji.HasCode (cs ++ rest) :=
      ⟨before, code, after, (List.cons.inj hsplit).2, hcode, hspaces, hemoji⟩
    exact hrest (htail.of_append_left hcolon)

/-- What stands in joined lists stands in the separator or in one of them. -/
lemma mem_or_mem_of_mem_intercalate {α : Type} {a : α} {sep : List α} {lists : List (List α)}
    (h : a ∈ sep.intercalate lists) : a ∈ sep ∨ ∃ list ∈ lists, a ∈ list := by
  induction lists with
  | nil => cases h
  | cons list lists ih =>
    cases lists with
    | nil => exact .inr ⟨list, List.mem_cons_self, by rwa [List.intercalate_singleton] at h⟩
    | cons next lists =>
      rw [List.intercalate_cons_cons, List.mem_append, List.mem_append] at h
      rcases h with (hlist | hsep) | hrest
      · exact .inr ⟨list, List.mem_cons_self, hlist⟩
      · exact .inl hsep
      · obtain hsep | ⟨list', hlist', hmem⟩ := ih hrest
        · exact .inl hsep
        · exact .inr ⟨list', List.mem_cons_of_mem _ hlist', hmem⟩

/-- Names of plain characters behind their indices have no codes, for every colon but the last is
followed by a comma and a blank before there is another one. -/
lemma not_hasCode_entries {entries : List (String × Nat)}
    (h : ∀ e ∈ entries, e.1.toList.all isPlain = true) :
    ¬Emoji.HasCode
      (", ".intercalate (entries.map fun (name, index) => s!"{index}:{name}")).toList := by
  induction entries with
  | nil =>
    rintro ⟨before, code, after, hsplit, -⟩
    simp at hsplit
  | cons e entries ih =>
    obtain ⟨name, index⟩ := e
    obtain ⟨hname, hrest⟩ := List.forall_mem_cons.mp h
    have hdigits : ':' ∉ (toString index).toList := colon_notMem (all_isPlain_toString index)
    cases entries with
    | nil =>
      have htext : (", ".intercalate ([(name, index)].map fun (name, index) =>
          s!"{index}:{name}")).toList = (toString index).toList ++ [':'] ++ name.toList := by
        simp [toString]
      rw [htext]
      intro hcode
      obtain ⟨before, code, after, hsplit, -⟩ :=
        (hcode.of_append_right (colon_notMem hname)).of_append_left hdigits
      have hlength := congrArg List.length hsplit
      simp at hlength
      omega
    | cons next entries =>
      have htext : (", ".intercalate (((name, index) :: next :: entries).map
          fun (name, index) => s!"{index}:{name}")).toList =
            (toString index).toList ++ ':' :: ((name ++ ", ").toList ++
              (", ".intercalate ((next :: entries).map
                fun (name, index) => s!"{index}:{name}")).toList) := by
        simp [toString, String.intercalate_cons_cons]
      rw [htext]
      intro hcode
      refine not_hasCode_cons_append ?_ ?_ (ih hrest) (hcode.of_append_left hdigits)
      · rw [String.toList_append]
        exact fun hmem => (List.mem_append.mp hmem).elim (colon_notMem hname) (by decide)
      · rw [String.toList_append, List.any_append]
        exact Bool.or_eq_true_iff.mpr (.inr (by decide))

/-- The parameters of a generator are a plain text when their names have plain characters only. -/
lemma plain_parameterOrder (h : ∀ name ∈ g.parameterNames, name.toList.all isPlain = true) :
    Plain (parameterOrder g).toList := by
  have hentries : ∀ e ∈ g.parameterNames.zipIdx, e.1.toList.all isPlain = true := fun e he =>
    h e.1 (List.fst_mem_of_mem_zipIdx he)
  have hchars : ∀ c ∈ (parameterOrder g).toList, isPlain c = true ∨ c = ':' := by
    intro c hc
    rw [parameterOrder, String.toList_intercalate, List.map_map] at hc
    obtain hsep | ⟨text, htext, hmem⟩ := mem_or_mem_of_mem_intercalate hc
    · exact .inl (List.all_eq_true.mp (by decide : ", ".toList.all isPlain = true) c hsep)
    · obtain ⟨⟨name, index⟩, he, rfl⟩ := List.mem_map.mp htext
      have hparts : c ∈ (toString index).toList ∨ c = ':' ∨ c ∈ name.toList := by
        simpa [toString] using hmem
      rcases hparts with hdigit | hcolon | hname
      · exact .inl (List.all_eq_true.mp (all_isPlain_toString index) c hdigit)
      · exact .inr hcolon
      · exact .inl (List.all_eq_true.mp (hentries _ he) c hname)
  refine ⟨fun c hc => ?_, not_hasCode_entries hentries, ?_⟩
  · rcases hchars c hc with hplain | rfl
    · simp only [isPlain, Bool.and_eq_true, decide_eq_true_eq] at hplain
      exact hplain.1.1
    · decide
  · rintro ⟨before, after, hsplit, -⟩
    exact absurd (hchars '[' (by simp [hsplit])) (by decide)

/-- The cells of a generator are plain texts of one line. -/
def IsPlain (g : GeneratorSpec) : Prop :=
  ∀ cell ∈ generatorCells g, Plain cell.toList ∧ FitsLine (columnWidth cell) cell

/-- A table with room shows a generator whose cells are plain. -/
lemma exists_mem_ofGenerators {cells : Nat}
    (h : HasRoom cells generatorHeadings (generatorRows gs)) (hg : g ∈ gs) (hplain : IsPlain g) :
    ∃ line ∈ ofGenerators cells gs, Shows line (generatorCells g) := by
  have hcells : (generatorCells g).map withEmoji = generatorCells g := by
    refine (List.map_congr_left fun cell hcell => ?_).trans (List.map_id _)
    rw [withEmoji, Emoji.replaceCodes_eq (hplain cell hcell).1.codes, String.ofList_toList, id]
  exact exists_mem_render h (List.mem_map.mpr ⟨g, hg, hcells⟩) (List.cons_ne_nil _ _)
    (fun cell hcell => ⟨(hplain cell hcell).1.controls, (hplain cell hcell).2⟩) "Generators"

end Table

/-! ### The command -/

namespace CommandLine

/-- The generators that a command asks for: it checks its settings and finds them. -/
def requested (i : Invocation) : Run (List GeneratorSpec) := do
  let settings ← Run.settings i.members
  settings.resolve

/-- The command that lists shows a text as the parameters of a generator: wherever logging is set
up, the command finds the generator among others, the table has room and the cells of the generator
are plain, a line of the output shows the text behind the name and the unit generator. -/
def ListShows (g : GeneratorSpec) (order : String) : Prop :=
  ∀ (args : List String) (i : Invocation) (terminal : Bool) (s s' : Session)
    (gs : List GeneratorSpec), Request.ofArguments args = .invoke i → i.command = .list →
    ((LogFile.configure false).apply s).1 = .ok () →
    (requested i).apply (prepared s) = (.ok gs, s') → g ∈ gs →
    Table.HasRoom s.environment.outputWidth Table.generatorHeadings (Table.generatorRows gs) →
    Table.IsPlain g → ∃ lines, run args terminal s = (.done (textOf lines), s') ∧
      ∃ line ∈ lines, Table.Shows line [g.name, g.ugen, order]

/-- The command that lists shows the order of the parameters. -/
lemma listShows_parameterOrder (g : GeneratorSpec) : ListShows g (Table.parameterOrder g) := by
  intro args i terminal s s' gs hargs hcommand hsetUp hrequested hg hroom hplain
  have hperform : (perform i).apply (prepared s) =
      (.ok (Table.ofGenerators s.environment.outputWidth gs), s') := by
    have heq : (perform i).apply (prepared s) = (do
        let gs ← requested i
        return Table.ofGenerators s.environment.outputWidth gs).apply (prepared s) := by
      rw [perform, Run.apply_bind, Run.apply_get]
      simp only [hcommand, requested, bind_assoc, environment_prepared]
    rw [heq, Run.apply_bind_of_ok hrequested, Run.apply_pure]
  exact ⟨_, run_of_performed hargs terminal hsetUp hperform,
    Table.exists_mem_ofGenerators hroom hg hplain⟩

end CommandLine

end SynthGraph
