import Mathlib.Data.String.Basic
import SynthGraph.Proofs.Text.Plain
import SynthGraph.Session.Report

/-!
# What a panel shows

However long the texts are that a panel shows, a word of visible characters that begins a line of
them begins a line of the panel, as long as the panel is wider than the word.  So a report names the
kind of the failure, on a terminal as well as on one line.
-/

namespace SynthGraph

variable {c d : Char} {word line : List Char} {width used n : Nat} {first : List Cluster}

/-! ### Visible characters -/

/-- A character of one cell that is no blank: a letter, a digit or a sign of the ASCII set. -/
def IsVisible (c : Char) : Prop := 0x20 < c.toNat ∧ c.toNat < 0x7F

namespace IsVisible

/-- A visible character is no blank. -/
lemma isSpacing_eq (h : IsVisible c) : isSpacing c = false := by
  obtain ⟨hlow, hhigh⟩ := h
  simp [isSpacing, isBlank, blanks, CharRanges.contains]
  omega

/-- A visible character takes one cell. -/
lemma cellWidth_eq (h : IsVisible c) : cellWidth c = 1 :=
  if_pos ⟨Nat.le_of_lt h.1, h.2⟩

/-- A visible character is none that is not. -/
lemma ne (h : IsVisible c) (hd : ¬IsVisible d) : c ≠ d := by
  rintro rfl
  exact hd h

/-- A visible character is no control character. -/
lemma beq_eq_false (h : IsVisible c) (hd : d.toNat < 0x20) : (c == d) = false :=
  beq_eq_false_iff_ne.mpr (h.ne fun hvisible => absurd hvisible.1 (Nat.lt_asymm hd))

end IsVisible

/-! ### Clusters -/

/-- A character that is no joiner extends the last cluster, or has one of its own. -/
lemma clustersFrom_cons (h : c ≠ joiner) (before : List Cluster) (last : Option Char)
    (cs : List Char) :
    clustersFrom before last (c :: cs) =
      if c = pictureSelector then
        clustersFrom (extendLast [c] (if last.any pictureCharacters.contains then 1 else 0) before)
          none cs
      else if cellWidth c = 0 then clustersFrom (extendLast [c] 0 before) last cs
      else clustersFrom (⟨[c], cellWidth c⟩ :: before) (some c) cs := by
  rw [clustersFrom.eq_def]
  simp [h]

/-- A visible character has a cluster of its own. -/
lemma IsVisible.clustersFrom_cons (h : IsVisible c) (before : List Cluster) (last : Option Char)
    (cs : List Char) :
    clustersFrom before last (c :: cs) = clustersFrom (⟨[c], 1⟩ :: before) (some c) cs := by
  have hjoiner : c ≠ joiner := h.ne fun hjoiner => absurd hjoiner.2 (by decide)
  have hselector : c ≠ pictureSelector := h.ne fun hselector => absurd hselector.2 (by decide)
  rw [SynthGraph.clustersFrom_cons hjoiner, if_neg hselector, h.cellWidth_eq,
    if_neg Nat.one_ne_zero]

/-- Clusters before the last one stay as they are. -/
lemma clustersFrom_cons_before (b : Cluster) (before : List Cluster) (last : Option Char)
    (cs : List Char) :
    clustersFrom (b :: before) last cs = before.reverse ++ clustersFrom [b] last cs := by
  induction last, cs using widthAfter.induct generalizing b before with
  | case1 => simp [clustersFrom]
  | case2 => simp [clustersFrom, extendLast]
  | case3 last c rest ih => simpa [clustersFrom, extendLast] using ih _ before
  | case4 last rest hjoiner ih =>
    rw [clustersFrom_cons hjoiner, clustersFrom_cons hjoiner, if_pos rfl, if_pos rfl]
    exact ih _ before
  | case5 last c rest hjoiner hselector hzero ih =>
    rw [clustersFrom_cons hjoiner, clustersFrom_cons hjoiner, if_neg hselector, if_neg hselector,
      if_pos hzero, if_pos hzero]
    exact ih _ before
  | case6 last c rest hjoiner hselector hzero ih =>
    rw [clustersFrom_cons hjoiner, clustersFrom_cons hjoiner, if_neg hselector, if_neg hselector,
      if_neg hzero, if_neg hzero, ih, ih ⟨[c], cellWidth c⟩ [b]]
    simp

/-- What comes behind a cluster extends it by the cell of a picture at most. -/
lemma exists_clustersFrom_singleton (b : Cluster) (last : Option Char) (cs : List Char) :
    ∃ b' rest, clustersFrom [b] last cs = b' :: rest ∧ b.chars <+: b'.chars ∧
      b'.width ≤ b.width + if last.isSome then 1 else 0 := by
  induction last, cs using widthAfter.induct generalizing b with
  | case1 last => exact ⟨b, [], by simp [clustersFrom], List.prefix_rfl, Nat.le_add_right _ _⟩
  | case2 last =>
    exact ⟨⟨b.chars ++ [joiner], b.width⟩, [], by simp [clustersFrom, extendLast],
      List.prefix_append _ _, Nat.le_add_right _ _⟩
  | case3 last c rest ih =>
    obtain ⟨b', rest', heq, hchars, hwidth⟩ := ih ⟨b.chars ++ [joiner, c], b.width + 0⟩
    exact ⟨b', rest', by simpa [clustersFrom, extendLast] using heq,
      (List.prefix_append _ _).trans hchars, hwidth⟩
  | case4 last rest hjoiner ih =>
    rw [clustersFrom_cons hjoiner, if_pos rfl]
    obtain ⟨b', rest', heq, hchars, hwidth⟩ := ih ⟨b.chars ++ [pictureSelector],
      b.width + if last.any pictureCharacters.contains then 1 else 0⟩
    refine ⟨b', rest', heq, (List.prefix_append _ _).trans hchars, Nat.le_trans hwidth ?_⟩
    cases last with
    | none => exact Nat.le_refl _
    | some c => exact Nat.add_le_add_left (by simp; split <;> decide) b.width
  | case5 last c rest hjoiner hselector hzero ih =>
    rw [clustersFrom_cons hjoiner, if_neg hselector, if_pos hzero]
    obtain ⟨b', rest', heq, hchars, hwidth⟩ := ih ⟨b.chars ++ [c], b.width + 0⟩
    exact ⟨b', rest', heq, (List.prefix_append _ _).trans hchars, hwidth⟩
  | case6 last c rest hjoiner hselector hzero ih =>
    rw [clustersFrom_cons hjoiner, if_neg hselector, if_neg hzero, clustersFrom_cons_before]
    exact ⟨b, _, rfl, List.prefix_rfl, Nat.le_add_right _ _⟩

/-- The first clusters of a text that begins with a visible word hold the word, in one cell for each
of its characters and one more at most. -/
lemma exists_clusters_append (hword : ∀ c ∈ word, IsVisible c) (cs : List Char) :
    ∃ first rest, clusters (word ++ cs) = first ++ rest ∧
      word <+: first.flatMap Cluster.chars ∧ clusterCells first ≤ word.length + 1 := by
  induction word with
  | nil => exact ⟨[], _, rfl, List.prefix_rfl, Nat.zero_le _⟩
  | cons c word ih =>
    have hc := hword c List.mem_cons_self
    cases word with
    | nil =>
      rw [clusters, List.cons_append, hc.clustersFrom_cons, List.nil_append]
      obtain ⟨b, rest, heq, hchars, hwidth⟩ := exists_clustersFrom_singleton ⟨[c], 1⟩ (some c) cs
      exact ⟨[b], rest, heq, by simpa using hchars, by simpa [clusterCells] using hwidth⟩
    | cons d word =>
      obtain ⟨first, rest, heq, hchars, hcells⟩ :=
        ih fun c hc => hword c (List.mem_cons_of_mem _ hc)
      have hd := hword d (by simp)
      have hclusters : clusters (c :: d :: word ++ cs) =
          ⟨[c], 1⟩ :: clusters (d :: word ++ cs) := by
        simp only [clusters, List.cons_append, hc.clustersFrom_cons, hd.clustersFrom_cons]
        exact clustersFrom_cons_before _ _ _ _
      refine ⟨⟨[c], 1⟩ :: first, rest, by rw [hclusters, heq, List.cons_append], ?_, ?_⟩
      · simpa using hchars
      · simp only [clusterCells, List.length_cons] at hcells ⊢
        omega

/-! ### Lines -/

/-- The first one of some lines begins with a text. -/
def FirstBegins (word : List Char) (lines : List (List Char)) : Prop :=
  ∃ first rest, lines = first :: rest ∧ word <+: first

/-- Clusters for which a line has room are put on it. -/
lemma foldClusters_append (h : used + clusterCells first ≤ width) (line : List Char)
    (rest : List Cluster) :
    foldClusters width used line (first ++ rest) =
      foldClusters width (used + clusterCells first)
        (line ++ first.flatMap Cluster.chars) rest := by
  induction first generalizing used line with
  | nil => simp [clusterCells]
  | cons b first ih =>
    rw [clusterCells] at h ⊢
    rw [List.cons_append, foldClusters, if_pos (by omega), ih (by omega)]
    simp [Nat.add_assoc]

/-- The first line of clusters begins as it stood before. -/
lemma firstBegins_foldClusters (h : word <+: line) (used : Nat) (cs : List Cluster) :
    FirstBegins word
      ((foldClusters width used line cs).1 ++ [(foldClusters width used line cs).2]) := by
  induction cs generalizing used line with
  | nil => exact ⟨line, [], rfl, h⟩
  | cons b cs ih =>
    rw [foldClusters]
    split
    · exact ih (h.trans (List.prefix_append _ _)) _
    · exact ⟨line, _, rfl, h⟩

/-- The first line of words begins as it stood before. -/
lemma firstBegins_wrapWords (h : word <+: line) (hword : word ≠ []) (long : LongWords)
    (offset : Nat) (words : List (List Char)) :
    FirstBegins word (wrapWords long width offset line words) := by
  induction words generalizing offset line with
  | nil => exact ⟨line, [], rfl, h⟩
  | cons w words ih =>
    have hline : line ≠ [] := by
      rintro rfl
      exact hword (List.prefix_nil.mp h)
    rw [wrapWords, if_neg hline]
    split
    · exact ih (h.trans (List.prefix_append _ _)) _
    · rcases long.linesOf width w with ⟨full, last⟩
      exact ⟨line, _, rfl, h⟩

/-- The first line of a long word begins as the word does. -/
lemma firstBegins_linesOf (hword : ∀ c ∈ word, IsVisible c) (hwidth : word.length + 1 ≤ width)
    (cs : List Char) :
    FirstBegins word ((LongWords.fold.linesOf width (word ++ cs)).1 ++
      [(LongWords.fold.linesOf width (word ++ cs)).2]) := by
  unfold LongWords.linesOf
  split
  · exact ⟨word ++ cs, [], rfl, List.prefix_append _ _⟩
  · obtain ⟨first, rest, heq, hchars, hcells⟩ := exists_clusters_append hword cs
    rw [heq, foldClusters_append (by omega)]
    exact firstBegins_foldClusters hchars _ rest

/-- The first line of words begins as the first word does. -/
lemma firstBegins_wrapWords_cons (hword : ∀ c ∈ word, IsVisible c) (hne : word ≠ [])
    (hwidth : word.length + 1 ≤ width) (cs : List Char) (words : List (List Char)) :
    FirstBegins word (wrapWords .fold width 0 [] ((word ++ cs) :: words)) := by
  rw [wrapWords]
  split
  · exact firstBegins_wrapWords (List.prefix_append _ _) hne _ _ _
  · obtain ⟨line, rest, hlines, hline⟩ := firstBegins_linesOf hword hwidth cs
    rcases hlong : LongWords.fold.linesOf width (word ++ cs) with ⟨full, last⟩
    rw [hlong] at hlines
    dsimp only
    cases full with
    | nil =>
      obtain rfl := (List.cons.inj hlines).1
      exact firstBegins_wrapWords hline hne _ _ _
    | cons top full =>
      obtain rfl := (List.cons.inj hlines).1
      exact ⟨top, _, rfl, hline⟩

/-- The first word begins as it stood before. -/
lemma firstBegins_wordsFrom (word cs : List Char) : FirstBegins word (wordsFrom word cs) := by
  induction cs generalizing word with
  | nil => exact ⟨word, [], rfl, List.prefix_rfl⟩
  | cons c cs ih =>
    rw [wordsFrom]
    split
    · exact ⟨word, _, rfl, List.prefix_rfl⟩
    · obtain ⟨first, rest, heq, hfirst⟩ := ih (word ++ [c])
      exact ⟨first, rest, heq, (List.prefix_append _ _).trans hfirst⟩

/-- Visible characters are taken into a word that does not end with a blank. -/
lemma wordsFrom_append (hword : ∀ c ∈ word, IsVisible c) {front : List Char}
    (hfront : front.getLast?.any isSpacing = false) (cs : List Char) :
    wordsFrom front (word ++ cs) = wordsFrom (front ++ word) cs := by
  induction word generalizing front with
  | nil => rw [List.nil_append, List.append_nil]
  | cons c word ih =>
    have hc := hword c List.mem_cons_self
    rw [List.cons_append, wordsFrom, hfront, Bool.and_false, Bool.false_and,
      if_neg Bool.false_ne_true, ih (fun c hc => hword c (List.mem_cons_of_mem _ hc)),
      List.append_assoc, List.singleton_append]
    simpa using hc.isSpacing_eq

/-- The first of the words of a line begins with the visible characters that begin the line. -/
lemma firstBegins_lineWords (hword : ∀ c ∈ word, IsVisible c) (cs : List Char) :
    FirstBegins word (lineWords (word ++ cs)) := by
  rw [lineWords, wordsFrom_append hword rfl]
  exact firstBegins_wordsFrom word cs

/-- Blanks that give way leave a word that the line has room for. -/
lemma prefix_cropBlanks (h : word <+: line) (hwidth : word.length ≤ width) :
    word <+: cropBlanks width line := by
  have hlength := h.length_le
  refine List.prefix_take_iff.mpr ⟨h, ?_⟩
  omega

/-- Clusters that are cut keep those for which there is room. -/
lemma prefix_takeCells (h : clusterCells first < n) (rest : List Cluster) :
    first.flatMap Cluster.chars <+: takeCells n (first ++ rest) := by
  induction first generalizing n with
  | nil => exact List.nil_prefix
  | cons b first ih =>
    rw [clusterCells] at h
    rw [List.cons_append, takeCells, if_neg (by omega), if_pos (by omega), List.flatMap_cons]
    exact (List.prefix_append_right_inj _).mpr (ih (by omega))

/-- A text that is cut keeps the word that it begins with. -/
lemma prefix_takeCells_clusters (hword : ∀ c ∈ word, IsVisible c) (h : word <+: line)
    (hwidth : word.length + 1 < n) : word <+: takeCells n (clusters line) := by
  obtain ⟨cs, rfl⟩ := h
  obtain ⟨first, rest, heq, hchars, hcells⟩ := exists_clusters_append hword cs
  rw [heq]
  exact hchars.trans (prefix_takeCells (by omega) rest)

/-- A text that is brought to a width keeps the word that it begins with. -/
lemma prefix_cropCells (hword : ∀ c ∈ word, IsVisible c) (h : word <+: line)
    (hwidth : word.length + 1 < width) : word <+: cropCells width line := by
  unfold cropCells
  split
  · exact h
  · exact prefix_takeCells_clusters hword h hwidth

/-- A text that fills a width keeps the word that it begins with. -/
lemma prefix_fitCells (hword : ∀ c ∈ word, IsVisible c) (h : word <+: line)
    (hwidth : word.length + 2 < width) : word <+: fitCells width line := by
  unfold fitCells
  split
  · exact h.trans (List.prefix_append _ _)
  · exact (prefix_takeCells_clusters hword h (by omega)).trans (List.prefix_append _ _)

/-- A word that begins a line of a text begins a line of the text in a column. -/
lemma exists_mem_foldedLines (hword : ∀ c ∈ word, IsVisible c) (hne : word ≠ [])
    (hwidth : word.length + 1 < width) {s : String} (h : ∃ line ∈ screenLines s, word <+: line) :
    ∃ line ∈ foldedLines width s, word <+: line := by
  obtain ⟨line, hline, cs, rfl⟩ := h
  obtain ⟨w, words, hwords, more, rfl⟩ := firstBegins_lineWords hword cs
  have hlong : word.length + 1 ≤ width := by omega
  obtain ⟨top, rest, hlines, htop⟩ := firstBegins_wrapWords_cons hword hne hlong more words
  have hmem : cropBlanks width top ∈ wrappedLines .fold width s := by
    refine List.mem_flatMap.mpr ⟨word ++ cs, hline, List.mem_map.mpr ⟨top, ?_, rfl⟩⟩
    rw [hwords, hlines]
    exact List.mem_cons_self
  exact ⟨_, List.mem_map_of_mem hmem,
    prefix_cropCells hword (prefix_cropBlanks htop (by omega)) hwidth⟩

/-! ### Lines of a text -/

/-- The first piece of a text begins with the word that the text begins with. -/
lemma firstBegins_pieces {divides : Char → Bool} (hword : ∀ c ∈ word, divides c = false)
    (cs : List Char) : FirstBegins word (pieces divides (word ++ cs)) := by
  induction word with
  | nil =>
    obtain ⟨piece, rest, hpieces⟩ := List.exists_cons_of_ne_nil (pieces_ne_nil divides cs)
    exact ⟨piece, rest, hpieces, List.nil_prefix⟩
  | cons c word ih =>
    obtain ⟨piece, rest, hpieces, hpiece⟩ := ih fun c hc => hword c (List.mem_cons_of_mem _ hc)
    rw [List.cons_append, pieces, hword c List.mem_cons_self, hpieces]
    exact ⟨c :: piece, rest, rfl, List.cons_prefix_cons.mpr ⟨rfl, hpiece⟩⟩

/-- A line without its tabulators begins with the word that it begins with. -/
lemma prefix_expandTabs (hword : ∀ c ∈ word, IsVisible c) (cs : List Char) :
    word <+: expandTabs (word ++ cs) := by
  have htab : ∀ c ∈ word, (c == '\t') = false := fun c hc =>
    (hword c hc).beq_eq_false (by decide)
  obtain ⟨piece, rest, hpieces, hpiece⟩ := firstBegins_pieces htab cs
  rw [expandTabs, hpieces]
  cases rest with
  | nil => exact hpiece
  | cons next rest =>
    rw [joinAtStops, List.append_assoc, List.append_assoc]
    · exact hpiece.trans (List.prefix_append _ _)
    · exact List.cons_ne_nil next rest

/-- A word at the beginning of the second line of a text stands there on a screen too. -/
lemma exists_mem_screenLines (hword : ∀ c ∈ word, IsVisible c) {s : String}
    (h : '\n' :: word <+: s.toList) : ∃ line ∈ screenLines s, word <+: line := by
  obtain ⟨cs, hcs⟩ := h
  have hkept : dropControls (word ++ cs) = word ++ dropControls cs := by
    rw [dropControls, List.filter_append, List.filter_eq_self.mpr]
    · rfl
    · intro c hc
      rw [Bool.not_eq_true', List.contains_eq_mem, decide_eq_false_iff_not]
      exact fun hmem => absurd (hword c hc).1 (Nat.lt_asymm (toNat_lt_of_mem_cursorControls hmem))
  have hend : ∀ c ∈ word, (c == '\n') = false := fun c hc =>
    (hword c hc).beq_eq_false (by decide)
  obtain ⟨piece, rest, hpieces, more, rfl⟩ := firstBegins_pieces hend (dropControls cs)
  refine ⟨expandTabs (word ++ more), ?_, prefix_expandTabs hword more⟩
  refine List.mem_map_of_mem ?_
  have hdrop : dropControls ('\n' :: (word ++ cs)) = '\n' :: dropControls (word ++ cs) := rfl
  rw [← hcs, List.cons_append, hdrop, hkept, pieces,
    if_pos (beq_self_eq_true _), hpieces]
  simp

/-! ### Panels -/

namespace Incident

variable (i : Incident) (env : Environment) (logs : Path) (context : String)

/-- The cells of a terminal on which a panel has room for the name of every kind. -/
def nameRoom : Nat := 30

/-- The name of a kind is a word of visible characters. -/
lemma isVisible_name (k : FaultKind) : ∀ c ∈ k.name.toList, IsVisible c := by
  have hall : (k.name.toList.all fun c => 0x20 < c.toNat && c.toNat < 0x7F) = true := by
    cases k with
    | system error => cases error <;> decide
    | _ => decide
  intro c hc
  simpa [IsVisible] using List.all_eq_true.mp hall c hc

/-- A panel with room for names has it for the name of every kind, between its edges. -/
lemma length_name (k : FaultKind) :
    k.name.toList ≠ [] ∧ k.name.toList.length + 2 < nameRoom - 4 := by
  cases k with
  | system error => cases error <;> decide
  | _ => decide

/-- A line of the panel begins with the name of the kind. -/
lemma exists_mem_detailLines {width : Nat} (hwidth : nameRoom - 4 ≤ width) :
    ∃ line ∈ i.detailLines width logs, i.kind.name.toList <+: line := by
  have hword := isVisible_name i.kind
  obtain ⟨hne, hlength⟩ := length_name i.kind
  have hline : ∃ line ∈ foldedLines width
      (s!"\n{i.kind.name}: {i.text}\nLogs: {logs}\n\n" ++
        "Set SYNTHFORGE_DEBUG=1 for console trace."), i.kind.name.toList <+: line := by
    refine exists_mem_foldedLines hword hne (by omega) (exists_mem_screenLines hword ?_)
    simp [toString]
  obtain ⟨line, hline, hbegins⟩ := hline
  exact ⟨_, List.mem_map_of_mem hline, prefix_fitCells hword hbegins (by omega)⟩

/-- The panel names the kind when it has room for names. -/
lemma name_infix_panel (hroom : nameRoom ≤ env.panelWidth) :
    i.kind.name.toList <:+: (i.panel env logs context).toList := by
  obtain ⟨line, hline, hbegins⟩ := i.exists_mem_detailLines logs (Nat.sub_le_sub_right hroom 4)
  have hshown : line <:+: (panelLine line).toList := by
    refine ⟨"│ ".toList, " │".toList, ?_⟩
    simp [panelLine]
  have hpanel : (panelLine line ++ "\n").toList <:+: (i.panel env logs context).toList := by
    rw [panel, String.join_eq, String.toList_ofList]
    refine List.infix_of_mem_flatten (List.mem_map_of_mem (List.mem_map_of_mem ?_))
    simp only [List.map_append, List.mem_append]
    exact .inl (.inl (.inr (.inr (List.mem_map_of_mem hline))))
  rw [String.toList_append] at hpanel
  exact (hbegins.isInfix.trans hshown).trans ((List.prefix_append _ _).isInfix.trans hpanel)

/-- Without debugging a report away from a terminal is one line. -/
lemma plain_eq (h : env.debug = false) :
    i.plain env logs context =
      s!"{context} failed: {i.kind.name}: {i.text} (logs: {logs})\n" := by
  simp [plain, sentence, h, toString]

/-- The report on one line names the kind. -/
lemma name_infix_plain : i.kind.name.toList <:+: (i.plain env logs context).toList := by
  have hsentence : i.kind.name.toList <:+: (i.sentence context).toList := by
    refine ⟨(context ++ " failed: ").toList, (": " ++ i.text).toList, ?_⟩
    simp [sentence, toString]
  have hplain : (i.sentence context).toList <+: (i.plain env logs context).toList :=
    List.prefix_iff_eq_append.mpr (by simp [plain, toString])
  exact hsentence.trans hplain.isInfix

/-- A report names the kind, on a terminal that has room for names and away from one. -/
lemma name_infix_render (terminal : Bool) (hroom : terminal = true → nameRoom ≤ env.panelWidth) :
    i.kind.name.toList <:+: (i.render env logs context terminal).toList := by
  cases terminal with
  | false => exact i.name_infix_plain env logs context
  | true => exact i.name_infix_panel env logs context (hroom rfl)

end Incident

end SynthGraph
