import SynthGraph.Proofs.File.Decode
import SynthGraph.Proofs.Output.Written

/-!
# Files of their own

Without a bundle every generator is written to a file under its name.  A name is any short text:
slashes and dots in it say where the file is, so that different names may lead to one file, which
then holds the generator that was written last.  A generator keeps its file exactly when no later
one goes there, and there are as many files as generators exactly when every generator keeps its
own.  Names without slashes lead to files of their own.
-/

namespace SynthGraph

-- Powers are those of the core library, also where a larger library brings its own.
attribute [local instance (2000)] instPowNat

/-! ### Names without slashes -/

/-- A text without slashes, which is more than dots, is a path of one component. -/
lemma Path.ofString_of_plain {part : String} (hslash : '/' ∉ part.toList)
    (hlong : 1 < part.toList.length) : ofString part = ⟨.here, [part]⟩ := by
  have hone : ∀ c ∈ part.toList, (c == '/') = false := fun c hc =>
    beq_eq_false_iff_ne.mpr fun h => hslash (h ▸ hc)
  have hstep : isStep part = true := by
    unfold isStep
    rw [Bool.and_eq_true, bne_iff_ne, bne_iff_ne]
    constructor
    · rintro rfl
      exact absurd hlong (by decide)
    · rintro rfl
      exact absurd hlong (by decide)
  have hstart : startOf part.toList = .here := by
    unfold startOf
    split <;> simp_all
  rw [ofString, hstart, pieces_eq_singleton hone, List.map_singleton, String.ofList_toList,
    List.filter_cons_of_pos hstep]
  rfl

namespace Output

open Session FileSystem

variable {s s' : Session} {p : Path} {outDir : Path} {g g' : GeneratorSpec}
  {gs gs' later : List GeneratorSpec} {paths : List Path} {fs : FileSystem}
  {entries more : List (Path × List GeneratorSpec)}

/-- No file is called by the two dots that lead up. -/
lemma file_ne_up (name : String) : name ++ DefinitionFile.suffix ≠ ".." := by
  intro h
  have hlength := congrArg (fun s : String => s.toList.length) h
  rw [String.toList_append, List.length_append] at hlength
  have hsuffix : DefinitionFile.suffix.toList.length = 9 := by decide
  have hdots : "..".toList.length = 2 := by decide
  omega

/-- The file of a plain name is a path of one component. -/
lemma ofString_file_of_plain {name : String} (hplain : '/' ∉ name.toList) :
    Path.ofString (name ++ DefinitionFile.suffix) = ⟨.here, [name ++ DefinitionFile.suffix]⟩ := by
  refine Path.ofString_of_plain ?_ ?_
  · rw [String.toList_append, List.mem_append]
    rintro (h | h)
    · exact hplain h
    · exact absurd h (by decide)
  · have hsuffix : 1 < DefinitionFile.suffix.toList.length := by decide
    rw [String.toList_append, List.length_append]
    omega

/-- The definition file of a plain name is right in the directory. -/
lemma target_of_plain {name : String} (hplain : '/' ∉ name.toList) (outDir : Path) :
    target outDir name = ⟨outDir.start, outDir.parts ++ [name ++ DefinitionFile.suffix]⟩ := by
  rw [target, Path.child, ofString_file_of_plain hplain]
  rfl

/-- The definition file of a plain name is called by that name. -/
lemma getLast?_target_of_plain {name : String} (hplain : '/' ∉ name.toList) (outDir : Path) :
    (target outDir name).parts.getLast? = some (name ++ DefinitionFile.suffix) := by
  rw [target_of_plain hplain]
  exact List.getLast?_concat

/-- Paths that lead to the same place lead to one location. -/
lemma sameFile_eq_true_iff {q : Path} :
    sameFile fs p q = true ↔ ∃ loc, fs.locate p = .ok loc ∧ fs.locate q = .ok loc := by
  unfold sameFile
  rcases fs.locate p with dead | l
  · simp
  rcases fs.locate q with dead | l'
  · simp
  · simp only [beq_iff_eq, Except.ok.injEq]
    exact ⟨fun h => ⟨l, rfl, h.symm⟩, fun ⟨_, hl, hl'⟩ => hl.trans hl'.symm⟩

/-- Plain names that lead to one file are equal. -/
lemma eq_of_sameFile_of_plain {name name' : String} (hplain : '/' ∉ name.toList)
    (hplain' : '/' ∉ name'.toList)
    (hsame : sameFile fs (target outDir name) (target outDir name') = true) : name = name' := by
  obtain ⟨loc, hloc, hloc'⟩ := sameFile_eq_true_iff.mp hsame
  have hlast := getLast?_of_locate hloc (getLast?_target_of_plain hplain outDir) (file_ne_up name)
  have hlast' :=
    getLast?_of_locate hloc' (getLast?_target_of_plain hplain' outDir) (file_ne_up name')
  rw [hlast, Option.some_inj, ← String.toList_inj, String.toList_append, String.toList_append]
    at hlast'
  exact String.toList_inj.mp (List.append_cancel_right hlast')

/-! ### Bytes and names -/

/-- The bytes of generators are those of a file with their names. -/
lemma decode_of_bytes {content : List UInt8} (h : bytes gs = .ok content) :
    (DefinitionFile.decode content).map (·.definitions.map DefinitionContents.name) =
      some (gs.map GeneratorSpec.name) := by
  obtain ⟨ds, hds, hencode⟩ := bind_eq_ok.mp h
  obtain ⟨hlegal, rfl⟩ := DefinitionFile.isLegal_of_encode hencode
  rw [DefinitionFile.decode_of_isLegal hlegal, Option.map_some, List.map_map, Option.some_inj]
  exact map_eq_map_of_forall₂ (mapM_eq_ok_iff.mp hds).flip fun _ _ hbuild =>
    GeneratorSpec.name_of_build hbuild

/-- Files with the same bytes are files of generators with the same names. -/
lemma names_eq_of_bytes {content : List UInt8} (h : bytes gs = .ok content)
    (h' : bytes gs' = .ok content) :
    gs.map GeneratorSpec.name = gs'.map GeneratorSpec.name :=
  Option.some.inj ((decode_of_bytes h).symm.trans (decode_of_bytes h'))

/-! ### The last generator of a file -/

/-- Which generators come last on a file in two lists. -/
lemma lastOn_append (fs : FileSystem) (entries more : List (Path × List GeneratorSpec)) (p : Path) :
    lastOn fs (entries ++ more) p = (lastOn fs more p).or (lastOn fs entries p) := by
  induction entries with
  | nil => exact (Option.or_none).symm
  | cons entry entries ih => rw [List.cons_append, lastOn_cons, lastOn_cons, ih, Option.or_assoc]

/-- No generators come last on a file to which no entry leads. -/
lemma lastOn_eq_none_iff :
    lastOn fs entries p = none ↔ ∀ entry ∈ entries, sameFile fs entry.1 p = false := by
  rw [lastOn, Option.map_eq_none_iff, List.findRev?_eq_find?_reverse, List.find?_eq_none]
  simp

/-- The generators that come last on a file lead to it. -/
lemma exists_of_lastOn {last : List GeneratorSpec} (h : lastOn fs entries p = some last) :
    ∃ entry ∈ entries, entry.2 = last ∧ sameFile fs entry.1 p = true := by
  obtain ⟨entry, hfind, rfl⟩ := Option.map_eq_some_iff.mp h
  rw [List.findRev?_eq_find?_reverse] at hfind
  have hsame := List.find?_some hfind
  exact ⟨entry, List.mem_reverse.mp (List.mem_of_find?_eq_some hfind), rfl, hsame⟩

/-- The file of a generator holds the bytes of its own definition. -/
def HoldsOwn (fs : FileSystem) (outDir : Path) (g : GeneratorSpec) : Prop :=
  ∃ content, bytes [g] = .ok content ∧ fs.read (target outDir g.name) = .ok content

/-- After a run without a bundle the file of a generator holds its own bytes, unless a later one
leads there; then it holds those of a later one. -/
lemma read_target_of_writeAll (h : (writeAll gs outDir none).apply s = (.ok paths, s'))
    (hlogs : s.LogsApart) (hgs : g :: later <:+ gs) :
    (HoldsOwn s'.files outDir g ∧
        ∀ g' ∈ later, sameFile s'.files (target outDir g'.name) (target outDir g.name) = false) ∨
      ∃ g' ∈ later, sameFile s'.files (target outDir g'.name) (target outDir g.name) = true ∧
        ∃ content, bytes [g'] = .ok content ∧
          s'.files.read (target outDir g.name) = .ok content := by
  obtain ⟨before, rfl⟩ := hgs
  obtain ⟨ds, -, -, -, writes, hstored, hleaves⟩ := writes_of_writeAll h
  have hplan : plan (before ++ g :: later) outDir none =
      plan before outDir none ++ (target outDir g.name, [g]) :: plan later outDir none := by
    simp [plan]
  have hentry : (target outDir g.name, [g]) ∈ plan (before ++ g :: later) outDir none := by
    simp [hplan]
  obtain ⟨write, -, hnames, -⟩ := exists_mem_of_forall₂ hstored hentry
  have hself : sameFile s'.files (target outDir g.name) (target outDir g.name) = true :=
    sameFile_eq_true_iff.mpr ⟨_, hnames.located, hnames.located⟩
  obtain ⟨last, content, hlast, hbytes, hread⟩ := read_of_leaves hlogs hstored hleaves hentry
  rw [hplan, lastOn_append, lastOn_cons, if_pos hself, Option.or_assoc, Option.some_or] at hlast
  rcases hlater : lastOn s'.files (plan later outDir none) (target outDir g.name) with _ | last'
  · rw [hlater, Option.none_or, Option.some_inj] at hlast
    subst hlast
    refine .inl ⟨⟨content, hbytes, hread⟩, fun g' hg' => ?_⟩
    exact lastOn_eq_none_iff.mp hlater (target outDir g'.name, [g']) (List.mem_map_of_mem hg')
  · rw [hlater, Option.some_or, Option.some_inj] at hlast
    subst hlast
    obtain ⟨entry, hentry, rfl, hsame⟩ := exists_of_lastOn hlater
    obtain ⟨g', hg', rfl⟩ := List.mem_map.mp hentry
    exact .inr ⟨g', hg', hsame, content, hbytes, hread⟩

/-- Where the names are distinct, a generator keeps its file exactly when no later one goes
there. -/
lemma holdsOwn_iff_of_writeAll (h : (writeAll gs outDir none).apply s = (.ok paths, s'))
    (hlogs : s.LogsApart) (hnames : (gs.map GeneratorSpec.name).Nodup) (hgs : g :: later <:+ gs) :
    HoldsOwn s'.files outDir g ↔
      ∀ g' ∈ later, sameFile s'.files (target outDir g'.name) (target outDir g.name) = false := by
  rcases read_target_of_writeAll h hlogs hgs with
    ⟨hown, hlast⟩ | ⟨g', hg', hsame, content, hbytes, hread⟩
  · exact iff_of_true hown hlast
  · refine iff_of_false ?_ fun hlast => Bool.false_ne_true ((hlast g' hg').symm.trans hsame)
    rintro ⟨own, hown, hread'⟩
    obtain rfl : own = content := Except.ok.inj (hread'.symm.trans hread)
    have hname : g.name = g'.name := by simpa using names_eq_of_bytes hown hbytes
    have hdistinct := (hgs.map GeneratorSpec.name).sublist.nodup hnames
    rw [List.map_cons, List.nodup_cons, hname] at hdistinct
    exact hdistinct.1 (List.mem_map_of_mem hg')

/-! ### As many files as generators -/

/-- What a run without a bundle leaves of each generator. -/
structure FilesOfOwn (gs : List GeneratorSpec) (outDir : Path) (paths : List Path)
    (fs : FileSystem) : Prop where
  /-- The paths are those of the names, in order. -/
  planned : paths = gs.map fun g => target outDir g.name
  /-- A generator keeps its file exactly when no later one goes there. -/
  keeps_iff : ∀ g later, g :: later <:+ gs → (HoldsOwn fs outDir g ↔
    ∀ g' ∈ later, sameFile fs (target outDir g'.name) (target outDir g.name) = false)
  /-- There are as many files as generators exactly when all keep their own. -/
  count_iff : ∃ locs, List.Forall₂ (fun p loc => fs.Names p loc) paths locs ∧
    (locs.Nodup ↔ ∀ g ∈ gs, HoldsOwn fs outDir g)
  /-- Generators whose names have no slash all keep their own. -/
  plain : (∀ g ∈ gs, '/' ∉ g.name.toList) → ∀ g ∈ gs, HoldsOwn fs outDir g

/-- The files are different ones when none of them is written to again. -/
lemma nodup_iff_forall_holdsOwn {locs : List Location}
    (hlocs : List.Forall₂ (fun g loc => fs.locate (target outDir g.name) = .ok loc) gs locs)
    (hkeeps : ∀ g later, g :: later <:+ gs → (HoldsOwn fs outDir g ↔
      ∀ g' ∈ later, sameFile fs (target outDir g'.name) (target outDir g.name) = false)) :
    locs.Nodup ↔ ∀ g ∈ gs, HoldsOwn fs outDir g := by
  induction hlocs with
  | nil => simp
  | @cons g loc later locs hloc hlater ih =>
    have hapart : loc ∉ locs ↔
        ∀ g' ∈ later, sameFile fs (target outDir g'.name) (target outDir g.name) = false := by
      constructor
      · intro hfresh g' hg'
        obtain ⟨loc', hloc', hlocated⟩ := exists_mem_of_forall₂ hlater hg'
        rw [← Bool.not_eq_true, sameFile_eq_true_iff]
        rintro ⟨_, hsame, hsame'⟩
        obtain rfl := Except.ok.inj (hlocated.symm.trans hsame)
        obtain rfl := Except.ok.inj (hloc.symm.trans hsame')
        exact hfresh hloc'
      · intro hlast hmem
        obtain ⟨g', hg', hlocated⟩ := exists_mem_of_forall₂ hlater.flip hmem
        have hsame := sameFile_eq_true_iff.mpr ⟨loc, hlocated, hloc⟩
        rw [hlast g' hg'] at hsame
        cases hsame
    rw [List.nodup_cons, List.forall_mem_cons, hapart, ← hkeeps g later (List.suffix_refl _),
      ih fun g' later' hsuffix => hkeeps g' later' (hsuffix.trans (List.suffix_cons g later))]

/-- One file for each generator.  Whatever distinct names the generators have, a run without a
bundle that succeeds returns a path for each of them; the file of a generator holds exactly its own
bytes when no later name leads there, and otherwise those bytes are lost.  There are as many files
as generators exactly when none is lost, and none is lost when the names are without slashes. -/
theorem filesOfOwn_of_writeAll (h : (writeAll gs outDir none).apply s = (.ok paths, s'))
    (hlogs : s.LogsApart) (hnames : (gs.map GeneratorSpec.name).Nodup) :
    FilesOfOwn gs outDir paths s'.files := by
  have hkeeps (g later) (hgs : g :: later <:+ gs) :=
    holdsOwn_iff_of_writeAll h hlogs hnames hgs
  obtain ⟨ds, -, hpaths, -, writes, hstored, -⟩ := writes_of_writeAll h
  have hplanned : paths = gs.map fun g => target outDir g.name := by
    simp [hpaths, plan]
  constructor
  case planned => exact hplanned
  case keeps_iff => exact hkeeps
  case count_iff =>
    have hplaces : List.Forall₂ (fun g loc => s'.files.Names (target outDir g.name) loc) gs
        (writes.map Prod.fst) :=
      List.forall₂_map_right_iff.mpr
        ((List.forall₂_map_left_iff.mp hstored).imp fun _ _ hwrite => hwrite.1)
    refine ⟨writes.map Prod.fst, ?_, nodup_iff_forall_holdsOwn
      (hplaces.imp fun _ _ hnames => hnames.located) hkeeps⟩
    rw [hplanned]
    exact List.forall₂_map_left_iff.mpr hplaces
  case plain =>
    intro hplain g hg
    obtain ⟨before, later, rfl⟩ := List.append_of_mem hg
    refine (hkeeps g later ⟨before, rfl⟩).mpr fun g' hg' => ?_
    have hmem : g' ∈ before ++ g :: later := by simp [hg']
    rw [← Bool.not_eq_true]
    intro hsame
    have hname := eq_of_sameFile_of_plain (hplain g' hmem) (hplain g hg) hsame
    rw [List.map_append, List.map_cons] at hnames
    have hdistinct := (List.nodup_append.mp hnames).2.1
    rw [List.nodup_cons, ← hname] at hdistinct
    exact hdistinct.1 (List.mem_map_of_mem hg')

/-! ### Names that lead to one file -/

/-- Where every name leads to a file that is there already, generators that can be built are written
and no kind changes. -/
lemma apply_writeAll_of_names (hlogs : s.LogsOpen)
    (hgs : ∀ g ∈ gs, (∃ d, g.build = .ok d) ∧ g.parameterNames.length < 2 ^ (28 : Nat) ∧
      ∃ loc, s.files.Names (target outDir g.name) loc) :
    ∃ s', (writeAll gs outDir none).apply s = (.ok (gs.map fun g => target outDir g.name), s') ∧
      SameKinds s.files s'.files := by
  have hstored : ∃ ds writes, List.Forall₂ (fun g d => g.build = .ok d) gs ds ∧
      List.Forall₂ (fun g write => Stored s.files (target outDir g.name, [g]) write) gs writes := by
    induction gs with
    | nil => exact ⟨[], [], .nil, .nil⟩
    | cons g gs ih =>
      rw [List.forall_mem_cons] at hgs
      obtain ⟨⟨⟨d, hd⟩, hcount, loc, hnames⟩, hrest⟩ := hgs
      obtain ⟨content, hcontent⟩ := exists_bytes_of_build hd hcount
      obtain ⟨ds, writes, hds, hwrites⟩ := ih hrest
      exact ⟨d :: ds, (loc, content) :: writes, .cons hd hds, .cons ⟨hnames, hcontent⟩ hwrites⟩
  obtain ⟨ds, writes, hds, hwrites⟩ := hstored
  have hplan : List.Forall₂ (Stored s.files) (plan gs outDir none) writes :=
    List.forall₂_map_left_iff.mpr hwrites
  obtain ⟨s', hrun, hkinds⟩ := apply_writeAll_of_stored hds hlogs hplan
  exact ⟨s', by rw [hrun]; simp [plan], hkinds⟩

/-- A session with a log file, in which two definition files and a directory are there. -/
def studio : Session :=
  { workshop with
    files := { workshop.files with
      entries := workshop.files.entries ++ [(["home", "out", "hiss.scsyndef"], .file [])] } }

/-- The log file of the studio is there. -/
lemma logsOpen_studio : studio.LogsOpen := by
  intro loc hloc
  obtain rfl : loc = ["home", "synthforge.log"] := List.mem_singleton.mp hloc
  exact .inr rfl

/-- Three names lead to the files of the studio. -/
lemma exists_names_studio : ∀ name ∈ ["tone", "hiss", "x/../tone"],
    ∃ loc, studio.files.Names (target twinsDir name) loc := by
  simp only [List.forall_mem_cons]
  exact ⟨⟨_, rfl, rfl, rfl, rfl, fun _ => ⟨_, rfl, rfl⟩⟩,
    ⟨_, rfl, rfl, rfl, rfl, fun _ => ⟨_, rfl, rfl⟩⟩,
    ⟨_, rfl, rfl, rfl, rfl, fun _ => ⟨_, rfl, rfl⟩⟩, List.forall_mem_nil _⟩

/-- Runs in the studio succeed for generators that can be built and whose names lead to its
files. -/
lemma exists_writeAll_studio
    (hgs : ∀ g ∈ gs, g.build.isOk = true ∧ g.parameterNames.length < 2 ^ (28 : Nat) ∧
      g.name ∈ ["tone", "hiss", "x/../tone"]) :
    ∃ s', (writeAll gs twinsDir none).apply studio =
        (.ok (gs.map fun g => target twinsDir g.name), s') ∧
      SameKinds studio.files s'.files := by
  refine apply_writeAll_of_names logsOpen_studio fun g hg => ?_
  obtain ⟨hbuilds, hcount, hname⟩ := hgs g hg
  exact ⟨exists_eq_ok_of_isOk hbuilds, hcount, exists_names_studio g.name hname⟩

/-- Two generators with plain names. -/
def tones : List GeneratorSpec :=
  [⟨"tone", "WhiteNoise", []⟩, ⟨"hiss", "PinkNoise", [⟨"amp", .ofInt 1, .amp, none, none⟩]⟩]

/-- Both generators with plain names keep their files. -/
theorem filesOfOwn_of_writeAll_tones :
    ∃ paths s', (writeAll tones twinsDir none).apply studio = (.ok paths, s') ∧
      studio.LogsApart ∧ (tones.map GeneratorSpec.name).Nodup ∧
      FilesOfOwn tones twinsDir paths s'.files ∧
      ∀ g ∈ tones, HoldsOwn s'.files twinsDir g := by
  obtain ⟨s', hrun, -⟩ := exists_writeAll_studio
    (show ∀ g ∈ tones, _ from by decide +kernel)
  have hfiles := filesOfOwn_of_writeAll hrun logsApart_workshop (by decide)
  exact ⟨_, s', hrun, logsApart_workshop, by decide, hfiles, hfiles.plain (by decide)⟩

/-- The twins have distinct names, and the run for them succeeds, but the file of the first one does
not hold its bytes: both names lead to one file, and the second one is written last. -/
theorem not_holdsOwn_twins :
    (twins.map GeneratorSpec.name).Nodup ∧ studio.LogsApart ∧
      ∃ paths s', (writeAll twins twinsDir none).apply studio = (.ok paths, s') ∧
        ¬HoldsOwn s'.files twinsDir ⟨"tone", "WhiteNoise", []⟩ := by
  obtain ⟨s', hrun, hkinds⟩ := exists_writeAll_studio
    (show ∀ g ∈ twins, _ from by decide +kernel)
  have hkeeps := holdsOwn_iff_of_writeAll hrun logsApart_workshop (by decide)
    (List.suffix_refl twins)
  have hsame : sameFile s'.files (target twinsDir "x/../tone") (target twinsDir "tone") = true := by
    rw [sameFile, hkinds.locate_eq, hkinds.locate_eq]
    decide +kernel
  refine ⟨by decide, logsApart_workshop, _, s', hrun, fun hown => ?_⟩
  have hapart := hkeeps.mp hown _ List.mem_cons_self
  exact Bool.false_ne_true (hapart.symm.trans hsame)

end Output

end SynthGraph
