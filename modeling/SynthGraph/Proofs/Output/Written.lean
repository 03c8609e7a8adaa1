import SynthGraph.Proofs.Generator.Counts
import SynthGraph.Proofs.Output.Targets
import SynthGraph.Proofs.Output.Writing

/-!
# What a successful run leaves

A run that succeeds returns the paths of its files.  Afterwards the file that a path names holds the
bytes of the last generators that were written to that file, whatever paths name it; no other
regular file away from the log files has changed.  The same run once more returns the same paths and
changes nothing.
-/

namespace SynthGraph

-- Powers are those of the core library, also where a larger library brings its own.
attribute [local instance (2000)] instPowNat

/-- What stands in the first of two related lists is related to something in the second. -/
lemma exists_mem_of_forall₂ {α β : Type} {R : α → β → Prop} {xs : List α} {ys : List β}
    (h : List.Forall₂ R xs ys) {x : α} (hx : x ∈ xs) : ∃ y ∈ ys, R x y := by
  induction h with
  | nil => cases hx
  | @cons x' y xs ys hxy _ ih =>
    rcases List.mem_cons.mp hx with rfl | hx
    · exact ⟨y, List.mem_cons_self, hxy⟩
    · obtain ⟨y', hy', hrel⟩ := ih hx
      exact ⟨y', List.mem_cons_of_mem _ hy', hrel⟩

namespace Output

open Session FileSystem

variable {s s' t : Session} {p : Path} {outDir : Path} {bundleName : Option String}
  {gs : List GeneratorSpec} {ds : List Definition} {paths : List Path} {fs : FileSystem}
  {loc : Location} {entries : List (Path × List GeneratorSpec)}
  {writes : List (Location × List UInt8)}

/-! ### Which file holds what -/

/-- Every generator that is among those that are built has a definition. -/
lemma forall_built (h : List.Forall₂ (fun g d => g.build = .ok d) gs ds) :
    ∀ g ∈ gs, ∃ d, g.build = .ok d := by
  intro g hg
  obtain ⟨d, -, hbuild⟩ := exists_mem_of_forall₂ h hg
  exact ⟨d, hbuild⟩

/-- The files of a run, each with the generators whose definitions are written to it: one for each
generator under its name, or one bundle for all of them. -/
def plan (gs : List GeneratorSpec) (outDir : Path) (bundleName : Option String) :
    List (Path × List GeneratorSpec) :=
  match bundleName with
  | none => gs.map fun g => (target outDir g.name, [g])
  | some name => if gs.isEmpty then [] else [(target outDir name, gs)]

/-- No generators go to no files. -/
lemma plan_nil (outDir : Path) (bundleName : Option String) : plan [] outDir bundleName = [] := by
  cases bundleName <;> rfl

/-- All generators go to the bundle. -/
lemma plan_bundle (hgs : gs ≠ []) (outDir : Path) (name : String) :
    plan gs outDir (some name) = [(target outDir name, gs)] :=
  if_neg (by simpa using hgs)

/-- Two paths lead to the same place. -/
def sameFile (fs : FileSystem) (p q : Path) : Bool :=
  match fs.locate p, fs.locate q with
  | .ok l, .ok l' => l == l'
  | _, _ => false

/-- The generators that come last among those that are written to the file of a path. -/
def lastOn (fs : FileSystem) (entries : List (Path × List GeneratorSpec)) (p : Path) :
    Option (List GeneratorSpec) :=
  (entries.findRev? fun entry => sameFile fs entry.1 p).map Prod.snd

/-- The last ones of a longer list. -/
lemma lastOn_cons (fs : FileSystem) (entry : Path × List GeneratorSpec)
    (entries : List (Path × List GeneratorSpec)) (p : Path) :
    lastOn fs (entry :: entries) p =
      (lastOn fs entries p).or (if sameFile fs entry.1 p then some entry.2 else none) := by
  unfold lastOn
  rw [List.findRev?_eq_find?_reverse, List.findRev?_eq_find?_reverse, List.reverse_cons,
    List.find?_append, Option.map_or, List.find?_singleton]
  by_cases h : sameFile fs entry.1 p
  · rw [if_pos h, if_pos h]
    rfl
  · rw [if_neg h, if_neg h]
    rfl

/-- Which generators come last on a file depends on the kinds of the entries. -/
lemma lastOn_of_sameKinds {fs' : FileSystem} (h : SameKinds fs fs')
    (entries : List (Path × List GeneratorSpec)) (p : Path) :
    lastOn fs' entries p = lastOn fs entries p := by
  simp only [lastOn, sameFile, h.locate_eq]

/-- A path that is among the entries has generators that are written to its file. -/
lemma isSome_lastOn {entry : Path × List GeneratorSpec} (hentry : entry ∈ entries)
    (hloc : fs.locate entry.1 = .ok loc) : (lastOn fs entries entry.1).isSome := by
  have hsame : sameFile fs entry.1 entry.1 = true := by
    unfold sameFile
    rw [hloc]
    exact beq_self_eq_true loc
  induction entries with
  | nil => cases hentry
  | cons first rest ih =>
    rw [lastOn_cons]
    rcases List.mem_cons.mp hentry with rfl | hrest
    · rw [if_pos hsame, Option.isSome_or, Option.isSome_some, Bool.or_true]
    · rw [Option.isSome_or, ih hrest, Bool.true_or]

/-- After the files of a plan were stored, the file of a path holds the bytes of the generators that
come last on it. -/
lemma contentAfter_eq_lastOn (h : List.Forall₂ (Stored fs) entries writes)
    (hloc : fs.locate p = .ok loc) (old : Option (List UInt8)) :
    contentAfter old writes loc = old ∧ lastOn fs entries p = none ∨
      ∃ last content, lastOn fs entries p = some last ∧ bytes last = .ok content ∧
        contentAfter old writes loc = some content := by
  induction h generalizing old with
  | nil => exact .inl ⟨rfl, rfl⟩
  | @cons entry write entries writes hstored _ ih =>
    have hsame : sameFile fs entry.1 p = true ↔ write.1 = loc := by
      unfold sameFile
      rw [hstored.1.located, hloc]
      exact beq_iff_eq
    have hstep : contentAfter old (write :: writes) loc =
        contentAfter (if write.1 = loc then some write.2 else old) writes loc := rfl
    rw [lastOn_cons, hstep]
    rcases ih (if write.1 = loc then some write.2 else old) with
      ⟨hkept, hnone⟩ | ⟨last, content, hlast, hbytes, hcontent⟩
    · rw [hkept, hnone, Option.none_or]
      by_cases hwrite : write.1 = loc
      · rw [if_pos hwrite, if_pos (hsame.mpr hwrite)]
        exact .inr ⟨entry.2, write.2, rfl, hstored.2, rfl⟩
      · rw [if_neg hwrite, if_neg (mt hsame.mp hwrite)]
        exact .inl ⟨rfl, rfl⟩
    · exact .inr ⟨last, content, by rw [hlast, Option.some_or], hbytes, hcontent⟩

/-! ### A run that succeeds -/

/-- The path of every file of a run is that of a definition file. -/
lemma exists_target_of_mem_plan {entry : Path × List GeneratorSpec}
    (h : entry ∈ plan gs outDir bundleName) : ∃ name, entry.1 = target outDir name := by
  cases bundleName with
  | none =>
    obtain ⟨g, -, rfl⟩ := List.mem_map.mp h
    exact ⟨g.name, rfl⟩
  | some name =>
    cases gs with
    | nil => cases h
    | cons g gs =>
      obtain rfl := List.mem_singleton.mp h
      exact ⟨name, rfl⟩

/-- A run that succeeds stores the files of its plan. -/
lemma writes_of_writeAll (h : (writeAll gs outDir bundleName).apply s = (.ok paths, s')) :
    ∃ ds, List.Forall₂ (fun g d => g.build = .ok d) gs ds ∧
      paths = (plan gs outDir bundleName).map Prod.fst ∧ s'.LogsOpen ∧ ∃ writes,
        List.Forall₂ (Stored s'.files) (plan gs outDir bundleName) writes ∧
        Leaves s.logFiles paths writes s.files s'.files := by
  rcases hbuild : gs.mapM GeneratorSpec.build with e | ds
  · obtain ⟨rs, hrun⟩ := apply_writeAll_of_fault hbuild outDir bundleName s
    rw [hrun] at h
    cases h
  · have hds := mapM_eq_ok_iff.mp hbuild
    refine ⟨ds, hds, ?_⟩
    by_cases hgs : gs = []
    · subst hgs
      obtain ⟨r, hrun⟩ := apply_writeAll_nil outDir bundleName s
      rw [hrun] at h
      cases h
      rw [plan_nil]
      exact ⟨rfl, logsOpen_log s r, [], .nil, .of_agreesOff (agreesOff_log s r) []⟩
    · cases bundleName with
      | none =>
        obtain ⟨rs, hrs, hrun⟩ := apply_writeAll_each hds hgs outDir s
        rw [hrun] at h
        obtain ⟨rfl, writes, hstored, hwrites⟩ :=
          writes_of_writeEach hds (logsOpen_logAll rs (.inl hrs)) h
        exact ⟨by simp [plan], hwrites.logsOpen, writes, List.forall₂_map_left_iff.mpr hstored,
          hwrites.leaves_of_logAll⟩
      | some name =>
        obtain ⟨rs, hrs, hrun⟩ := apply_writeAll_bundle hds hgs outDir name s
        rw [hrun] at h
        rcases hfile : (writeFile (target outDir name) ds).apply (s.logAll rs) with
          ⟨_ | path, s₁⟩ <;> rw [hfile] at h <;> cases h
        obtain ⟨rfl, write, hnames, hbytes, hwrites⟩ :=
          writes_of_writeFile (logsOpen_logAll rs (.inl hrs)) hfile
        rw [← bytes_of_built hds] at hbytes
        rw [plan_bundle hgs]
        exact ⟨rfl, hwrites.logsOpen, [write], .cons ⟨hnames, hbytes⟩ .nil,
          hwrites.leaves_of_logAll⟩

/-- A run whose files are stored already succeeds and changes no kind. -/
lemma apply_writeAll_of_stored (hbuilt : List.Forall₂ (fun g d => g.build = .ok d) gs ds)
    (hlogs : s.LogsOpen)
    (hstored : List.Forall₂ (Stored s.files) (plan gs outDir bundleName) writes) :
    ∃ s', (writeAll gs outDir bundleName).apply s =
        (.ok ((plan gs outDir bundleName).map Prod.fst), s') ∧
      SameKinds s.files s'.files := by
  by_cases hgs : gs = []
  · subst hgs
    obtain ⟨r, hrun⟩ := apply_writeAll_nil outDir bundleName s
    exact ⟨_, by rw [hrun, plan_nil]; rfl, hlogs.sameKinds_log r⟩
  · cases bundleName with
    | none =>
      obtain ⟨rs, hrs, hrun⟩ := apply_writeAll_each hbuilt hgs outDir s
      have hkinds := hlogs.sameKinds_logAll rs
      obtain ⟨s', hwrite, hkinds'⟩ := apply_writeEach_of_stored hbuilt
        (logsOpen_logAll rs (.inl hrs))
        ((List.forall₂_map_left_iff.mp hstored).imp fun _ _ h => h.mono hkinds.grows)
      exact ⟨s', by rw [hrun, hwrite]; simp [plan], hkinds.trans hkinds'⟩
    | some name =>
      obtain ⟨rs, hrs, hrun⟩ := apply_writeAll_bundle hbuilt hgs outDir name s
      rw [plan_bundle hgs] at hstored ⊢
      obtain ⟨write, _, ⟨hnames, hbytes⟩, -, -⟩ := List.forall₂_cons_left_iff.mp hstored
      have hkinds := hlogs.sameKinds_logAll rs
      rw [bytes_of_built hbuilt] at hbytes
      obtain ⟨s', hwrite, -, hkinds'⟩ := apply_writeFile_of_names
        (logsOpen_logAll rs (.inl hrs)) (hnames.mono hkinds.grows) hbytes
      exact ⟨s', by rw [hrun, hwrite]; rfl, hkinds.trans hkinds'⟩

/-- What a run that succeeds leaves. -/
structure Written (gs : List GeneratorSpec) (outDir : Path) (bundleName : Option String)
    (s : Session) (paths : List Path) (s' : Session) : Prop where
  /-- The paths are those of the plan, in order. -/
  planned : paths = (plan gs outDir bundleName).map Prod.fst
  /-- The file that a path names holds the bytes of the last generators that go to that file. -/
  content : ∀ p ∈ paths, ∃ last content,
    lastOn s'.files (plan gs outDir bundleName) p = some last ∧ bytes last = .ok content ∧
      s'.files.read p = .ok content
  /-- No other regular file is made, changed or taken away. -/
  others : ∀ l ∉ s.logFiles, (∀ p ∈ paths, s'.files.locate p ≠ .ok l) →
    s'.files.content? l = s.files.content? l
  /-- Directories stay. -/
  kept : ∀ l ∉ s.logFiles, s.files.entry? l = some .directory → s'.files.entry? l = some .directory
  /-- New directories are on the way to the files. -/
  made : ∀ l ∉ s.logFiles, s'.files.entry? l = some .directory →
    s.files.entry? l = some .directory ∨
      s.files.entry? l = none ∧ ∃ p ∈ paths, s'.files.OnWay p.parent l
  /-- For no generators nothing is done. -/
  nothing : gs = [] → paths = [] ∧ AgreesOff s.logFiles s.files s'.files
  /-- The log files are there. -/
  logsOpen : s'.LogsOpen
  /-- The same run on the file system that is left, with any log files that are there, returns the
  same paths and changes nothing. -/
  again : ∀ t : Session, t.files = s'.files → t.LogsOpen →
    ∃ t', (writeAll gs outDir bundleName).apply t = (.ok paths, t') ∧
      AgreesOff t.logFiles t.files t'.files

/-- Stored files are told by their paths. -/
lemma eq_of_stored {writes' : List (Location × List UInt8)}
    (h : List.Forall₂ (Stored fs) entries writes) (h' : List.Forall₂ (Stored fs) entries writes') :
    writes = writes' := by
  induction h generalizing writes' with
  | nil =>
    cases h'
    rfl
  | @cons entry write _ _ hhead _ ih =>
    obtain ⟨write', writes', hhead', htail', rfl⟩ := List.forall₂_cons_left_iff.mp h'
    have hloc : write.1 = write'.1 := hhead.1.unique hhead'.1
    have hcontent : write.2 = write'.2 := Except.ok.inj (hhead.2.symm.trans hhead'.2)
    rw [ih htail', Prod.ext hloc hcontent]

/-- Every write of a run goes to the location of one of its paths, which is no log file. -/
lemma notMem_logFiles_of_stored (hlogs : s.LogsApart)
    (hstored : List.Forall₂ (Stored fs) (plan gs outDir bundleName) writes) :
    ∀ write ∈ writes, write.1 ∉ s.logFiles ∧
      ∃ p ∈ (plan gs outDir bundleName).map Prod.fst, fs.locate p = .ok write.1 := by
  intro write hwrite
  obtain ⟨entry, hentry, hnames, -⟩ := exists_mem_of_forall₂ hstored.flip hwrite
  obtain ⟨name, hname⟩ := exists_target_of_mem_plan hentry
  have hlocated := hnames.located
  refine ⟨?_, entry.1, List.mem_map_of_mem hentry, hlocated⟩
  rw [hname] at hlocated
  exact hlogs.notMem_of_locate_target hlocated

/-- After a run, the file of a path holds the bytes of the generators that come last on it. -/
lemma read_of_leaves (hlogs : s.LogsApart)
    (hstored : List.Forall₂ (Stored fs) (plan gs outDir bundleName) writes)
    (hleaves : Leaves s.logFiles paths writes s.files fs) {entry : Path × List GeneratorSpec}
    (hentry : entry ∈ plan gs outDir bundleName) :
    ∃ last content, lastOn fs (plan gs outDir bundleName) entry.1 = some last ∧
      bytes last = .ok content ∧ fs.read entry.1 = .ok content := by
  obtain ⟨write, hwrite, hnames, -⟩ := exists_mem_of_forall₂ hstored hentry
  have hcontent := hleaves.content write.1 (notMem_logFiles_of_stored hlogs hstored write hwrite).1
  rcases contentAfter_eq_lastOn hstored hnames.located (s.files.content? write.1) with
    ⟨-, hnone⟩ | ⟨last, content, hlast, hbytes, hafter⟩
  · have hsome := isSome_lastOn hentry hnames.located
    rw [hnone] at hsome
    cases hsome
  · exact ⟨last, content, hlast, hbytes, hnames.read_eq (hcontent.trans hafter)⟩

/-- When the files of a run are stored and hold what is written last, the run changes nothing. -/
lemma apply_writeAll_again (hbuilt : List.Forall₂ (fun g d => g.build = .ok d) gs ds)
    (hlogs : s.LogsOpen)
    (hstored : List.Forall₂ (Stored s.files) (plan gs outDir bundleName) writes)
    (hlast : ∀ l ∉ s.logFiles, contentAfter (s.files.content? l) writes l = s.files.content? l) :
    ∃ s', (writeAll gs outDir bundleName).apply s =
        (.ok ((plan gs outDir bundleName).map Prod.fst), s') ∧
      AgreesOff s.logFiles s.files s'.files := by
  obtain ⟨s', hrun, hkinds⟩ := apply_writeAll_of_stored hbuilt hlogs hstored
  obtain ⟨-, -, -, -, writes', hstored', hleaves⟩ := writes_of_writeAll hrun
  -- The kinds are kept, so that the run writes the same contents to the same locations.
  have hsame := eq_of_stored (hstored.imp fun _ _ h => h.mono hkinds.grows) hstored'
  refine ⟨s', hrun, hkinds.here, hkinds.locked, ?_⟩
  intro l hl
  have hcontent : s'.files.content? l = s.files.content? l := by
    rw [hleaves.content l hl, ← hsame, hlast l hl]
  exact entry?_eq_of_kind (hkinds.kind l) hcontent

/-- What a successful run leaves.  Whatever the generators are called, with a bundle or without one,
a run that succeeds from a session whose log files are apart from definition files returns the paths
of its plan, leaves in the file of each path the bytes of the last generators that go there, and
changes no other regular file; run once more, it returns the same paths and changes nothing. -/
theorem written_of_writeAll (h : (writeAll gs outDir bundleName).apply s = (.ok paths, s'))
    (hlogs : s.LogsApart) : Written gs outDir bundleName s paths s' := by
  obtain ⟨ds, hbuilt, rfl, hopen, writes, hstored, hleaves⟩ := writes_of_writeAll h
  have hwritten := notMem_logFiles_of_stored hlogs hstored
  constructor
  case planned => rfl
  case kept => exact hleaves.kept
  case made => exact hleaves.made
  case logsOpen => exact hopen
  case content =>
    intro p hp
    obtain ⟨entry, hentry, rfl⟩ := List.mem_map.mp hp
    exact read_of_leaves hlogs hstored hleaves hentry
  case others =>
    intro l hl hpaths
    rw [hleaves.content l hl]
    refine contentAfter_of_notMem ?_ _
    rintro write hwrite rfl
    obtain ⟨-, p, hp, hlocated⟩ := hwritten write hwrite
    exact hpaths p hp hlocated
  case nothing =>
    rintro rfl
    obtain ⟨r, hrun⟩ := apply_writeAll_nil outDir bundleName s
    rw [hrun] at h
    obtain rfl := (Prod.mk.inj h).2
    exact ⟨by rw [plan_nil]; rfl, agreesOff_log s r⟩
  case again =>
    intro t hfiles hopen'
    refine apply_writeAll_again hbuilt hopen' (hfiles ▸ hstored) ?_
    intro l _
    rw [hfiles]
    by_cases hlog : l ∈ s.logFiles
    · refine contentAfter_of_notMem ?_ _
      rintro write hwrite rfl
      exact (hwritten write hwrite).1 hlog
    · rw [hleaves.content l hlog, contentAfter_idem]

/-- Generators that are built have bytes, unless they or their parameters are too many to be
counted. -/
lemma exists_bytes_of_built (h : List.Forall₂ (fun g d => g.build = .ok d) gs ds)
    (hmany : gs.length ≤ DefinitionFile.maxDefinitions)
    (hcount : ∀ g ∈ gs, g.parameterNames.length < 2 ^ (28 : Nat)) :
    ∃ content, bytes gs = .ok content := by
  have hlegal : ∀ d ∈ ds, d.Reachable ∧ d.CountsFit := by
    intro d hd
    obtain ⟨g, hg, hbuild⟩ := exists_mem_of_forall₂ h.flip hd
    exact ⟨GeneratorSpec.reachable_of_build hbuild,
      GeneratorSpec.countsFit_of_build hbuild (hcount g hg)⟩
  rw [h.length_eq] at hmany
  exact ⟨_, (bytes_of_built h).trans
    (DefinitionFile.encode_of_isLegal hmany (DefinitionFile.isLegal_fields hmany hlegal))⟩

/-- A generator that is built has bytes, unless its parameters are too many to be counted. -/
lemma exists_bytes_of_build {g : GeneratorSpec} {d : Definition} (h : g.build = .ok d)
    (hcount : g.parameterNames.length < 2 ^ (28 : Nat)) : ∃ content, bytes [g] = .ok content :=
  exists_bytes_of_built (.cons h .nil) (by simp [DefinitionFile.maxDefinitions])
    (List.forall_mem_singleton.mpr hcount)

/-- Two generators whose names lead to one file. -/
def twins : List GeneratorSpec :=
  [⟨"tone", "WhiteNoise", []⟩, ⟨"x/../tone", "LFSaw", [⟨"freq", .ofInt 440, .core, none, none⟩]⟩]

/-- The directory of their file. -/
def twinsDir : Path := ⟨.here, ["out"]⟩

/-- A session with a log file, in which the file of the twins holds something else. -/
def workshop : Session :=
  { environment := {}
    clock := ⟨"", ""⟩
    files := ⟨["home"], [(["home"], .directory), (["home", "out"], .directory),
      (["home", "out", "x"], .directory), (["home", "out", "tone.scsyndef"], .file [0]),
      (["home", "synthforge.log"], .file [])], []⟩
    handlers := [.console .warning, .file ["home", "synthforge.log"]] }

/-- The log file of the workshop is no definition file. -/
lemma logsApart_workshop : workshop.LogsApart := by
  intro loc hloc name hname
  obtain rfl : loc = ["home", "synthforge.log"] := List.mem_singleton.mp hloc
  obtain rfl : "synthforge.log" = name := Option.some.inj hname
  decide

/-- The log file of the workshop is there. -/
lemma logsOpen_workshop : workshop.LogsOpen := by
  intro loc hloc
  obtain rfl : loc = ["home", "synthforge.log"] := List.mem_singleton.mp hloc
  exact .inr rfl

/-- The run for the twins succeeds, and both paths then name a file that holds the bytes of the
second one alone. -/
theorem written_of_writeAll_twins :
    ∃ s' content, (writeAll twins twinsDir none).apply workshop =
        (.ok [⟨.here, ["out", "tone.scsyndef"]⟩, ⟨.here, ["out", "x", "..", "tone.scsyndef"]⟩],
          s') ∧
      workshop.LogsApart ∧ bytes (twins.drop 1) = .ok content ∧
      s'.files.read ⟨.here, ["out", "tone.scsyndef"]⟩ = .ok content ∧
      s'.files.read ⟨.here, ["out", "x", "..", "tone.scsyndef"]⟩ = .ok content := by
  obtain ⟨ds, hbuilds⟩ := exists_eq_ok_of_isOk
    (show (twins.mapM GeneratorSpec.build).isOk = true by decide +kernel)
  have hbuilt := mapM_eq_ok_iff.mp hbuilds
  obtain ⟨d₁, _, hd₁, hrest, rfl⟩ := List.forall₂_cons_left_iff.mp hbuilt
  obtain ⟨d₂, _, hd₂, -, rfl⟩ := List.forall₂_cons_left_iff.mp hrest
  obtain ⟨content₁, hcontent₁⟩ := exists_bytes_of_build hd₁ (by decide)
  obtain ⟨content₂, hcontent₂⟩ := exists_bytes_of_build hd₂ (by decide)
  have hnames₁ : workshop.files.Names (target twinsDir "tone") ["home", "out", "tone.scsyndef"] :=
    ⟨rfl, rfl, rfl, rfl, fun _ => ⟨["home", "out"], rfl, rfl⟩⟩
  have hnames₂ :
      workshop.files.Names (target twinsDir "x/../tone") ["home", "out", "tone.scsyndef"] :=
    ⟨rfl, rfl, rfl, rfl, fun _ => ⟨["home", "out"], rfl, rfl⟩⟩
  have hstored : List.Forall₂ (Stored workshop.files) (plan twins twinsDir none)
      [(_, content₁), (_, content₂)] :=
    .cons ⟨hnames₁, hcontent₁⟩ (.cons ⟨hnames₂, hcontent₂⟩ .nil)
  obtain ⟨s', hrun, hkinds⟩ := apply_writeAll_of_stored hbuilt logsOpen_workshop hstored
  have hwritten := written_of_writeAll hrun logsApart_workshop
  have hlast (p : Path) (hp : p ∈ (plan twins twinsDir none).map Prod.fst) :
      s'.files.read p = .ok content₂ := by
    obtain ⟨last, content, hlast, hcontent, hread⟩ := hwritten.content p hp
    have hsecond : ∀ q ∈ (plan twins twinsDir none).map Prod.fst,
        lastOn workshop.files (plan twins twinsDir none) q = some (twins.drop 1) := by
      decide +kernel
    rw [lastOn_of_sameKinds hkinds, hsecond p hp] at hlast
    obtain rfl := Option.some.inj hlast
    obtain rfl : content = content₂ := Except.ok.inj (hcontent.symm.trans hcontent₂)
    exact hread
  exact ⟨s', content₂, hrun, logsApart_workshop, hcontent₂, hlast _ (by decide),
    hlast _ (by decide)⟩

end Output

end SynthGraph
