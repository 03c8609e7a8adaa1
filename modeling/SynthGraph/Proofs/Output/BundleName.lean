import Mathlib.Data.String.Basic
import SynthGraph.Proofs.Output.Apart
import SynthGraph.Proofs.Schema.Accepts
import SynthGraph.Settings

/-!
# Names of bundles

The name of a bundle is a legal name without slashes of either kind.  The file of the bundle is
called by that name with the suffix of definition files, right in the output directory.  The file
system takes a name of at most 255 bytes, so that an accepted name of more than 246 characters leads
to no file; nor does one with the character that no path may hold.  All other accepted names do.
-/

namespace SynthGraph

/-! ### Accepted names -/

/-- A name is accepted when it is a plain and legal one. -/
lemma Checked.bundleName_eq_valid_iff {value : Json} {name : String} :
    bundleName value = valid name ↔ value = .str name ∧ name ≠ "" ∧ '/' ∉ name.toList ∧
      '\\' ∉ name.toList ∧ IsShortName name := by
  rw [bundleName, andThen_eq_valid_iff]
  simp only [string_eq_valid_iff]
  constructor
  · rintro ⟨s, rfl, h⟩
    by_cases hstem : s = "" ∨ s.toList.contains '/' ∨ s.toList.contains '\\'
    · rw [if_pos hstem] at h
      exact (fail_eq_valid_iff.mp h).elim
    · rw [if_neg hstem] at h
      rcases hshort : shortName s with e | bytes <;> rw [hshort] at h
      · exact (fail_eq_valid_iff.mp h).elim
      · obtain rfl := valid_eq_valid_iff.mp h
        have hlegal := (shortName_eq_ok_iff.mp hshort).1
        simp only [not_or, List.contains_iff_mem] at hstem
        exact ⟨rfl, hstem.1, hstem.2.1, hstem.2.2, hlegal⟩
  · rintro ⟨rfl, hne, hslash, hback, hlegal⟩
    have hstem : ¬(name = "" ∨ name.toList.contains '/' ∨ name.toList.contains '\\') := by
      simp [hne, hslash, hback]
    refine ⟨name, rfl, ?_⟩
    rw [if_neg hstem, shortName_eq_ok_iff.mpr ⟨hlegal, rfl⟩]

/-- The characters of an ASCII text have one byte each. -/
lemma utf8ByteSize_of_isAscii {s : String} (h : isAscii s = true) : s.utf8ByteSize = s.length := by
  have hlist : ∀ cs : List Char, (∀ c ∈ cs, c.toNat < 128) → String.utf8Len cs = cs.length := by
    intro cs hcs
    induction cs with
    | nil => rfl
    | cons c cs ih =>
      rw [List.forall_mem_cons] at hcs
      have hone : c.utf8Size = 1 :=
        Char.utf8Size_eq_one_iff.mpr (UInt32.le_iff_toNat_le.mpr (Nat.le_of_lt_succ hcs.1))
      rw [String.utf8Len_cons, ih hcs.2, hone, List.length_cons]
  have hcs : ∀ c ∈ s.toList, c.toNat < 128 := by simpa [isAscii] using h
  rw [← String.length_toList, ← hlist s.toList hcs, ← String.utf8ByteSize_ofList,
    String.ofList_toList]

/-! ### Plain names in a directory -/

namespace FileSystem

variable {fs fs' : FileSystem} {dir : Path} {up : Location} {file : String}
  {content : List UInt8}

/-- A directory is there or can be made, no directory in it has the name of a file, and a file of
that name may be written there. -/
structure Takes (fs : FileSystem) (dir : Path) (up : Location) (file : String)
    (fs' : FileSystem) : Prop where
  made : fs.makeDirectories dir = (.ok (), fs')
  located : fs'.locate dir = .ok up
  directory : fs'.kind? up = some .directory
  free : fs'.kind? (up ++ [file]) ≠ some .directory
  writable : fs'.isWritable (up ++ [file]) = true

/-- A file in a directory is located unless its name or its path is too long. -/
lemma locate_file_iff (hlocated : fs.locate dir = .ok up) (hkind : fs.kind? up = some .directory)
    (hfile : file ≠ "..") {loc : Location} :
    fs.locate ⟨dir.start, dir.parts ++ [file]⟩ = .ok loc ↔
      loc = up ++ [file] ∧ file.utf8ByteSize ≤ nameLimit ∧
        (⟨dir.start, dir.parts ++ [file]⟩ : Path).toString.utf8ByteSize ≤ pathLimit := by
  have hwalk : fs.walk (fs.startOf dir.start) dir.parts = .ok up := by
    unfold locate at hlocated
    split at hlocated
    · cases hlocated
    · exact hlocated
  have hstep : fs.step up file =
      if nameLimit < file.utf8ByteSize then .error .nameTooLong else .ok (up ++ [file]) := by
    rw [step_eq_of_kind, hkind]
    exact if_neg hfile
  unfold locate
  by_cases hpath : pathLimit < (⟨dir.start, dir.parts ++ [file]⟩ : Path).toString.utf8ByteSize
  · rw [if_pos hpath]
    exact iff_of_false (by simp) fun h => absurd h.2.2 (Nat.not_le.mpr hpath)
  · rw [if_neg hpath, walk_append, hwalk]
    change fs.walk up [file] = .ok loc ↔ _
    rw [walk, hstep]
    by_cases hname : nameLimit < file.utf8ByteSize
    · rw [if_pos hname]
      exact iff_of_false (by simp) fun h => absurd h.2.1 (Nat.not_le.mpr hname)
    · rw [if_neg hname]
      simp only [walk, Except.ok.injEq]
      exact ⟨fun h => ⟨h.symm, Nat.not_lt.mp hname, Nat.not_lt.mp hpath⟩, fun h => h.1.symm⟩

/-- Directories are made on paths without the character that no path may hold. -/
lemma hasNull_of_makeDirectories (h : fs.makeDirectories dir = (.ok (), fs')) :
    dir.hasNull = false := by
  unfold makeDirectories at h
  by_cases hnull : dir.hasNull
  · rw [if_pos hnull] at h
    cases h
  · exact Bool.eq_false_iff.mpr hnull

/-- A file is stored in a directory that takes it exactly when its name and its path are legal. -/
lemma Takes.store_iff (h : fs.Takes dir up file fs') (hfile : file ≠ "..")
    {after : FileSystem} :
    fs.store ⟨dir.start, dir.parts ++ [file]⟩ content = (.ok (), after) ↔
      after = fs'.put (up ++ [file]) (.file content) ∧ '\x00' ∉ file.toList ∧
        file.utf8ByteSize ≤ nameLimit ∧
        (⟨dir.start, dir.parts ++ [file]⟩ : Path).toString.utf8ByteSize ≤ pathLimit := by
  have hparent : (⟨dir.start, dir.parts ++ [file]⟩ : Path).parent = dir := by
    simp [Path.parent]
  have hnull : (⟨dir.start, dir.parts ++ [file]⟩ : Path).hasNull = false ↔
      '\x00' ∉ file.toList := by
    have hdir := hasNull_of_makeDirectories h.made
    unfold Path.hasNull at hdir ⊢
    rw [List.any_append, hdir]
    simp
  have hopen {loc : Location} : fs'.openFile ⟨dir.start, dir.parts ++ [file]⟩ = .ok loc ↔
      loc = up ++ [file] ∧ '\x00' ∉ file.toList ∧ file.utf8ByteSize ≤ nameLimit ∧
        (⟨dir.start, dir.parts ++ [file]⟩ : Path).toString.utf8ByteSize ≤ pathLimit := by
    rw [openFile_eq_ok_iff, hnull, locate_file_iff h.located h.directory hfile]
    constructor
    · rintro ⟨hnull', ⟨rfl, hname, hpath⟩, -⟩
      exact ⟨rfl, hnull', hname, hpath⟩
    · rintro ⟨rfl, hnull', hname, hpath⟩
      exact ⟨hnull', ⟨rfl, hname, hpath⟩, h.free, h.writable⟩
  rw [store_eq_ok_iff, hparent, h.made]
  constructor
  · rintro ⟨_, loc, ⟨⟩, hcase, rfl⟩
    obtain ⟨rfl, hlegal⟩ := hopen.mp hcase
    exact ⟨rfl, hlegal⟩
  · rintro ⟨rfl, hlegal⟩
    exact ⟨fs', up ++ [file], rfl, hopen.mpr ⟨rfl, hlegal⟩, rfl⟩

end FileSystem

/-! ### Bundles -/

namespace Output

open Session FileSystem

variable {s : Session} {outDir : Path} {gs : List GeneratorSpec} {ds : List Definition}
  {name : String} {up : Location} {fs : FileSystem} {value : Json}

/-- The names with which a bundle can be written: there is room for the suffix, and the path is
legal. -/
structure FitsFile (outDir : Path) (name : String) : Prop where
  short : name.length ≤ 246
  noNull : '\x00' ∉ name.toList
  path : (target outDir name).toString.utf8ByteSize ≤ pathLimit

/-- The file of an accepted name is stored exactly when the name fits. -/
lemma store_target_iff (hname : Checked.bundleName value = .valid name)
    (hplace : s.files.Takes outDir up (name ++ DefinitionFile.suffix) fs) {content : List UInt8}
    {after : FileSystem} :
    s.files.store (target outDir name) content = (.ok (), after) ↔
      after = fs.put (up ++ [name ++ DefinitionFile.suffix]) (.file content) ∧
        FitsFile outDir name := by
  obtain ⟨-, -, hslash, -, hascii, -⟩ := Checked.bundleName_eq_valid_iff.mp hname
  have hsuffix : DefinitionFile.suffix.utf8ByteSize = 9 := by decide
  have hsize : (name ++ DefinitionFile.suffix).utf8ByteSize = name.length + 9 := by
    rw [String.utf8ByteSize_append, utf8ByteSize_of_isAscii hascii, hsuffix]
  have hnull : '\x00' ∉ (name ++ DefinitionFile.suffix).toList ↔ '\x00' ∉ name.toList := by
    have hsuffix' : '\x00' ∉ DefinitionFile.suffix.toList := by decide
    simp [hsuffix']
  have hshort : name.length + 9 ≤ nameLimit ↔ name.length ≤ 246 := by
    rw [nameLimit]
    omega
  rw [target_of_plain hslash, hplace.store_iff (file_ne_up name), hnull, hsize, hshort,
    ← target_of_plain hslash]
  exact and_congr_right fun _ =>
    ⟨fun ⟨hnull', hshort', hpath⟩ => ⟨hshort', hnull', hpath⟩,
      fun h => ⟨h.noNull, h.short, h.path⟩⟩

/-- A bundle without bytes is not written. -/
lemma writeAll_bundle_of_fault (hbuilt : List.Forall₂ (fun g d => g.build = .ok d) gs ds)
    (hgs : gs ≠ []) {e : Fault} (hencode : DefinitionFile.encode ds = .error e) :
    ((writeAll gs outDir (some name)).apply s).1 = .error (.fault e) := by
  obtain ⟨rs, -, hrun⟩ := apply_writeAll_bundle hbuilt hgs outDir name s
  rw [hrun, apply_writeFile_of_fault hencode]
  rfl

/-- What a bundle leaves in the regular files: its bytes in a file of its name, right in the output
directory, and nothing else away from the log files. -/
def LeavesBundle (gs : List GeneratorSpec) (loc : Location) (s s' : Session) : Prop :=
  ∃ content, bytes gs = .ok content ∧ ∀ l ∉ s.logFiles,
    s'.files.content? l = if l = loc then some content else s.files.content? l

/-- A bundle that is stored under an accepted name leaves one file. -/
lemma leavesBundle_of_store (hbuilt : List.Forall₂ (fun g d => g.build = .ok d) gs ds)
    (hgs : gs ≠ []) (hlogs : s.LogsOpen) (hname : Checked.bundleName value = .valid name)
    (hplace : s.files.Takes outDir up (name ++ DefinitionFile.suffix) fs) {content : List UInt8}
    (hencode : DefinitionFile.encode ds = .ok content) (hfits : FitsFile outDir name) :
    LeavesBundle gs (up ++ [name ++ DefinitionFile.suffix]) s
      ((writeAll gs outDir (some name)).apply s).2 := by
  have hstore : s.files.store (target outDir name) content = (.ok (), _) :=
    (store_target_iff hname hplace).mpr ⟨rfl, hfits⟩
  obtain ⟨-, halike⟩ := writeAll_bundle_of_store hbuilt hgs hlogs hencode outDir name
  rw [hstore] at halike
  refine ⟨content, (bytes_of_built hbuilt).trans hencode, fun l hl => ?_⟩
  have hway : MakesWay outDir s.files fs := by
    have hmade := makesWay_makeDirectories s.files outDir
    rwa [hplace.made] at hmade
  rw [halike.agrees.content?_eq hl, content?_put fs (by simp), hway.content?_eq l]

/-- A bundle that has bytes is written under an accepted name exactly when the name fits. -/
lemma writeAll_bundle_ok_iff (hbuilt : List.Forall₂ (fun g d => g.build = .ok d) gs ds)
    (hgs : gs ≠ []) (hlogs : s.LogsOpen) (hname : Checked.bundleName value = .valid name)
    (hplace : s.files.Takes outDir up (name ++ DefinitionFile.suffix) fs) {content : List UInt8}
    (hencode : DefinitionFile.encode ds = .ok content) {paths : List Path} :
    ((writeAll gs outDir (some name)).apply s).1 = .ok paths ↔
      paths = [target outDir name] ∧ FitsFile outDir name := by
  obtain ⟨houtcome, -⟩ := writeAll_bundle_of_store hbuilt hgs hlogs hencode outDir name
  rw [houtcome]
  constructor
  · intro hrun
    rcases hstore : s.files.store (target outDir name) content with ⟨f | _, after⟩ <;>
      rw [hstore] at hrun <;> cases hrun
    exact ⟨rfl, ((store_target_iff hname hplace).mp hstore).2⟩
  · rintro ⟨rfl, hfits⟩
    rw [(store_target_iff hname hplace).mpr ⟨rfl, hfits⟩]
    rfl

/-- **Which bundles can be written.**  Under a name that the settings accept, generators that are
built and that a file can count are written to a bundle exactly when the name fits and the counts of
the definitions have thirty-two bits, in an output directory that takes a file of that name.  Then
that file, right in the directory, is the only regular one that changes. -/
theorem writeAll_bundle_iff_fits (hname : Checked.bundleName value = .valid name)
    (hbuilt : List.Forall₂ (fun g d => g.build = .ok d) gs ds) (hgs : gs ≠ [])
    (hmany : gs.length ≤ 32767) (hlogs : s.LogsOpen)
    (hplace : s.files.Takes outDir up (name ++ DefinitionFile.suffix) fs) :
    ((∃ paths s', (writeAll gs outDir (some name)).apply s = (.ok paths, s')) ↔
        FitsFile outDir name ∧ ∀ d ∈ ds, d.CountsFit) ∧
      ∀ paths s', (writeAll gs outDir (some name)).apply s = (.ok paths, s') →
        paths = [target outDir name] ∧
          LeavesBundle gs (up ++ [name ++ DefinitionFile.suffix]) s s' := by
  have hreach : ∀ d ∈ ds, d.Reachable := by
    intro d hd
    obtain ⟨g, -, hbuild⟩ := exists_mem_of_forall₂ hbuilt.flip hd
    exact GeneratorSpec.reachable_of_build hbuild
  rw [← DefinitionFile.exists_encode_iff (hbuilt.length_eq ▸ hmany) hreach]
  rcases hencode : DefinitionFile.encode ds with e | content
  · have hfault : ((writeAll gs outDir (some name)).apply s).1 = .error (.fault e) :=
      writeAll_bundle_of_fault hbuilt hgs hencode
    have hfails : ∀ paths s', (writeAll gs outDir (some name)).apply s ≠ (.ok paths, s') := by
      intro paths s' hrun
      rw [hrun] at hfault
      cases hfault
    refine ⟨iff_of_false (fun ⟨paths, s', hrun⟩ => hfails paths s' hrun) (by simp), ?_⟩
    exact fun paths s' hrun => (hfails paths s' hrun).elim
  · have hok {paths : List Path} : ((writeAll gs outDir (some name)).apply s).1 = .ok paths ↔
        paths = [target outDir name] ∧ FitsFile outDir name :=
      writeAll_bundle_ok_iff hbuilt hgs hlogs hname hplace hencode
    constructor
    · constructor
      · rintro ⟨paths, s', hrun⟩
        exact ⟨(hok.mp (congrArg Prod.fst hrun)).2, content, rfl⟩
      · rintro ⟨hfits, -⟩
        exact ⟨[target outDir name], _, Prod.ext (hok.mpr ⟨rfl, hfits⟩) rfl⟩
    · intro paths s' hrun
      obtain ⟨hpaths, hfits⟩ := hok.mp (congrArg Prod.fst hrun)
      have hleaves := leavesBundle_of_store hbuilt hgs hlogs hname hplace hencode hfits
      rw [hrun] at hleaves
      exact ⟨hpaths, hleaves⟩

/-- The output directory of the workshop takes files of names that are not there. -/
lemma takes_workshop {file : String} (hfile : file ∉ ["x", "tone.scsyndef"]) :
    workshop.files.Takes twinsDir ["home", "out"] file workshop.files := by
  simp only [List.mem_cons, List.not_mem_nil, or_false, not_or] at hfile
  have hnone : workshop.files.entry? (["home", "out"] ++ [file]) = none := by
    simp [workshop, entry?, Ne.symm hfile.1, Ne.symm hfile.2]
  refine ⟨rfl, rfl, rfl, ?_, ?_⟩
  · rw [kind?, hnone]
    simp
  · rw [isWritable, hnone]
    rfl

/-- The two tones are written to a bundle in the workshop. -/
theorem writeAll_bundle_iff_fits_tones :
    Checked.bundleName (.str "all") = .valid "all" ∧ workshop.LogsOpen ∧
      workshop.files.Takes twinsDir ["home", "out"] ("all" ++ DefinitionFile.suffix)
        workshop.files ∧
      ∃ s', (writeAll tones twinsDir (some "all")).apply workshop =
          (.ok [⟨.here, ["out", "all.scsyndef"]⟩], s') ∧
        LeavesBundle tones ["home", "out", "all.scsyndef"] workshop s' := by
  obtain ⟨ds, hbuilds⟩ := exists_eq_ok_of_isOk
    (show (tones.mapM GeneratorSpec.build).isOk = true by decide +kernel)
  have hbuilt := mapM_eq_ok_iff.mp hbuilds
  have hname : Checked.bundleName (.str "all") = .valid "all" :=
    Checked.bundleName_eq_valid_iff.mpr ⟨rfl, by decide⟩
  have hplace : workshop.files.Takes twinsDir ["home", "out"] ("all" ++ DefinitionFile.suffix)
      workshop.files := takes_workshop (by decide)
  have hcounts : ∀ d ∈ ds, d.CountsFit := by
    intro d hd
    obtain ⟨g, hg, hbuild⟩ := exists_mem_of_forall₂ hbuilt.flip hd
    have hfew : ∀ g ∈ tones, g.parameterNames.length < 2 ^ (28 : Nat) := by decide
    exact GeneratorSpec.countsFit_of_build hbuild (hfew g hg)
  obtain ⟨hiff, hleft⟩ := writeAll_bundle_iff_fits hname hbuilt (by decide) (by decide)
    logsOpen_workshop hplace
  obtain ⟨paths, s', hrun⟩ := hiff.mpr ⟨⟨by decide, by decide, by decide⟩, hcounts⟩
  obtain ⟨rfl, hleaves⟩ := hleft paths s' hrun
  exact ⟨hname, logsOpen_workshop, hplace, s', hrun, hleaves⟩

/-- A name of some number of equal letters. -/
def letters (n : Nat) : String := String.ofList (List.replicate n 'b')

/-- The length of a name of equal letters. -/
lemma length_letters (n : Nat) : (letters n).length = n := by
  rw [letters, String.length_ofList, List.length_replicate]

/-- The settings accept names of one to 255 equal letters. -/
lemma bundleName_letters {n : Nat} (hpos : 0 < n) (hn : n ≤ 255) :
    Checked.bundleName (.str (letters n)) = .valid (letters n) := by
  have hchars : ∀ c ∈ (letters n).toList, c = 'b' := by
    rw [letters, String.toList_ofList]
    exact fun c hc => List.eq_of_mem_replicate hc
  have hother (c : Char) (hc : c ≠ 'b') : c ∉ (letters n).toList := fun h => hc (hchars c h)
  refine Checked.bundleName_eq_valid_iff.mpr ⟨rfl, ?_, hother '/' (by decide),
    hother '\\' (by decide), ?_, ?_⟩
  · intro hempty
    have hlength := length_letters n
    rw [hempty, String.length_empty] at hlength
    exact absurd hlength (Nat.ne_of_lt hpos)
  · refine List.all_eq_true.mpr fun c hc => ?_
    rw [hchars c hc]
    decide
  · rwa [length_letters]

/-- The output directory of the workshop takes a file of a long name. -/
lemma takes_letters {n : Nat} (hn : 13 ≤ n) : workshop.files.Takes twinsDir ["home", "out"]
    (letters n ++ DefinitionFile.suffix) workshop.files := by
  refine takes_workshop fun hmem => ?_
  have hlong : 13 < (letters n ++ DefinitionFile.suffix).length := by
    have hsuffix : 0 < DefinitionFile.suffix.length := by decide
    rw [String.length_append, length_letters]
    omega
  have hshort : ∀ file ∈ ["x", "tone.scsyndef"], file.length ≤ 13 := by decide
  exact absurd (hshort _ hmem) (Nat.not_le.mpr hlong)

/-- The settings accept a name of 247 letters, and the tones cannot be written to a bundle of that
name, although the output directory takes files of such a name. -/
theorem not_writeAll_bundle_letters :
    Checked.bundleName (.str (letters 247)) = .valid (letters 247) ∧
      (∀ g ∈ tones, g.build.isOk = true) ∧ workshop.LogsOpen ∧
      workshop.files.Takes twinsDir ["home", "out"] (letters 247 ++ DefinitionFile.suffix)
        workshop.files ∧
      ∃ f s', (writeAll tones twinsDir (some (letters 247))).apply workshop = (.error f, s') := by
  obtain ⟨ds, hbuilds⟩ := exists_eq_ok_of_isOk
    (show (tones.mapM GeneratorSpec.build).isOk = true by decide +kernel)
  have hbuilt := mapM_eq_ok_iff.mp hbuilds
  obtain ⟨content, hbytes⟩ := exists_bytes_of_built hbuilt (by decide) (by decide)
  rw [bytes_of_built hbuilt] at hbytes
  have hname := bundleName_letters (show 0 < 247 by decide) (by decide)
  have hplace := takes_letters (show 13 ≤ 247 by decide)
  have hcodes : ∀ g ∈ tones, g.build.isOk = true := by decide +kernel
  refine ⟨hname, hcodes, logsOpen_workshop, hplace, ?_⟩
  rcases hrun : (writeAll tones twinsDir (some (letters 247))).apply workshop with ⟨f | paths, s'⟩
  · exact ⟨f, s', rfl⟩
  · have hshort := ((writeAll_bundle_ok_iff hbuilt (by decide) logsOpen_workshop hname hplace
      hbytes).mp (congrArg Prod.fst hrun)).2.short
    rw [length_letters] at hshort
    exact absurd hshort (by decide)

end Output

end SynthGraph
