import SynthGraph.Proofs.Files.Locations
import SynthGraph.Proofs.Output.BundleName
import SynthGraph.Proofs.Output.Failing
import SynthGraph.Proofs.Session.Records

/-!
# What stays in the output directory

A run changes nothing but the output directory, what is below it, and the directories on the way to
it, as long as the names of the generators stay below.  A bundle always does.  A generator whose
name is an absolute path, or leads up further than down, is written where its name says.  What a run
may change is put together from what its steps may change, whatever their outcomes.
-/

namespace SynthGraph

/-! ### Finding generators -/

/-- Reading a file of generators only writes records. -/
lemma Collection.onlyRecords_load (source : Path) : (load source).OnlyRecords := by
  refine .bind .get fun s => .bind (.ofFileFault _) fun bytes => ?_
  rcases ofBytes source bytes with f | gs
  · exact .throw f
  · exact .bind (.log _ _ _) fun _ => .pure gs

/-- Finding the generators that settings ask for only writes records. -/
lemma Settings.onlyRecords_resolve (settings : Settings) : settings.resolve.OnlyRecords := by
  unfold resolve
  rcases settings.specFile with _ | source
  case' none => refine .bind (.pure _) fun available => ?_
  case' some => refine .bind (Collection.onlyRecords_load source) fun available => ?_
  all_goals
    dsimp only
    rcases Collection.choose available settings.generators with f | gs
    · exact .throw f
    · exact .bind (.log _ _ _) fun _ => .pure gs

namespace Output

open Session FileSystem

variable {s s' : Session} {outDir : Path} {bundleName : Option String} {name : String}
  {gs : List GeneratorSpec} {fs fs' : FileSystem} {l base : Location} {f : Failure}

/-! ### What any run changes -/

/-- A path to which a run is to write: that of the bundle, or that of a generator. -/
def IsTarget (gs : List GeneratorSpec) (outDir : Path) (bundleName : Option String) (p : Path) :
    Prop :=
  match bundleName with
  | some name => p = target outDir name
  | none => ∃ g ∈ gs, p = target outDir g.name

/-- The first components of a path spell a location. -/
def OnPath (fs : FileSystem) (p : Path) (l : Location) : Prop :=
  ∃ parts, parts <+: p.parts ∧ l = fs.location ⟨p.start, parts⟩

/-- What is on a path is so in a file system with the same working directory. -/
lemma onPath_iff (h : fs'.here = fs.here) {p : Path} : OnPath fs' p l ↔ OnPath fs p l := by
  simp only [OnPath, location_eq h]

/-- What is on the way to the directory of a path is on the path. -/
lemma onPath_of_onWay {p : Path} (h : fs.OnWay p.parent l) : OnPath fs p l := by
  obtain ⟨parts, hparts, hlocation⟩ := h.exists_location
  exact ⟨parts, hparts.trans (List.dropLast_prefix p.parts), hlocation⟩

/-- What changes away from the log files is where one of some paths leads, or it is a new directory
on one of them. -/
structure ChangesAt (targets : Path → Prop) (s s' : Session) : Prop where
  here : s'.files.here = s.files.here
  logFiles : s'.logFiles = s.logFiles
  entry : ∀ l ∉ s.logFiles, s'.files.entry? l ≠ s.files.entry? l →
    ∃ p, targets p ∧ (l = s.files.location p ∨
      s.files.entry? l = none ∧ s'.files.entry? l = some .directory ∧ OnPath s.files p l)

namespace ChangesAt

variable {targets targets' : Path → Prop} {s'' : Session}

/-- There are more paths. -/
lemma mono (h : ChangesAt targets s s') (htargets : ∀ p, targets p → targets' p) :
    ChangesAt targets' s s' := by
  refine ⟨h.here, h.logFiles, fun l hl hchanged => ?_⟩
  obtain ⟨p, hp, hchange⟩ := h.entry l hl hchanged
  exact ⟨p, htargets p hp, hchange⟩

/-- Nothing changes but the log files. -/
lemma of_agreesOff (hlogs : s'.logFiles = s.logFiles)
    (h : AgreesOff s.logFiles s.files s'.files) : ChangesAt targets s s' :=
  ⟨h.here, hlogs, fun l hl hchanged => (hchanged (h.entry l hl)).elim⟩

/-- Nothing changes. -/
lemma refl (s : Session) : ChangesAt targets s s := of_agreesOff rfl (.refl _ _)

/-- Records are written. -/
lemma logAll (s : Session) (rs : List Record) : ChangesAt targets s (s.logAll rs) :=
  of_agreesOff (logFiles_logAll s rs) (agreesOff_logAll s rs)

/-- One record is written. -/
lemma log (s : Session) (r : Record) : ChangesAt targets s (s.log r) := logAll s [r]

/-- Changes come one after another.  A directory that was made may be changed later. -/
lemma trans (h : ChangesAt targets s s') (h' : ChangesAt targets s' s'') :
    ChangesAt targets s s'' := by
  refine ⟨h'.here.trans h.here, h'.logFiles.trans h.logFiles, fun l hl hchanged => ?_⟩
  have hl' : l ∉ s'.logFiles := h.logFiles ▸ hl
  by_cases hlater : s''.files.entry? l = s'.files.entry? l
  · rw [hlater] at hchanged ⊢
    exact h.entry l hl hchanged
  · obtain ⟨p, hp, hend | ⟨hnone, hdir, hpath⟩⟩ := h'.entry l hl' hlater
    · exact ⟨p, hp, .inl (hend.trans (location_eq h.here p))⟩
    · by_cases hfirst : s'.files.entry? l = s.files.entry? l
      · exact ⟨p, hp, .inr ⟨hfirst ▸ hnone, hdir, (onPath_iff h.here).mp hpath⟩⟩
      · obtain ⟨q, hq, hend | ⟨-, hmade, -⟩⟩ := h.entry l hl hfirst
        · exact ⟨q, hq, .inl hend⟩
        · rw [hmade] at hnone
          cases hnone

end ChangesAt

/-- Storing a file changes what is at its path, and makes directories on the path. -/
lemma changesAt_store (s : Session) (p : Path) (content : List UInt8) :
    ChangesAt (· = p) s { s with files := (s.files.store p content).2 } := by
  rcases hstore : s.files.store p content with ⟨f | _, after⟩
  · obtain ⟨made, hway, hafter⟩ := store_error hstore
    have hmade (l : Location) (hchanged : made.entry? l ≠ s.files.entry? l) :
        s.files.entry? l = none ∧ made.entry? l = some .directory ∧ OnPath s.files p l := by
      obtain ⟨hnone, hdir, hon⟩ := (hway.entry l).resolve_left hchanged
      exact ⟨hnone, hdir, (onPath_iff hway.here).mp (onPath_of_onWay hon)⟩
    rcases hafter with rfl | ⟨loc, hlocate, hkind, -, rfl⟩
    · exact ⟨hway.here, rfl, fun l _ hchanged => ⟨p, rfl, .inr (hmade l hchanged)⟩⟩
    · -- A protected file was taken away where the path leads.
      refine ⟨hway.here, rfl, fun l _ hchanged => ⟨p, rfl, ?_⟩⟩
      by_cases hl : l = loc
      · refine .inl ?_
        rw [hl, eq_location_of_locate hlocate, location_eq hway.here]
      · have herase := entry?_erase made (ne_nil_of_file hkind) l
        rw [if_neg hl] at herase
        dsimp only at hchanged ⊢
        rw [herase] at hchanged ⊢
        exact .inr (hmade l hchanged)
  · obtain ⟨loc, hnames, -, hleaves⟩ := store_ok s.logFiles hstore
    refine ⟨hleaves.here, rfl, fun l hl hchanged => ⟨p, rfl, ?_⟩⟩
    rcases hleaves.changed hl hchanged with ⟨write, hwrite, rfl⟩ | ⟨hnone, hdir, q, hq, hon⟩
    · obtain rfl := List.mem_singleton.mp hwrite
      refine .inl ?_
      rw [eq_location_of_locate hnames.located, location_eq hleaves.here]
    · obtain rfl := List.mem_singleton.mp hq
      exact .inr ⟨hnone, hdir, (onPath_iff hleaves.here).mp (onPath_of_onWay hon)⟩

/-- Writing a file changes what is at its path, and makes directories on the path. -/
lemma changesAt_writeFile (p : Path) (ds : List Definition) (s : Session) :
    ChangesAt (· = p) s ((writeFile p ds).apply s).2 := by
  rcases hbytes : DefinitionFile.encode ds with e | content
  · rw [apply_writeFile_of_fault hbytes]
    exact .refl s
  · obtain ⟨r, r', hrun⟩ := apply_writeFile_of_bytes hbytes p s
    have hstored := (ChangesAt.log s r).trans (changesAt_store (s.log r) p content)
    rw [hrun]
    rcases hstore : (s.log r).files.store p content with ⟨_ | _, fs⟩ <;> rw [hstore] at hstored
    · exact hstored
    · exact hstored.trans (.log _ r')

/-- Writing files one by one changes what is at their paths, and makes directories on these. -/
lemma changesAt_writeEach (outDir : Path) (ds : List Definition) (s : Session) :
    ChangesAt (fun p => ∃ d ∈ ds, p = target outDir d.name) s
      ((writeEach outDir ds).apply s).2 := by
  induction ds generalizing s with
  | nil => exact .refl s
  | cons d ds ih =>
    have hfirst := (changesAt_writeFile (target outDir d.name) [d] s).mono
      fun p hp => (⟨d, List.mem_cons_self, hp⟩ : ∃ e ∈ d :: ds, p = target outDir e.name)
    rcases hrun : (writeFile (target outDir d.name) [d]).apply s with ⟨f | path, s₁⟩ <;>
      rw [hrun] at hfirst
    · obtain ⟨r, heach⟩ := apply_writeEach_cons_of_error ds hrun
      rw [heach]
      exact hfirst.trans (.log s₁ r)
    · rw [apply_writeEach_cons hrun]
      refine hfirst.trans ((ih s₁).mono ?_)
      rintro p ⟨e, he, rfl⟩
      exact ⟨e, List.mem_cons_of_mem d he, rfl⟩

/-- Whatever its outcome, a run changes what is at its targets, and makes directories on their
paths. -/
lemma changesAt_writeAll (gs : List GeneratorSpec) (outDir : Path) (bundleName : Option String)
    (s : Session) :
    ChangesAt (IsTarget gs outDir bundleName) s ((writeAll gs outDir bundleName).apply s).2 := by
  rcases hbuild : gs.mapM GeneratorSpec.build with e | ds
  · obtain ⟨rs, hrun⟩ := apply_writeAll_of_fault hbuild outDir bundleName s
    rw [hrun]
    exact .logAll s rs
  · have hbuilt := mapM_eq_ok_iff.mp hbuild
    by_cases hgs : gs = []
    · subst hgs
      obtain ⟨r, hrun⟩ := apply_writeAll_nil outDir bundleName s
      rw [hrun]
      exact .log s r
    · cases bundleName with
      | none =>
        obtain ⟨rs, -, hrun⟩ := apply_writeAll_each hbuilt hgs outDir s
        rw [hrun]
        refine (ChangesAt.logAll s rs).trans ((changesAt_writeEach outDir ds _).mono ?_)
        rintro p ⟨d, hd, rfl⟩
        obtain ⟨g, hg, hdef⟩ := exists_mem_of_forall₂ hbuilt.flip hd
        exact ⟨g, hg, by rw [GeneratorSpec.name_of_build hdef]⟩
      | some name =>
        obtain ⟨rs, -, hrun⟩ := apply_writeAll_bundle hbuilt hgs outDir name s
        rw [hrun]
        exact (ChangesAt.logAll s rs).trans (changesAt_writeFile (target outDir name) ds _)

/-! ### Names that stay below -/

/-- The file of a name stays below the directory where it is put: its path has no start of its own
and never leads up further than down. -/
def StaysInside (name : String) : Prop :=
  (Path.ofString (name ++ DefinitionFile.suffix)).start = .here ∧
    Path.staysBelow 0 (Path.ofString (name ++ DefinitionFile.suffix)).parts = true

instance (name : String) : Decidable (StaysInside name) :=
  inferInstanceAs (Decidable (_ ∧ _))

/-- Plain names stay below. -/
lemma staysInside_of_plain (hplain : '/' ∉ name.toList) : StaysInside name := by
  rw [StaysInside, ofString_file_of_plain hplain]
  refine ⟨rfl, ?_⟩
  rw [Path.staysBelow, if_neg (file_ne_up name)]
  rfl

example : StaysInside "x/../tone" ∧ ¬StaysInside "x/../../tone" ∧ ¬StaysInside "/tone" := by
  decide +kernel

/-- A location below another one. -/
def Beneath (base l : Location) : Prop := base <+: l ∧ l ≠ base

/-- The path of a file ends in a component that does not lead up. -/
lemma exists_last_part (name : String) :
    ∃ init last, (Path.ofString (name ++ DefinitionFile.suffix)).parts = init ++ [last] ∧
      last ≠ ".." := by
  obtain ⟨last, hlast, hsuffix⟩ :=
    Path.getLast?_child DefinitionFile.suffix (by decide) (by decide) ⟨.here, []⟩ name
  have hparts : (Path.child ⟨.here, []⟩ (name ++ DefinitionFile.suffix)).parts =
      (Path.ofString (name ++ DefinitionFile.suffix)).parts := by
    unfold Path.child Path.join
    split <;> rfl
  rw [hparts] at hlast
  obtain ⟨init, hinit⟩ := List.getLast?_eq_some_iff.mp hlast
  refine ⟨init, last, hinit, ?_⟩
  rintro rfl
  exact absurd hsuffix.length_le (by decide)

/-- A name that stays below is put behind the components of the directory. -/
lemma StaysInside.target_eq (h : StaysInside name) (outDir : Path) :
    target outDir name = ⟨outDir.start,
      outDir.parts ++ (Path.ofString (name ++ DefinitionFile.suffix)).parts⟩ := by
  unfold target Path.child Path.join
  rw [h.1]

/-- Components that stay below, behind those of a directory, spell a location below it. -/
lemma prefix_location_append {parts : List String} (h : Path.staysBelow 0 parts = true)
    (fs : FileSystem) (outDir : Path) :
    fs.location outDir <+: fs.location ⟨outDir.start, outDir.parts ++ parts⟩ := by
  unfold location
  rw [Path.resolved_append]
  have hbelow : fs.location outDir <+: Path.resolved (fs.location outDir ++ []) parts :=
    Path.prefix_resolved h
  rwa [List.append_nil] at hbelow

/-- The file of a name that stays below is below the directory. -/
lemma StaysInside.beneath (h : StaysInside name) (fs : FileSystem) (outDir : Path) :
    Beneath (fs.location outDir) (fs.location (target outDir name)) := by
  obtain ⟨init, last, hparts, hup⟩ := exists_last_part name
  have hstays := h.2
  rw [hparts] at hstays
  have hinit := prefix_location_append (Path.staysBelow_of_append hstays) fs outDir
  have hlocation : fs.location (target outDir name) =
      fs.location ⟨outDir.start, outDir.parts ++ init⟩ ++ [last] := by
    rw [h.target_eq, hparts]
    unfold location
    dsimp only
    rw [← List.append_assoc, Path.resolved_append, Path.resolved, if_neg hup]
    rfl
  rw [hlocation]
  refine ⟨hinit.trans (List.prefix_append _ _), ?_⟩
  intro hsame
  have hlength := hinit.length_le
  rw [← hsame, List.length_append] at hlength
  simp at hlength

/-- What is on the path of a name that stays below is on the path of the directory, or below it. -/
lemma StaysInside.onPath (h : StaysInside name) (hl : OnPath fs (target outDir name) l) :
    OnPath fs outDir l ∨ Beneath (fs.location outDir) l := by
  obtain ⟨parts, hparts, rfl⟩ := hl
  rw [h.target_eq] at hparts ⊢
  dsimp only at hparts ⊢
  rcases List.prefix_or_prefix_of_prefix hparts (List.prefix_append outDir.parts _) with
    habove | hbelow
  · exact .inl ⟨parts, habove, rfl⟩
  · obtain ⟨rest, rfl⟩ := hbelow
    have hrest := (List.prefix_append_right_inj outDir.parts).mp hparts
    obtain ⟨more, hmore⟩ := hrest
    have hstays := h.2
    rw [← hmore] at hstays
    have hlocation := prefix_location_append (Path.staysBelow_of_append hstays) fs outDir
    by_cases hsame : fs.location ⟨outDir.start, outDir.parts ++ rest⟩ = fs.location outDir
    · exact .inl ⟨outDir.parts, List.prefix_rfl, hsame⟩
    · exact .inr ⟨hlocation, hsame⟩

/-! ### Where changes are -/

/-- A change that stays in the output directory: a new directory on the path of the output
directory, or anything below that. -/
def ChangesInside (outDir : Path) (fs fs' : FileSystem) (l : Location) : Prop :=
  (fs.entry? l = none ∧ fs'.entry? l = some .directory ∧ OnPath fs outDir l) ∨
    Beneath (fs.location outDir) l

/-- A change on the path of a generator whose name does not stay below. -/
def ChangesOutside (gs : List GeneratorSpec) (outDir : Path) (fs : FileSystem) (l : Location) :
    Prop :=
  ∃ g ∈ gs, ¬StaysInside g.name ∧ OnPath fs (target outDir g.name) l

/-- What a run writes or makes on the way to a name that stays below is inside. -/
lemma StaysInside.changesInside (h : StaysInside name)
    (hchange : l = fs.location (target outDir name) ∨
      fs.entry? l = none ∧ fs'.entry? l = some .directory ∧ OnPath fs (target outDir name) l) :
    ChangesInside outDir fs fs' l := by
  rcases hchange with rfl | ⟨hnone, hdir, hpath⟩
  · exact .inr (h.beneath fs outDir)
  · rcases h.onPath hpath with habove | hbeneath
    · exact .inl ⟨hnone, hdir, habove⟩
    · exact .inr hbeneath

/-- What changes at targets is inside, unless the name of a generator leads outside. -/
lemma ChangesAt.changes (h : ChangesAt (IsTarget gs outDir bundleName) s s')
    (hbundle : ∀ name ∈ bundleName, '/' ∉ name.toList) (hl : l ∉ s.logFiles)
    (hchanged : s'.files.entry? l ≠ s.files.entry? l) :
    ChangesInside outDir s.files s'.files l ∨
      bundleName = none ∧ ChangesOutside gs outDir s.files l := by
  obtain ⟨p, htarget, hchange⟩ := h.entry l hl hchanged
  cases bundleName with
  | some name =>
    obtain rfl : p = target outDir name := htarget
    exact .inl ((staysInside_of_plain (hbundle name rfl)).changesInside hchange)
  | none =>
    obtain ⟨g, hg, rfl⟩ := htarget
    by_cases hstays : StaysInside g.name
    · exact .inl (hstays.changesInside hchange)
    · refine .inr ⟨rfl, g, hg, hstays, ?_⟩
      rcases hchange with rfl | ⟨-, -, hpath⟩
      · exact ⟨_, List.prefix_rfl, rfl⟩
      · exact hpath

/-- The bundle of checked settings has a plain name. -/
lemma ensures_settings (dir : Path) (members : List (String × Json)) :
    (Checked.settings dir members).Ensures fun settings =>
      ∀ name ∈ settings.bundleName, '/' ∉ name.toList := by
  have hbundle (value : Json) : (Checked.bundleName value).Ensures fun name => '/' ∉ name.toList :=
    fun _ h => (Checked.bundleName_eq_valid_iff.mp h).2.2.1
  refine .seq (.seq (.seq (.seq (.map (.trivial _) ?_) (.trivial _)) (.trivial _))
    (.optional (by simp) (.nullable hbundle) _ _)) (.trivial _)
  exact fun outDir _ generators _ specFile _ bundleName hplain _ _ => hplain

/-- Finds the generators that settings ask for and writes them. -/
def writeSelected (settings : Settings) : Run (List Path) := do
  writeAll (← settings.resolve) settings.outDir settings.bundleName

/-- A run for settings only writes records until the generators are found, and then writes those. -/
lemma writeSelected_cases (settings : Settings) (s : Session) : ∃ rs,
    (∃ f, (settings.resolve.apply s).1 = .error f ∧
      (writeSelected settings).apply s = (.error f, s.logAll rs)) ∨
    ∃ gs, (settings.resolve.apply s).1 = .ok gs ∧ (writeSelected settings).apply s =
      (writeAll gs settings.outDir settings.bundleName).apply (s.logAll rs) := by
  obtain ⟨rs, hrs⟩ := settings.onlyRecords_resolve s
  refine ⟨rs, ?_⟩
  rw [writeSelected, Run.apply_bind]
  rcases hresolve : settings.resolve.apply s with ⟨f | gs, s₁⟩ <;> rw [hresolve] at hrs <;>
    obtain rfl : s₁ = s.logAll rs := hrs
  · exact .inl ⟨f, rfl, rfl⟩
  · exact .inr ⟨gs, rfl, rfl⟩

/-- **Where a run changes anything.**  Under settings that are checked, and whatever the outcome,
everything that a run changes away from the log files is a new directory on the path of the output
directory, or below that directory, unless files are written one by one and a selected generator has
a name that leads outside: then it may also be on the path of that name.  Every path that a
successful run returns names the file at the location that it spells. -/
theorem changes_of_writeSelected {dir : Path} {members : List (String × Json)} {settings : Settings}
    {outcome : Except Failure (List Path)}
    (hvalid : Checked.settings dir members = .valid settings)
    (hrun : (writeSelected settings).apply s = (outcome, s')) :
    (∀ l ∉ s.logFiles, s'.files.entry? l ≠ s.files.entry? l →
      ChangesInside settings.outDir s.files s'.files l ∨
        settings.bundleName = none ∧ ∃ gs, (settings.resolve.apply s).1 = .ok gs ∧
          ChangesOutside gs settings.outDir s.files l) ∧
      ∀ paths, outcome = .ok paths → ∀ p ∈ paths, s'.files.Names p (s.files.location p) := by
  have hbundle := ensures_settings dir members settings hvalid
  obtain ⟨rs, ⟨f, -, hselected⟩ | ⟨gs, hresolve, hselected⟩⟩ := writeSelected_cases settings s <;>
    rw [hrun] at hselected
  · obtain ⟨rfl, rfl⟩ := Prod.mk.inj hselected
    exact ⟨fun l hl hchanged => (hchanged ((agreesOff_logAll s rs).entry l hl)).elim, nofun⟩
  · have hchanges : ChangesAt (IsTarget gs settings.outDir settings.bundleName) s s' := by
      have hall := changesAt_writeAll gs settings.outDir settings.bundleName (s.logAll rs)
      rw [← hselected] at hall
      exact (ChangesAt.logAll s rs).trans hall
    refine ⟨fun l hl hchanged => ?_, ?_⟩
    · rcases hchanges.changes hbundle hl hchanged with hinside | ⟨hnone, houtside⟩
      · exact .inl hinside
      · exact .inr ⟨hnone, gs, hresolve, houtside⟩
    · rintro paths rfl p hp
      obtain ⟨-, -, rfl, -, writes, hstored, hleft⟩ := writes_of_writeAll hselected.symm
      obtain ⟨entry, hentry, rfl⟩ := List.mem_map.mp hp
      obtain ⟨write, -, hnames, -⟩ := exists_mem_of_forall₂ hstored hentry
      have hhere := hleft.here.trans (agreesOff_logAll s rs).here
      rwa [eq_location_of_locate hnames.located, location_eq hhere] at hnames

/-- When settings ask for one generator, and the path of its file names one that is there and is no
log file, the run writes the generator over that file. -/
lemma writeSelected_of_names {settings : Settings} {g : GeneratorSpec} {p : Path} {loc : Location}
    (hresolve : (settings.resolve.apply s).1 = .ok [g])
    (hplan : plan [g] settings.outDir settings.bundleName = [(p, [g])])
    (hlogs : s.LogsOpen) (hloc : loc ∉ s.logFiles)
    (hnames : s.files.Names p loc) (hbuilds : g.build.isOk = true)
    (hcount : g.parameterNames.length < 2 ^ (28 : Nat)) :
    ∃ s' content, (writeSelected settings).apply s = (.ok [p], s') ∧ bytes [g] = .ok content ∧
      s'.files.Names p loc ∧ s'.files.content? loc = some content := by
  obtain ⟨rs, ⟨f, herror, -⟩ | ⟨gs, hgs, hselected⟩⟩ := writeSelected_cases settings s
  · rw [hresolve] at herror
    cases herror
  obtain rfl : [g] = gs := Except.ok.inj (hresolve.symm.trans hgs)
  obtain ⟨d, hd⟩ := exists_eq_ok_of_isOk hbuilds
  obtain ⟨content, hbytes⟩ := exists_bytes_of_build hd hcount
  have hnames' := hnames.mono (hlogs.sameKinds_logAll rs).grows
  have hstored : List.Forall₂ (Stored (s.logAll rs).files)
      (plan [g] settings.outDir settings.bundleName) [(loc, content)] := by
    rw [hplan]
    exact .cons ⟨hnames', hbytes⟩ .nil
  obtain ⟨s', hrun, hkinds⟩ :=
    apply_writeAll_of_stored (.cons hd .nil) (logsOpen_logAll rs (.inr hlogs)) hstored
  obtain ⟨-, -, -, -, writes, hstored', hleaves⟩ := writes_of_writeAll hrun
  have hthere := hnames'.mono hkinds.grows
  rw [hplan] at hrun hstored'
  have hwrite : List.Forall₂ (Stored s'.files) [(p, [g])] [(loc, content)] :=
    .cons ⟨hthere, hbytes⟩ .nil
  obtain rfl := eq_of_stored hwrite hstored'
  refine ⟨s', content, hselected.trans hrun, hbytes, hthere, ?_⟩
  rw [hleaves.content _ (by rwa [logFiles_logAll])]
  simp [contentAfter]

/-- A session in which the files of a generator and of a bundle are there and empty. -/
def shed : Session :=
  .start {} ⟨"", ""⟩ ⟨["home"], [(["home"], .directory), (["home", "out"], .directory),
    (["home", "out", "white_noise.scsyndef"], .file []),
    (["home", "out", "all.scsyndef"], .file [])], []⟩

/-- The settings that ask for the generator of the shed, in a bundle or not. -/
def shedSettings (bundleName : Option String) : Settings :=
  ⟨twinsDir, ["white_noise"], none, bundleName⟩

/-- The generator of the shed. -/
def shedNoise : GeneratorSpec := ⟨"white_noise", "WhiteNoise", [Collection.amp]⟩

/-- The settings ask for the generator of the shed. -/
lemma resolve_shedSettings (bundleName : Option String) :
    ((shedSettings bundleName).resolve.apply shed).1 = .ok [shedNoise] := by
  have hnone : ((shedSettings none).resolve.apply shed).1 = .ok [shedNoise] := by decide +kernel
  exact hnone

/-- In the shed the generator is written to a bundle, and to its own file, and nothing changes but
what is inside. -/
theorem changes_of_writeSelected_shed :
    (Checked.settings twinsDir
        [("generators", .arr [.str "white_noise"]), ("bundle_name", .str "all")] =
          .valid (shedSettings (some "all")) ∧
      ∃ s' content, (writeSelected (shedSettings (some "all"))).apply shed =
          (.ok [⟨.here, ["out", "all.scsyndef"]⟩], s') ∧
        bytes [shedNoise] = .ok content ∧
        s'.files.read ⟨.here, ["out", "all.scsyndef"]⟩ = .ok content ∧
        ∀ l ∉ shed.logFiles, s'.files.entry? l ≠ shed.files.entry? l →
          ChangesInside twinsDir shed.files s'.files l) ∧
    (Checked.settings twinsDir [("generators", .arr [.str "white_noise"])] =
          .valid (shedSettings none) ∧
      ∃ s' content, (writeSelected (shedSettings none)).apply shed =
          (.ok [⟨.here, ["out", "white_noise.scsyndef"]⟩], s') ∧
        bytes [shedNoise] = .ok content ∧
        s'.files.read ⟨.here, ["out", "white_noise.scsyndef"]⟩ = .ok content ∧
        ∀ l ∉ shed.logFiles, s'.files.entry? l ≠ shed.files.entry? l →
          ChangesInside twinsDir shed.files s'.files l) := by
  constructor
  · have hvalid : Checked.settings twinsDir
        [("generators", .arr [.str "white_noise"]), ("bundle_name", .str "all")] =
          .valid (shedSettings (some "all")) := by decide +kernel
    have hnames : shed.files.Names ⟨.here, ["out", "all.scsyndef"]⟩
        ["home", "out", "all.scsyndef"] := ⟨rfl, rfl, rfl, rfl, fun _ => ⟨_, rfl, rfl⟩⟩
    obtain ⟨s', content, hrun, hbytes, hnames', hcontent⟩ :=
      writeSelected_of_names (resolve_shedSettings (some "all")) (by decide +kernel) nofun
        List.not_mem_nil hnames (by decide +kernel) (by decide)
    refine ⟨hvalid, s', content, hrun, hbytes, hnames'.read_eq hcontent, fun l hl hchanged => ?_⟩
    obtain hinside | ⟨hnone, -⟩ := (changes_of_writeSelected hvalid hrun).1 l hl hchanged
    · exact hinside
    · cases hnone
  · have hvalid : Checked.settings twinsDir [("generators", .arr [.str "white_noise"])] =
        .valid (shedSettings none) := by decide +kernel
    have hnames : shed.files.Names ⟨.here, ["out", "white_noise.scsyndef"]⟩
        ["home", "out", "white_noise.scsyndef"] := ⟨rfl, rfl, rfl, rfl, fun _ => ⟨_, rfl, rfl⟩⟩
    obtain ⟨s', content, hrun, hbytes, hnames', hcontent⟩ :=
      writeSelected_of_names (resolve_shedSettings none) (by decide +kernel) nofun
        List.not_mem_nil hnames (by decide +kernel) (by decide)
    refine ⟨hvalid, s', content, hrun, hbytes, hnames'.read_eq hcontent, fun l hl hchanged => ?_⟩
    obtain hinside | ⟨-, gs, hgs, g, hg, hstays, -⟩ :=
      (changes_of_writeSelected hvalid hrun).1 l hl hchanged
    · exact hinside
    · rw [resolve_shedSettings] at hgs
      obtain rfl := Except.ok.inj hgs
      obtain rfl := List.mem_singleton.mp hg
      exact absurd (staysInside_of_plain (by decide)) hstays

/-- A session with a file of one generator, the name of which leads out of the output directory to a
file that is there. -/
def yard : Session :=
  .start {} ⟨"", ""⟩ ⟨["home"], [(["home"], .directory), (["home", "out"], .directory),
    (["home", "specs.json"],
      .file ("[\x7b\"name\": \"../tone\", \"ugen\": \"WhiteNoise\"\x7d]").toUTF8.toList),
    (["home", "tone.scsyndef"], .file [])], []⟩

/-- The settings that name the file of the yard. -/
def yardSettings : Settings := ⟨twinsDir, [], some ⟨.here, ["specs.json"]⟩, none⟩

/-- The generator of the yard. -/
def yardTone : GeneratorSpec := ⟨"../tone", "WhiteNoise", []⟩

/-- The run in the yard writes the generator over the file to which its name leads. -/
lemma writeSelected_yard : ∃ s' content,
    (writeSelected yardSettings).apply yard =
        (.ok [⟨.here, ["out", "..", "tone.scsyndef"]⟩], s') ∧
      bytes [yardTone] = .ok content ∧
      s'.files.content? ["home", "tone.scsyndef"] = some content := by
  have hresolve : (yardSettings.resolve.apply yard).1 = .ok [yardTone] := by decide +kernel
  have hnames : yard.files.Names (target twinsDir "../tone") ["home", "tone.scsyndef"] :=
    ⟨rfl, rfl, rfl, rfl, fun _ => ⟨_, rfl, rfl⟩⟩
  obtain ⟨s', content, hrun, hbytes, -, hcontent⟩ := writeSelected_of_names hresolve rfl nofun
    List.not_mem_nil hnames (by decide +kernel) (by decide)
  exact ⟨s', content, hrun, hbytes, hcontent⟩

/-- The settings accept the file of generators in the yard, the run succeeds, and it changes a file
that is neither on the path of the output directory nor below it. -/
theorem not_changesInside_yard :
    Checked.settings twinsDir [("spec_file", .str "specs.json")] = .valid yardSettings ∧
      ∃ s', (writeSelected yardSettings).apply yard =
          (.ok [⟨.here, ["out", "..", "tone.scsyndef"]⟩], s') ∧
        ["home", "tone.scsyndef"] ∉ yard.logFiles ∧
        s'.files.entry? ["home", "tone.scsyndef"] ≠ yard.files.entry? ["home", "tone.scsyndef"] ∧
        ¬ChangesInside twinsDir yard.files s'.files ["home", "tone.scsyndef"] := by
  have hvalid : Checked.settings twinsDir [("spec_file", .str "specs.json")] =
      .valid yardSettings := by decide +kernel
  obtain ⟨s', content, hrun, hbytes, hcontent⟩ := writeSelected_yard
  have hold : yard.files.entry? ["home", "tone.scsyndef"] = some (.file []) := rfl
  refine ⟨hvalid, s', hrun, by simp [yard, logFiles, Session.start], ?_, ?_⟩
  · rw [hold, content?_eq_some_iff.mp hcontent]
    intro hsame
    obtain rfl : content = [] := by simpa using hsame
    have hdecoded := decode_of_bytes hbytes
    have hnone : DefinitionFile.decode [] = none := rfl
    rw [hnone] at hdecoded
    cases hdecoded
  · rintro (⟨hnone, -⟩ | ⟨hbeneath, -⟩)
    · rw [hold] at hnone
      cases hnone
    · exact absurd hbeneath (by decide)

end Output

end SynthGraph
