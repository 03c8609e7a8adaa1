import SynthGraph.Proofs.Output.Confined
import SynthGraph.Proofs.Session.LogDirectory

/-!
# Before the first file

A run that does not get to its first file, because a generator cannot be built or because that file
cannot be written, changes no regular file but what is logged, except that a protected file at the
first path may be gone.  When a run succeeds all its files can be read, and whatever its outcome it
keeps the environment.
-/

namespace SynthGraph

open Session FileSystem

namespace Output

variable {s s' : Session} {gs : List GeneratorSpec} {ds : List Definition} {outDir p : Path}
  {bundleName : Option String} {f : Failure} {paths : List Path}

/-! ### The environment -/

/-- Building generators only writes records. -/
lemma onlyRecords_buildList (gs : List GeneratorSpec) : (buildList gs).OnlyRecords := by
  intro s
  obtain ⟨rs, hrun, -⟩ := apply_buildList gs s
  exact ⟨rs, by rw [hrun]⟩

/-- Writing a file keeps the environment. -/
lemma keepsEnvironment_writeFile (p : Path) (ds : List Definition) :
    (writeFile p ds).KeepsEnvironment := by
  refine .bind (.ofFault _) fun payload => .bind (.log _ _ _) fun _ => .bind .get fun s => ?_
  rcases s.files.store p payload with ⟨stored, files⟩
  exact .bind (.setFiles files) fun _ => .bind (.ofFileFault stored) fun _ =>
    .bind (.log _ _ _) fun _ => .pure p

/-- Recording a failure keeps the environment. -/
lemma keepsEnvironment_recordingFailure {α : Type} {r : Run α} (h : r.KeepsEnvironment)
    (what : String) : (recordingFailure what r).KeepsEnvironment := by
  intro s
  have hrun := h s
  rw [apply_recordingFailure]
  rcases hr : r.apply s with ⟨f | a, s'⟩ <;> rw [hr] at hrun
  · exact (environment_log s' _).trans hrun
  · exact hrun

/-- Writing files one by one keeps the environment. -/
lemma keepsEnvironment_writeEach (outDir : Path) (ds : List Definition) :
    (writeEach outDir ds).KeepsEnvironment := by
  induction ds with
  | nil => exact .pure _
  | cons d ds ih =>
    exact .bind (keepsEnvironment_recordingFailure (keepsEnvironment_writeFile _ _) _) fun _ =>
      .bind ih fun _ => .pure _

/-- Building and writing keep the environment. -/
lemma keepsEnvironment_writeAll (gs : List GeneratorSpec) (outDir : Path)
    (bundleName : Option String) : (writeAll gs outDir bundleName).KeepsEnvironment := by
  refine .bind (onlyRecords_buildList gs).keepsEnvironment fun ds => ?_
  split
  · exact .bind (.log _ _ _) fun _ => .pure _
  · cases bundleName with
    | some name => exact .bind (keepsEnvironment_writeFile _ _) fun _ => .pure _
    | none => exact keepsEnvironment_writeEach outDir ds

/-- Finding generators, building and writing them keep the environment. -/
lemma keepsEnvironment_writeSelected (settings : Settings) :
    (writeSelected settings).KeepsEnvironment :=
  .bind settings.onlyRecords_resolve.keepsEnvironment fun _ => keepsEnvironment_writeAll _ _ _

/-! ### Before the first file -/

/-- The file that is written first, with its definitions. -/
def firstFile? (outDir : Path) (bundleName : Option String) :
    List Definition → Option (Path × List Definition)
  | [] => none
  | d :: ds => some <|
    match bundleName with
    | some name => (target outDir name, d :: ds)
    | none => (target outDir d.name, [d])

/-- All generators are built and the first file is written. -/
def WritesFirst (gs : List GeneratorSpec) (outDir : Path) (bundleName : Option String)
    (s : Session) : Prop :=
  ∃ ds s₁ file, (buildList gs).apply s = (.ok ds, s₁) ∧
    firstFile? outDir bundleName ds = some file ∧
    ((writeFile file.1 file.2).apply s₁).1 = .ok file.1

/-- A location is protected, and a path leads there. -/
def ProtectedAt (fs : FileSystem) (p : Path) (l : Location) : Prop :=
  l ∈ fs.locked ∧ l = fs.location p

/-- What is protected at a path is so in a file system with the same working directory and the same
protection. -/
lemma protectedAt_iff {fs fs' : FileSystem} (hhere : fs'.here = fs.here)
    (hlocked : fs'.locked = fs.locked) {l : Location} :
    ProtectedAt fs' p l ↔ ProtectedAt fs p l := by
  rw [ProtectedAt, ProtectedAt, hlocked, location_eq hhere]

/-- A file that cannot be stored changes no regular file, except that a protected one at its path
may be gone. -/
lemma onlyLogs_store {content : List UInt8} {e : FileFault} {after : FileSystem}
    (h : s.files.store p content = (.error e, after)) :
    OnlyLogs (ProtectedAt s.files p) s { s with files := after } := by
  obtain ⟨made, hway, rfl | ⟨loc, hlocate, hkind, hlocked, rfl⟩⟩ := store_error h
  · exact .withFiles hway.here hway.content?_eq
  · have hloc : loc = s.files.location p := by
      rw [eq_location_of_locate hlocate, location_eq hway.here]
    refine ⟨rfl, hway.here, fun _ => .inl, fun l _ _ => ?_⟩
    have herase := content?_erase made (ne_nil_of_file hkind) l
    by_cases hl : l = loc
    · rw [if_pos hl] at herase
      exact .inr ⟨⟨hl ▸ hlocked, hl.trans hloc⟩, herase⟩
    · rw [if_neg hl] at herase
      exact .inl (herase.trans (hway.content?_eq l))

/-- A protected file that cannot be opened is taken away. -/
example :
    let fs : FileSystem := ⟨["home"], [(["home"], .directory), (["home", "tone"], .file [1])],
      [["home", "tone"]]⟩
    let r := fs.store ⟨.here, ["tone"]⟩ [2]
    r.1 = .error (.system .denied ⟨.here, ["tone"]⟩) ∧ fs.content? ["home", "tone"] = some [1] ∧
      r.2.content? ["home", "tone"] = none := by
  decide

/-- A file that cannot be written changes nothing but logs, except that a protected one at its path
may be gone. -/
lemma onlyLogs_writeFile (h : (writeFile p ds).apply s = (.error f, s')) :
    OnlyLogs (ProtectedAt s.files p) s s' := by
  rcases hbytes : DefinitionFile.encode ds with e | content
  · rw [apply_writeFile_of_fault hbytes] at h
    cases h
    exact .refl _ s
  · obtain ⟨r, r', hrun⟩ := apply_writeFile_of_bytes hbytes p s
    rw [hrun] at h
    rcases hstore : (s.log r).files.store p content with ⟨_ | _, after⟩ <;> rw [hstore] at h <;>
      cases h
    have hagrees := agreesOff_log s r
    exact (OnlyLogs.log s r).trans ((onlyLogs_store hstore).mono fun l =>
      (protectedAt_iff hagrees.here hagrees.locked).mp)

/-- A location is protected, and the first path of a run leads there. -/
def FirstProtected (gs : List GeneratorSpec) (outDir : Path) (bundleName : Option String)
    (fs : FileSystem) (l : Location) : Prop :=
  ∃ entry ∈ (plan gs outDir bundleName).head?, ProtectedAt fs entry.1 l

/-- The first file goes to the first path of the plan. -/
lemma exists_head?_plan (hbuilt : List.Forall₂ (fun g d => g.build = .ok d) gs ds)
    {file : Path × List Definition} (h : firstFile? outDir bundleName ds = some file) :
    ∃ entry ∈ (plan gs outDir bundleName).head?, entry.1 = file.1 := by
  cases hbuilt with
  | nil => cases h
  | cons hbuild _ =>
    cases bundleName with
    | some name =>
      obtain rfl := Option.some.inj h
      exact ⟨_, rfl, rfl⟩
    | none =>
      obtain rfl := Option.some.inj h
      exact ⟨_, rfl, by rw [GeneratorSpec.name_of_build hbuild]⟩

/-- A run that does not get to its first file changes nothing but logs, except that a protected file
at its first path may be gone. -/
lemma onlyLogs_writeAll (h : ¬WritesFirst gs outDir bundleName s) :
    OnlyLogs (FirstProtected gs outDir bundleName s.files) s
      ((writeAll gs outDir bundleName).apply s).2 := by
  obtain ⟨rs, hbuild, hrs⟩ := apply_buildList gs s
  rcases hbuilds : gs.mapM GeneratorSpec.build with e | ds <;> rw [hbuilds] at hbuild
  · rw [writeAll, Run.apply_bind_of_error hbuild]
    exact .logAll s rs
  · have hbuilt := mapM_eq_ok_iff.mp hbuilds
    have hagrees := agreesOff_logAll s rs
    -- The first file is tried in any case, and it is the last one when it cannot be written.
    have hfirst (file : Path × List Definition)
        (hfile : firstFile? outDir bundleName ds = some file) (hlogs : (s.logAll rs).LogsOpen) :
        ∃ f s', (writeFile file.1 file.2).apply (s.logAll rs) = (.error f, s') ∧
          OnlyLogs (FirstProtected gs outDir bundleName s.files) s s' := by
      obtain ⟨entry, hentry, hpath⟩ := exists_head?_plan hbuilt hfile
      rcases hrun : (writeFile file.1 file.2).apply (s.logAll rs) with ⟨f | path, s'⟩
      · refine ⟨f, s', rfl, (OnlyLogs.logAll s rs).trans ((onlyLogs_writeFile hrun).mono ?_)⟩
        intro l hl
        rw [← hpath] at hl
        exact ⟨entry, hentry, (protectedAt_iff hagrees.here hagrees.locked).mp hl⟩
      · obtain rfl := (writes_of_writeFile hlogs hrun).1
        exact absurd ⟨ds, s.logAll rs, file, hbuild, hfile, by rw [hrun]⟩ h
    rw [writeAll, Run.apply_bind_of_ok hbuild]
    cases hbuilt with
    | nil => exact (OnlyLogs.logAll s rs).trans (.log _ _)
    | @cons g d gs ds _ _ =>
      have hlogs : (s.logAll rs).LogsOpen := logsOpen_logAll rs (.inl (hrs (List.cons_ne_nil g gs)))
      cases bundleName with
      | some name =>
        obtain ⟨f, s', hrun, hlogs⟩ := hfirst _ rfl hlogs
        change OnlyLogs _ s ((writeFile (target outDir name) (d :: ds) >>=
          fun path => pure [path]).apply _).2
        rw [Run.apply_bind_of_error hrun]
        exact hlogs
      | none =>
        obtain ⟨f, s', hrun, hlogs⟩ := hfirst _ rfl hlogs
        obtain ⟨r, heach⟩ := apply_writeEach_cons_of_error ds hrun
        change OnlyLogs _ s ((writeEach outDir (d :: ds)).apply _).2
        rw [heach]
        exact hlogs.trans (.log s' r)

/-- A run for settings that does not get to its first file changes nothing but logs, except that a
protected file at its first path may be gone. -/
lemma onlyLogs_writeSelected {settings : Settings}
    (h : ∀ gs s₁, settings.resolve.apply s = (.ok gs, s₁) →
      ¬WritesFirst gs settings.outDir settings.bundleName s₁) :
    OnlyLogs (fun l => ∃ gs, (settings.resolve.apply s).1 = .ok gs ∧
        FirstProtected gs settings.outDir settings.bundleName s.files l) s
      ((writeSelected settings).apply s).2 := by
  obtain ⟨rs, hrs⟩ := settings.onlyRecords_resolve s
  rw [writeSelected, Run.apply_bind]
  rcases hresolve : settings.resolve.apply s with ⟨f | gs, s₁⟩ <;> rw [hresolve] at hrs <;>
    obtain rfl : s₁ = s.logAll rs := hrs
  · exact .logAll s rs
  · have hagrees := agreesOff_logAll s rs
    refine (OnlyLogs.logAll s rs).trans ((onlyLogs_writeAll (h gs _ hresolve)).mono ?_)
    rintro l ⟨entry, hentry, hl⟩
    exact ⟨gs, rfl, entry, hentry, (protectedAt_iff hagrees.here hagrees.locked).mp hl⟩

/-! ### After a run that succeeds -/

/-- The paths of a run that succeeds can be read. -/
lemma exists_read_of_writeAll (h : (writeAll gs outDir bundleName).apply s = (.ok paths, s')) :
    ∀ p ∈ paths, ∃ content, s'.files.read p = .ok content := by
  obtain ⟨-, -, rfl, -, writes, hstored, -⟩ := writes_of_writeAll h
  intro p hp
  obtain ⟨entry, hentry, rfl⟩ := List.mem_map.mp hp
  obtain ⟨write, -, hnames, -⟩ := exists_mem_of_forall₂ hstored hentry
  obtain ⟨content, hcontent⟩ : ∃ content, s'.files.content? write.1 = some content := by
    have hkind := hnames.kind
    unfold kind? at hkind
    rcases hentry : s'.files.entry? write.1 with _ | content | _ <;> rw [hentry] at hkind
    · cases hkind
    · exact ⟨content, content?_eq_some_iff.mpr hentry⟩
    · cases hkind
  exact ⟨content, hnames.read_eq hcontent⟩

/-- The paths of a run for settings that succeeds can be read. -/
lemma exists_read_of_writeSelected {settings : Settings}
    (h : (writeSelected settings).apply s = (.ok paths, s')) :
    ∀ p ∈ paths, ∃ content, s'.files.read p = .ok content := by
  obtain ⟨rs, ⟨f, -, hrun⟩ | ⟨gs, -, hrun⟩⟩ := writeSelected_cases settings s <;> rw [hrun] at h
  · cases h
  · exact exists_read_of_writeAll h

end Output

end SynthGraph
