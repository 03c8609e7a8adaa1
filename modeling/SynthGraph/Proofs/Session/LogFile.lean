import SynthGraph.Proofs.Files.Locations
import SynthGraph.Proofs.Session.Logging
import SynthGraph.Session.LogFile

/-!
# What opening the log file can do

Opening the log file has three ends: its directory is not known, the file system refuses it, or it
is there.  Setting logging up and writing the entry of a failure are told by these three.  Both fail
when the directory is not known or when its path holds a null character, and never when the log file
has a place.
-/

namespace SynthGraph

namespace LogFile

open Session FileSystem

variable {α : Type} {s s' : Session} {dir : Path} {place : Path → Path} {f : Failure}
  {loc : Location} {force : Bool}

/-! ### The path of the log file -/

/-- The log file is named behind its directory. -/
lemma pathIn_eq (dir : Path) : pathIn dir = ⟨dir.start, dir.parts ++ ["synthforge.log"]⟩ := rfl

/-- The path of the log file from the root is in the directory from the root. -/
lemma absolute_pathIn (dir : Path) (here : List String) :
    (pathIn dir).absolute here = pathIn (dir.absolute here) := by
  have hresolved (above : List String) :
      Path.resolved above (dir.parts ++ ["synthforge.log"]) =
        Path.resolved above dir.parts ++ ["synthforge.log"] :=
    Path.resolved_append above _ _
  rw [pathIn_eq, pathIn_eq]
  unfold Path.absolute
  split <;> simp_all

/-- The log file is below its directory. -/
lemma location_pathIn (fs : FileSystem) (dir : Path) :
    fs.location (pathIn dir) = fs.location dir ++ ["synthforge.log"] :=
  Path.resolved_append _ _ _

/-- The name of the log file holds no null character. -/
lemma hasNull_pathIn (dir : Path) : (pathIn dir).hasNull = dir.hasNull := by
  have hname : "synthforge.log".toList.contains '\x00' = false := by decide
  rw [pathIn_eq, Path.hasNull, List.any_append, List.any_cons, List.any_nil, hname, Bool.or_false,
    Bool.or_false, Path.hasNull]

/-! ### Opening the log file -/

/-- A directory that is known. -/
lemma apply_directory_of_some (h : s.environment.logDir? = some dir) :
    directory.apply s = (.ok dir, s) := by
  unfold directory
  rw [Run.apply_bind, Run.apply_get]
  simp only [h, Run.apply_pure]

/-- A directory that is not known. -/
lemma apply_directory_of_none (h : s.environment.logDir? = none) :
    directory.apply s = (.error .unknownHome, s) := by
  unfold directory
  rw [Run.apply_bind, Run.apply_get]
  simp only [h]
  rfl

/-- The path of the log file in a directory that is known. -/
lemma apply_path_of_some (h : s.environment.logDir? = some dir) :
    path.apply s = (.ok (pathIn dir), s) := by
  rw [path, Run.apply_bind_of_ok (apply_directory_of_some h), Run.apply_pure]

/-- The ends of opening the log file. -/
inductive Opens (place : Path → Path) (s : Session) : Except Failure Location → Session → Prop
  /-- The directory is not known. -/
  | unknown (hdir : s.environment.logDir? = none) : Opens place s (.error .unknownHome) s
  /-- The file system refuses the directory or the file. -/
  | refused (dir : Path) (fs : FileSystem) (e : FileFault)
      (hdir : s.environment.logDir? = some dir) (hway : MakesWay dir s.files fs)
      (hnull : e = .nullCharacter → dir.hasNull ∨ (place (pathIn dir)).hasNull) :
      Opens place s (.error (.file e)) { s with files := fs }
  /-- The file is there. -/
  | opened (dir : Path) (fs : FileSystem) (loc : Location)
      (hdir : s.environment.logDir? = some dir) (hway : MakesWay dir s.files fs)
      (hopen : fs.openFile (place (pathIn dir)) = .ok loc) :
      Opens place s (.ok loc) { s with files := fs.append loc [] }

/-- A directory is refused for a null character only when its path holds one. -/
lemma hasNull_of_makeDirectories_error {fs fs' : FileSystem}
    (h : fs.makeDirectories dir = (.error .nullCharacter, fs')) : dir.hasNull = true := by
  unfold makeDirectories at h
  by_contra hnull
  rw [if_neg hnull] at h
  have hsystem (above : List String) :
      (fs.makeWithParents dir.start above).1 ≠ .error .nullCharacter := by
    induction above with
    | nil => nofun
    | cons part above ih =>
      rw [makeWithParents]
      split
      · simp
      · split
        · rcases hparents : fs.makeWithParents dir.start above with ⟨_ | _, fs₁⟩ <;>
            rw [hparents] at ih
          · exact ih
          · dsimp only
            split <;> simp
        · simp
  exact hsystem _ (congrArg Prod.fst h)

/-- A file is refused for a null character only when its path holds one. -/
lemma hasNull_of_openFile_error {fs : FileSystem} {p : Path}
    (h : fs.openFile p = .error .nullCharacter) : p.hasNull = true := by
  unfold openFile at h
  by_contra hnull
  rw [if_neg hnull] at h
  rcases hlocate : fs.locate p with _ | loc <;> rw [hlocate] at h
  · cases h
  · dsimp only at h
    split at h
    · cases h
    · split at h <;> cases h

/-- Opening the log file comes to one of the three ends. -/
lemma opens_openLog (place : Path → Path) (s : Session) :
    Opens place s ((openLog place).apply s).1 ((openLog place).apply s).2 := by
  rcases hdir : s.environment.logDir? with _ | dir
  · rw [openLog, Run.apply_bind_of_error (apply_directory_of_none hdir)]
    exact .unknown hdir
  · rw [openLog, Run.apply_bind_of_ok (apply_directory_of_some hdir)]
    simp only [Run.apply_bind, Run.apply_get, Run.apply_modify, Run.apply_ofFileFault,
      Run.apply_pure]
    have hway := makesWay_makeDirectories s.files dir
    rcases hmake : s.files.makeDirectories dir with ⟨e | _, fs⟩ <;> rw [hmake] at hway
    · refine .refused dir fs e hdir hway ?_
      rintro rfl
      exact .inl (hasNull_of_makeDirectories_error hmake)
    · dsimp only [Except.mapError]
      rcases hopen : fs.openFile (place (pathIn dir)) with e | loc
      · refine .refused dir fs e hdir hway ?_
        rintro rfl
        exact .inr (hasNull_of_openFile_error hopen)
      · exact .opened dir fs loc hdir hway hopen

/-- Opening the log file changes the file system and nothing else. -/
lemma Opens.withFiles {result : Except Failure Location} (h : Opens place s result s') :
    ∃ fs, s' = { s with files := fs } := by
  cases h with
  | unknown => exact ⟨s.files, rfl⟩
  | refused _ fs => exact ⟨fs, rfl⟩
  | opened _ fs loc => exact ⟨fs.append loc [], rfl⟩

/-- An open log file is where its path led when it was opened. -/
lemma Opens.exists_locate (h : Opens place s (.ok loc) s') :
    ∃ dir, s.environment.logDir? = some dir ∧
      ∃ fs : FileSystem, fs.here = s.files.here ∧ fs.locate (place (pathIn dir)) = .ok loc := by
  cases h with
  | opened dir fs _ hdir hway hopen =>
    exact ⟨dir, hdir, fs, hway.here, (openFile_eq_ok_iff.mp hopen).2.1⟩

/-- Only the system refuses a log file under a known path without null characters. -/
lemma Opens.isSystem (h : Opens place s (.error f) s') (hdir : s.environment.logDir? = some dir)
    (hnull : dir.hasNull = false) (hplace : (place (pathIn dir)).hasNull = false) :
    f.isSystem = true := by
  cases h with
  | unknown hnone =>
    rw [hdir] at hnone
    cases hnone
  | refused dir' _ e hdir' _ hnull' =>
    obtain rfl : dir = dir' := Option.some.inj (hdir.symm.trans hdir')
    rcases e with ⟨error, p⟩ | _
    · rfl
    · rcases hnull' rfl with h | h
      · rw [hnull] at h
        cases h
      · rw [hplace] at h
        cases h

/-- A log file without a directory, or in one whose path holds a null character, cannot be opened,
and that is no refusal of the system. -/
lemma apply_openLog_of_noPlace
    (h : ∀ dir, s.environment.logDir? = some dir → dir.hasNull = true) (place : Path → Path) :
    ∃ f, f.isSystem = false ∧ (openLog place).apply s = (.error f, s) := by
  rcases hdir : s.environment.logDir? with _ | dir
  · exact ⟨.unknownHome, rfl, Run.apply_bind_of_error (apply_directory_of_none hdir) _⟩
  · refine ⟨.file .nullCharacter, rfl, ?_⟩
    have hmake : s.files.makeDirectories dir = (.error .nullCharacter, s.files) :=
      if_pos (h dir hdir)
    rw [openLog, Run.apply_bind_of_ok (apply_directory_of_some hdir)]
    simp only [Run.apply_bind, Run.apply_get, Run.apply_modify, Run.apply_ofFileFault, hmake]
    rfl

/-! ### Setting logging up -/

/-- A step that succeeds has its result. -/
lemma apply_toleratingSystem_of_ok {step : Run α} {a : α} (h : step.apply s = (.ok a, s'))
    (what : String) : (toleratingSystem what step).apply s = (.ok (some a), s') := by
  change step s = (.ok a, s') at h
  change toleratingSystem what step s = _
  unfold toleratingSystem
  rw [h]

/-- A refusal of the system is recorded, and any other failure passes on. -/
lemma apply_toleratingSystem_of_error {step : Run α} (h : step.apply s = (.error f, s'))
    (what : String) :
    (toleratingSystem what step).apply s =
      if f.isSystem then (.ok none, s'.log ⟨.warning, .logFile, what ++ ": " ++ f.message⟩)
      else (.error f, s') := by
  change step s = (.error f, s') at h
  change toleratingSystem what step s = _
  unfold toleratingSystem
  rw [h]

/-- A session with the handler of the console, if it gets one. -/
def attached (force : Bool) (s : Session) : Session :=
  { s with
    handlers := (if force then [] else s.handlers) ++
      if force || !s.observed then [consoleHandler s.environment] else [] }

/-- Nothing is done when logging is set up. -/
lemma apply_configure_of_configured (h : s.configured = true) :
    (configure false).apply s = (.ok (), s) := by
  unfold configure
  rw [Run.apply_bind, Run.apply_get]
  simp only [h, Bool.not_false, Bool.and_self, if_true, Run.apply_pure]

/-- Logging is set up by opening the log file. -/
lemma apply_configure (h : (s.configured && !force) = false) :
    (configure force).apply s =
      match (openLog fun path => path.absolute s.files.here).apply (attached force s) with
      | (.ok loc, s') =>
        (.ok (), { s' with handlers := s'.handlers ++ [.file loc], configured := true })
      | (.error f, s') =>
        if f.isSystem then
          (.ok (), { s'.log ⟨.warning, .logFile,
            "Failed to configure file logging: " ++ f.message⟩ with configured := true })
        else (.error f, s') := by
  unfold configure
  rw [Run.apply_bind, Run.apply_get]
  dsimp only
  rw [h, if_neg Bool.false_ne_true, Run.apply_bind, Run.apply_modify]
  change (toleratingSystem "Failed to configure file logging"
    (openLog fun path => path.absolute s.files.here) >>= _).apply (attached force s) = _
  rcases hopen : (openLog fun path => path.absolute s.files.here).apply (attached force s) with
    ⟨f | loc, s'⟩
  · have hstep := apply_toleratingSystem_of_error hopen "Failed to configure file logging"
    by_cases hsystem : f.isSystem
    · rw [if_pos hsystem] at hstep
      rw [Run.apply_bind_of_ok hstep, Run.apply_modify]
      simp [hsystem]
    · rw [if_neg hsystem] at hstep
      rw [Run.apply_bind_of_error hstep]
      simp [hsystem]
  · rw [Run.apply_bind_of_ok (apply_toleratingSystem_of_ok hopen _)]
    rfl

/-- The log files that are kept are those that were known. -/
lemma logFiles_attached_subset (force : Bool) (s : Session) :
    (attached force s).logFiles ⊆ s.logFiles := by
  intro loc hloc
  unfold logFiles attached at hloc
  rw [List.filterMap_append, List.mem_append] at hloc
  rcases hloc with hkept | hconsole
  · cases force
    · exact hkept
    · cases hkept
  · split at hconsole <;> cases hconsole

/-! ### A place for the log file -/

/-- The log file has a place: its directory is known, and its path holds no null character, also not
from the root while logging is still to be set up. -/
def HasPlace (s : Session) : Prop :=
  ∃ dir, s.environment.logDir? = some dir ∧ dir.hasNull = false ∧
    (s.configured = false → (dir.absolute s.files.here).hasNull = false)

/-- Where the log file has a place, logging is set up. -/
lemma HasPlace.configure_eq_ok (h : HasPlace s) : ((configure false).apply s).1 = .ok () := by
  obtain ⟨dir, hdir, hnull, habsolute⟩ := h
  rcases hconfigured : s.configured with _ | _
  · rw [apply_configure (by rw [hconfigured]; rfl)]
    have hopens := opens_openLog (fun path => path.absolute s.files.here) (attached false s)
    rcases hopen : (openLog fun path => path.absolute s.files.here).apply (attached false s) with
      ⟨f | loc, s'⟩
    · rw [hopen] at hopens
      dsimp only
      rw [if_pos (hopens.isSystem hdir hnull ?_)]
      rw [absolute_pathIn, hasNull_pathIn]
      exact habsolute hconfigured
    · rfl
  · rw [apply_configure_of_configured hconfigured]

/-- Without a place for the log file, logging cannot be set up. -/
lemma configure_of_noPlace (hplace : ∀ dir, s.environment.logDir? = some dir → dir.hasNull = true)
    (h : s.configured = false) : ∃ f s', (configure false).apply s = (.error f, s') := by
  obtain ⟨f, hsystem, hopen⟩ := apply_openLog_of_noPlace (s := attached false s) hplace
    fun path => path.absolute s.files.here
  refine ⟨f, attached false s, ?_⟩
  rw [apply_configure (by rw [h]; rfl), hopen]
  exact if_neg (by rw [hsystem]; exact Bool.false_ne_true)

/-! ### Writing the entry of a failure -/

/-- The entry of a failure is added to the log file. -/
lemma apply_record_of_ok {s₁ : Session} (h : (openLog id).apply s = (.ok loc, s₁))
    (hdir : s₁.environment.logDir? = some dir) (context : String) (i : Incident) :
    (record context i).apply s = (.ok (some (pathIn dir)), { s₁ with
      files := s₁.files.append loc (i.logEntry s₁.clock.entry context).toUTF8.toList }) := by
  refine apply_toleratingSystem_of_ok ?_ _
  rw [Run.apply_bind_of_ok h, Run.apply_bind, Run.apply_modify]
  exact apply_path_of_some hdir

/-- Where the log file cannot be opened no entry is added. -/
lemma apply_record_of_error {s₁ : Session} (h : (openLog id).apply s = (.error f, s₁))
    (context : String) (i : Incident) :
    (record context i).apply s =
      if f.isSystem then
        (.ok none, s₁.log ⟨.warning, .logFile, "Failed to write log file: " ++ f.message⟩)
      else (.error f, s₁) :=
  apply_toleratingSystem_of_error (Run.apply_bind_of_error h _) _

/-- Under a known path without null characters the entry is written, or the refusal of the system is
put up with. -/
lemma isOk_record (hdir : s.environment.logDir? = some dir) (hnull : dir.hasNull = false)
    (context : String) (i : Incident) : ((record context i).apply s).1.isOk = true := by
  have hopens := opens_openLog id s
  obtain ⟨fs, hfiles⟩ := hopens.withFiles
  rcases hopen : (openLog id).apply s with ⟨f | loc, s₁⟩ <;> rw [hopen] at hopens hfiles <;>
    dsimp only at hopens hfiles
  · rw [apply_record_of_error hopen, if_pos]
    · rfl
    · exact hopens.isSystem hdir hnull (by rw [id, hasNull_pathIn, hnull])
  · rw [apply_record_of_ok hopen (by rw [hfiles]; exact hdir)]
    rfl

end LogFile

end SynthGraph
