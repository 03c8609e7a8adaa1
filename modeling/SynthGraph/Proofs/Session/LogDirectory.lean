import SynthGraph.Proofs.Session.LogFile
import SynthGraph.Proofs.Session.Records

/-!
# The log directory

Setting logging up, writing records and adding the entries of failures changes no regular file but
those in the log directory and the log files that are already known.  Everything else that a run
does leaves the environment alone, so that a report at its end says where the log file is, and
whether debugging is on, as it was at its start.  A file that cannot be opened because it is
protected may be taken away; where that may be is a parameter of what is said here.
-/

namespace SynthGraph

open FileSystem

variable {α β : Type} {s s' s'' : Session} {l loc : Location} {path : Path}

/-! ### The environment -/

/-- A record keeps the environment. -/
@[simp] lemma Session.environment_log (s : Session) (r : Record) :
    (s.log r).environment = s.environment := by
  simp [log, appendToLogs_eq]

/-- Records keep the environment. -/
@[simp] lemma Session.environment_logAll (s : Session) (rs : List Record) :
    (s.logAll rs).environment = s.environment := by
  induction rs generalizing s with
  | nil => rfl
  | cons r rs ih => exact (ih (s.log r)).trans (environment_log s r)

namespace Run

/-- From every session, a run keeps the environment. -/
def KeepsEnvironment (r : Run α) : Prop := ∀ s, (r.apply s).2.environment = s.environment

/-- Records keep the environment. -/
lemma OnlyRecords.keepsEnvironment {r : Run α} (h : r.OnlyRecords) : r.KeepsEnvironment := by
  intro s
  obtain ⟨rs, hrs⟩ := h s
  rw [hrs, Session.environment_logAll]

namespace KeepsEnvironment

lemma pure (a : α) : KeepsEnvironment (Pure.pure a : Run α) := fun _ => rfl

lemma throw (f : Failure) : KeepsEnvironment (MonadExcept.throw f : Run α) := fun _ => rfl

lemma get : KeepsEnvironment (MonadState.get : Run Session) := fun _ => rfl

lemma log (level : Level) (source : Source) (message : String) :
    KeepsEnvironment (Run.log level source message) :=
  (OnlyRecords.log level source message).keepsEnvironment

lemma setFiles (fs : FileSystem) :
    KeepsEnvironment (modify fun s => { s with files := fs } : Run PUnit) := fun _ => rfl

lemma ofFault (x : Except Fault α) : KeepsEnvironment (Run.ofFault x) :=
  fun s => by rw [apply_ofFault]

lemma ofFileFault (x : Except FileFault α) : KeepsEnvironment (Run.ofFileFault x) :=
  fun s => by rw [apply_ofFileFault]

/-- A sequence keeps the environment when its parts do. -/
lemma bind {r : Run α} {f : α → Run β} (h : KeepsEnvironment r) (hf : ∀ a, KeepsEnvironment (f a)) :
    KeepsEnvironment (r >>= f) := by
  intro s
  have hfirst := h s
  rw [apply_bind]
  rcases hr : r.apply s with ⟨e | a, s'⟩ <;> rw [hr] at hfirst
  · exact hfirst
  · exact (hf a s').trans hfirst

end KeepsEnvironment

end Run

/-! ### What logging changes -/

namespace Session

/-- A location below the log directory, whether its path is taken as it is written or from the
root. -/
def InLogDirectory (s : Session) (l : Location) : Prop :=
  ∃ logs, s.environment.logDir? = some logs ∧ ∃ dir ∈ [logs, logs.absolute s.files.here],
    ∃ below ≠ [], l = s.files.location dir ++ below

/-- The second session is what logging makes of the first: the environment is the same, and no
regular file has changed but log files and those in the log directory.  At some locations files may
be gone. -/
structure OnlyLogs (gone : Location → Prop) (s s' : Session) : Prop where
  environment : s'.environment = s.environment
  here : s'.files.here = s.files.here
  logFiles : ∀ loc ∈ s'.logFiles, loc ∈ s.logFiles ∨ s.InLogDirectory loc
  content : ∀ l ∉ s.logFiles, ¬s.InLogDirectory l →
    s'.files.content? l = s.files.content? l ∨ gone l ∧ s'.files.content? l = none

/-- The log directory is where it is in another session with the same environment and the same
working directory. -/
lemma inLogDirectory_iff (henvironment : s'.environment = s.environment)
    (hhere : s'.files.here = s.files.here) : s'.InLogDirectory l ↔ s.InLogDirectory l := by
  simp only [InLogDirectory, henvironment, hhere, location_eq hhere]

namespace OnlyLogs

variable {gone gone' : Location → Prop}

/-- Files may be gone at more locations. -/
lemma mono (h : OnlyLogs gone s s') (hgone : ∀ l, gone l → gone' l) : OnlyLogs gone' s s' :=
  ⟨h.environment, h.here, h.logFiles, fun l hl hout =>
    (h.content l hl hout).imp_right (And.imp_left (hgone l))⟩

/-- Nothing is logged. -/
lemma refl (gone : Location → Prop) (s : Session) : OnlyLogs gone s s :=
  ⟨rfl, rfl, fun _ => .inl, fun _ _ _ => .inl rfl⟩

/-- Logging goes on. -/
lemma trans (h : OnlyLogs gone s s') (h' : OnlyLogs gone s' s'') : OnlyLogs gone s s'' := by
  have hdir (l : Location) := inLogDirectory_iff (l := l) h.environment h.here
  refine ⟨h'.environment.trans h.environment, h'.here.trans h.here, ?_, ?_⟩
  · intro loc hloc
    rcases h'.logFiles loc hloc with hold | hnew
    · exact h.logFiles loc hold
    · exact .inr ((hdir loc).mp hnew)
  · intro l hl hout
    have hl' : l ∉ s'.logFiles := fun hmem => (h.logFiles l hmem).elim hl hout
    rcases h'.content l hl' (mt (hdir l).mp hout) with hsame | hgone
    · rw [hsame]
      exact h.content l hl hout
    · exact .inr hgone

/-- Nothing but what is at some locations has changed in the file system. -/
lemma of_agreesOff (henvironment : s'.environment = s.environment)
    (hlogs : s'.logFiles ⊆ s.logFiles) {locs : List Location}
    (hlocs : ∀ l ∈ locs, l ∈ s.logFiles ∨ s.InLogDirectory l)
    (hagrees : AgreesOff locs s.files s'.files) : OnlyLogs gone s s' := by
  refine ⟨henvironment, hagrees.here, fun loc hloc => .inl (hlogs hloc), fun l hl hout => .inl ?_⟩
  exact hagrees.content?_eq fun hmem => (hlocs l hmem).elim hl hout

/-- Records are written. -/
lemma logAll (s : Session) (rs : List Record) : OnlyLogs gone s (s.logAll rs) :=
  of_agreesOff (environment_logAll s rs) (fun _ hloc => logFiles_logAll s rs ▸ hloc)
    (fun _ => .inl) (agreesOff_logAll s rs)

/-- One record is written. -/
lemma log (s : Session) (r : Record) : OnlyLogs gone s (s.log r) := logAll s [r]

/-- No regular file changes. -/
lemma withFiles {fs : FileSystem} (hhere : fs.here = s.files.here)
    (hcontent : ∀ l, fs.content? l = s.files.content? l) :
    OnlyLogs gone s { s with files := fs } :=
  ⟨rfl, hhere, fun _ => .inl, fun l _ _ => .inl (hcontent l)⟩

/-- Text is added to a file in the log directory. -/
lemma append (h : s.InLogDirectory loc) (content : List UInt8) :
    OnlyLogs gone s { s with files := s.files.append loc content } :=
  of_agreesOff rfl (fun _ => id) (fun _ hl => .inr (List.mem_singleton.mp hl ▸ h))
    (agreesOff_append s.files (List.mem_singleton_self loc) content)

end OnlyLogs

end Session

/-! ### The log file -/

namespace LogFile

open Session

variable {gone : Location → Prop}

/-- The path of the log file as it is written, or from the root, leads to the log directory. -/
lemma inLogDirectory_pathIn {logs dir : Path} (hlogs : s.environment.logDir? = some logs)
    (hdir : dir ∈ [logs, logs.absolute s.files.here]) :
    s.InLogDirectory (s.files.location (pathIn dir)) :=
  ⟨logs, hlogs, dir, hdir, ["synthforge.log"], by simp, location_pathIn s.files dir⟩

/-- A place for the log file in the log directory, as it is written or from the root. -/
def InDirectory (place : Path → Path) (here : Location) : Prop :=
  ∀ logs, ∃ dir ∈ [logs, logs.absolute here], place (pathIn logs) = pathIn dir

/-- The log file as it is written. -/
lemma inDirectory_id (here : Location) : InDirectory id here :=
  fun logs => ⟨logs, List.mem_cons_self, rfl⟩

/-- The log file from the root. -/
lemma inDirectory_absolute (here : Location) :
    InDirectory (fun path => path.absolute here) here :=
  fun logs => ⟨logs.absolute here, by simp, absolute_pathIn logs here⟩

/-- Opening the log file changes no regular file but the log file, which is in the log directory. -/
lemma Opens.onlyLogs {place : Path → Path} {result : Except Failure Location}
    (h : Opens place s result s') (gone : Location → Prop)
    (hplace : InDirectory place s.files.here) :
    OnlyLogs gone s s' ∧ ∀ loc, result = .ok loc → s.InLogDirectory loc := by
  cases h with
  | unknown => exact ⟨.refl gone s, nofun⟩
  | refused dir fs e hdir hway => exact ⟨.withFiles hway.here hway.content?_eq, nofun⟩
  | opened logs fs loc hlogs hway hopen =>
    obtain ⟨dir, hdir, heq⟩ := hplace logs
    have hloc : loc = s.files.location (pathIn dir) := by
      rw [eq_location_of_locate (openFile_eq_ok_iff.mp hopen).2.1, location_eq hway.here, heq]
    have hin : s.InLogDirectory loc := hloc ▸ inLogDirectory_pathIn hlogs hdir
    have hmade : OnlyLogs gone s { s with files := fs } := .withFiles hway.here hway.content?_eq
    have hin' := (inLogDirectory_iff hmade.environment hmade.here).mpr hin
    exact ⟨hmade.trans (.append hin' []), fun _ h => Except.ok.inj h ▸ hin⟩

/-- Setting logging up changes no regular file but in the log directory. -/
lemma onlyLogs_configure (force : Bool) (s : Session) :
    OnlyLogs gone s ((configure force).apply s).2 := by
  rcases hdone : s.configured && !force with _ | _
  · rw [apply_configure hdone]
    have hopens := opens_openLog (fun path => path.absolute s.files.here) (attached force s)
    have hattached : OnlyLogs gone s (attached force s) :=
      ⟨rfl, rfl, fun loc hloc => .inl (logFiles_attached_subset force s hloc),
        fun _ _ _ => .inl rfl⟩
    rcases hrun : (openLog fun path => path.absolute s.files.here).apply (attached force s) with
      ⟨f | loc, s'⟩ <;> rw [hrun] at hopens <;>
      obtain ⟨hopened, hloc⟩ := hopens.onlyLogs gone (inDirectory_absolute _)
    · dsimp only
      split
      · have hlogged := (hattached.trans hopened).trans (.log s' ⟨.warning, .logFile,
          "Failed to configure file logging: " ++ f.message⟩)
        exact ⟨hlogged.environment, hlogged.here, hlogged.logFiles, hlogged.content⟩
      · exact hattached.trans hopened
    · have hall := hattached.trans hopened
      refine ⟨hall.environment, hall.here, fun loc' hloc' => ?_, hall.content⟩
      unfold logFiles at hloc'
      rw [List.filterMap_append, List.mem_append] at hloc'
      rcases hloc' with hold | hnew
      · exact hall.logFiles loc' hold
      · obtain rfl : loc' = loc := List.mem_singleton.mp hnew
        exact .inr (hloc loc' rfl)
  · obtain ⟨hconfigured, hforce⟩ := Bool.and_eq_true_iff.mp hdone
    obtain rfl : force = false := by simpa using hforce
    rw [apply_configure_of_configured hconfigured]
    exact .refl gone s

/-- The entry of a failure changes no regular file but in the log directory. -/
lemma onlyLogs_record (context : String) (i : Incident) (s : Session) :
    OnlyLogs gone s ((record context i).apply s).2 := by
  have hopens := opens_openLog id s
  obtain ⟨hopened, hloc⟩ := hopens.onlyLogs gone (inDirectory_id _)
  rcases hrun : (openLog id).apply s with ⟨f | loc, s₁⟩ <;>
    rw [hrun] at hopens hopened hloc
  · rw [apply_record_of_error hrun]
    split
    · exact hopened.trans (.log s₁ _)
    · exact hopened
  · obtain ⟨dir, hdir, -⟩ := hopens.exists_locate
    rw [apply_record_of_ok hrun (hopened.environment ▸ hdir)]
    exact hopened.trans
      (.append ((inLogDirectory_iff hopened.environment hopened.here).mpr (hloc loc rfl)) _)

end LogFile

end SynthGraph
