import SynthGraph.Proofs.Files.Alike
import SynthGraph.Session.Basic

/-!
# Runs and their log files

How the steps of a run are taken apart, and what records do to a session.  A record changes nothing
but what the log files hold, and after it every log file is there.  Sessions that differ in nothing
else than the records and what the log files hold are alike.
-/

namespace SynthGraph

variable {α β : Type} {s s' s'' t : Session}

/-! ### Taking runs apart -/

namespace Run

/-- Returning a value leaves the session alone. -/
@[simp] lemma apply_pure (a : α) (s : Session) : (pure a : Run α).apply s = (.ok a, s) := rfl

/-- Reading the session leaves it alone. -/
@[simp] lemma apply_get (s : Session) : (get : Run Session).apply s = (.ok s, s) := rfl

/-- Updating the session. -/
@[simp] lemma apply_modify (f : Session → Session) (s : Session) :
    (modify f : Run PUnit).apply s = (.ok ⟨⟩, f s) := rfl

/-- Writing a record. -/
@[simp] lemma apply_log (level : Level) (source : Source) (message : String) (s : Session) :
    (log level source message).apply s = (.ok (), s.log ⟨level, source, message⟩) := rfl

/-- A fault stops the run and leaves the session alone. -/
@[simp] lemma apply_ofFault (x : Except Fault α) (s : Session) :
    (ofFault x).apply s = (x.mapError .fault, s) := by
  cases x <;> rfl

/-- A refusal of the file system stops the run and leaves the session alone. -/
@[simp] lemma apply_ofFileFault (x : Except FileFault α) (s : Session) :
    (ofFileFault x).apply s = (x.mapError .file, s) := by
  cases x <;> rfl

/-- A sequence stops at its first failure and keeps what was done until then. -/
lemma apply_bind (r : Run α) (f : α → Run β) (s : Session) :
    (r >>= f).apply s =
      match r.apply s with
      | (.ok a, s') => (f a).apply s'
      | (.error e, s') => (.error e, s') := by
  have hunfold : (r >>= f).apply s = ExceptT.bindCont f (r.apply s).1 (r.apply s).2 := rfl
  rw [hunfold]
  rcases r.apply s with ⟨_ | a, s'⟩ <;> rfl

/-- After a first part that succeeded the rest of a sequence is run. -/
lemma apply_bind_of_ok {r : Run α} {a : α} (h : r.apply s = (.ok a, s')) (f : α → Run β) :
    (r >>= f).apply s = (f a).apply s' := by
  rw [apply_bind, h]

/-- A first part that failed stops a sequence. -/
lemma apply_bind_of_error {r : Run α} {e : Failure} (h : r.apply s = (.error e, s'))
    (f : α → Run β) : (r >>= f).apply s = (.error e, s') := by
  rw [apply_bind, h]

end Run

/-- The location of the log file of a handler. -/
def Handler.file? : Handler → Option Location
  | .console _ => none
  | .file loc => some loc

namespace Session

open FileSystem

/-! ### What records change -/

/-- The locations of the log files of the handlers. -/
def logFiles (s : Session) : List Location := s.handlers.filterMap Handler.file?

/-- Every log file is there. -/
def LogsOpen (s : Session) : Prop := ∀ loc ∈ s.logFiles, s.files.IsLog loc

/-- Writes records, one after another. -/
def logAll (s : Session) (rs : List Record) : Session := rs.foldl log s

/-- Text is added to every log file. -/
lemma appendToLogs_eq (s : Session) (text : String) :
    s.appendToLogs text =
      { s with
        files := s.logFiles.foldl (fun fs loc => fs.append loc text.toUTF8.toList) s.files } := by
  have hfold (handlers : List Handler) (s : Session) :
      handlers.foldl (fun s handler =>
        match handler with
        | .console _ => s
        | .file loc => { s with files := s.files.append loc text.toUTF8.toList }) s =
      { s with
        files := (handlers.filterMap Handler.file?).foldl
          (fun fs loc => fs.append loc text.toUTF8.toList) s.files } := by
    induction handlers generalizing s with
    | nil => rfl
    | cons handler handlers ih =>
      cases handler with
      | console level => exact ih s
      | file loc => exact ih { s with files := s.files.append loc text.toUTF8.toList }
  exact hfold s.handlers s

/-- A record keeps the handlers. -/
@[simp] lemma handlers_log (s : Session) (r : Record) : (s.log r).handlers = s.handlers := by
  simp [log, appendToLogs_eq]

/-- A record keeps the log files where they are. -/
@[simp] lemma logFiles_log (s : Session) (r : Record) : (s.log r).logFiles = s.logFiles := by
  simp [logFiles]

/-- A record is added to the log files. -/
lemma files_log (s : Session) (r : Record) :
    (s.log r).files =
      s.logFiles.foldl (fun fs loc => fs.append loc (r.line s.clock.line).toUTF8.toList)
        s.files := by
  simp [log, appendToLogs_eq]

/-- A record changes nothing but the log files. -/
lemma agreesOff_log (s : Session) (r : Record) :
    AgreesOff s.logFiles s.files (s.log r).files := by
  rw [files_log]
  exact agreesOff_foldl_append s.files (fun _ h => h) _

/-- After a record every log file is there. -/
lemma logsOpen_log (s : Session) (r : Record) : (s.log r).LogsOpen := by
  intro loc hloc
  rw [logFiles_log] at hloc
  rw [files_log]
  exact isLog_foldl_append s.files (.inl hloc) _

/-- A record keeps all kinds when every log file is there. -/
lemma LogsOpen.sameKinds_log (h : s.LogsOpen) (r : Record) : SameKinds s.files (s.log r).files := by
  rw [files_log]
  exact sameKinds_foldl_append h _

/-- Records keep the handlers. -/
@[simp] lemma handlers_logAll (s : Session) (rs : List Record) :
    (s.logAll rs).handlers = s.handlers := by
  induction rs generalizing s with
  | nil => rfl
  | cons r rs ih => exact (ih (s.log r)).trans (handlers_log s r)

/-- Records keep the log files where they are. -/
@[simp] lemma logFiles_logAll (s : Session) (rs : List Record) :
    (s.logAll rs).logFiles = s.logFiles := by
  simp [logFiles]

/-- Records change nothing but the log files. -/
lemma agreesOff_logAll (s : Session) (rs : List Record) :
    AgreesOff s.logFiles s.files (s.logAll rs).files := by
  induction rs generalizing s with
  | nil => exact .refl _ _
  | cons r rs ih =>
    have htail := ih (s.log r)
    rw [logFiles_log] at htail
    exact (agreesOff_log s r).trans htail

/-- After records, or when it was there before, every log file is there. -/
lemma logsOpen_logAll (rs : List Record) (h : rs ≠ [] ∨ s.LogsOpen) : (s.logAll rs).LogsOpen := by
  induction rs generalizing s with
  | nil => exact h.resolve_left (by simp)
  | cons r rs ih => exact ih (.inr (logsOpen_log s r))

/-- Records keep all kinds when every log file is there. -/
lemma LogsOpen.sameKinds_logAll (h : s.LogsOpen) (rs : List Record) :
    SameKinds s.files (s.logAll rs).files := by
  induction rs generalizing s with
  | nil => exact .refl _
  | cons r rs ih => exact (h.sameKinds_log r).trans (ih (logsOpen_log s r))

/-- Records leave files that are alike when every log file is there. -/
lemma LogsOpen.alike_logAll (h : s.LogsOpen) (rs : List Record) :
    FileSystem.Alike s.logFiles s.files (s.logAll rs).files :=
  ⟨agreesOff_logAll s rs, h.sameKinds_logAll rs⟩

/-- Records are written one list after another. -/
lemma logAll_append (s : Session) (rs rs' : List Record) :
    s.logAll (rs ++ rs') = (s.logAll rs).logAll rs' :=
  List.foldl_append

/-- Log files are there for good. -/
lemma LogsOpen.withFiles (h : s.LogsOpen) {fs : FileSystem} (hgrows : Grows s.files fs) :
    ({ s with files := fs } : Session).LogsOpen :=
  fun loc hloc => (h loc hloc).imp_right (hgrows.kind loc _)

/-! ### Protected files -/

/-- Neither a regular file nor a log file is protected. -/
def FilesFree (s : Session) : Prop :=
  ∀ loc ∈ s.files.locked, s.files.kind? loc = some .directory ∧ loc ∉ s.logFiles

/-- The file system of a session whose files are free has free files. -/
lemma FilesFree.files (h : s.FilesFree) : s.files.FilesFree := fun loc hloc => (h loc hloc).1

/-- Files stay free with a file system that has grown. -/
lemma FilesFree.withFiles (h : s.FilesFree) {fs : FileSystem} (hgrows : Grows s.files fs) :
    ({ s with files := fs } : Session).FilesFree :=
  fun loc hloc => (h loc (hgrows.locked ▸ hloc)).imp_left (hgrows.kind loc _)

/-- Files stay free when a record is written. -/
lemma FilesFree.log (h : s.FilesFree) (r : Record) : (s.log r).FilesFree := by
  intro loc hloc
  have hagrees := agreesOff_log s r
  rw [hagrees.locked] at hloc
  obtain ⟨hkind, hnot⟩ := h loc hloc
  refine ⟨?_, by rwa [logFiles_log]⟩
  unfold kind? at hkind ⊢
  rwa [hagrees.entry loc hnot]

/-- Files stay free when records are written. -/
lemma FilesFree.logAll (h : s.FilesFree) (rs : List Record) : (s.logAll rs).FilesFree := by
  induction rs generalizing s with
  | nil => exact h
  | cons r rs ih => exact ih (h.log r)

/-! ### Sessions that are alike -/

/-- Two sessions with log files that are there differ at most in what those hold and in what was
recorded. -/
structure Alike (s t : Session) : Prop where
  handlers : t.handlers = s.handlers
  agrees : AgreesOff s.logFiles s.files t.files
  logsLeft : s.LogsOpen
  logsRight : t.LogsOpen

/-- Sessions that are alike have the same log files. -/
lemma Alike.logFiles_eq (h : Alike s t) : t.logFiles = s.logFiles := by
  unfold logFiles
  rw [h.handlers]

/-- Sessions that are alike have entries of the same kinds. -/
lemma Alike.sameKinds (h : Alike s t) : SameKinds s.files t.files := by
  refine ⟨h.agrees.here, h.agrees.locked, ?_⟩
  intro l
  by_cases hl : l ∈ s.logFiles
  · have hlog' := h.logsRight l (h.logFiles_eq ▸ hl)
    rcases h.logsLeft l hl with rfl | hkind
    · simp [kind?]
    · rcases hlog' with rfl | hkind'
      · simp [kind?]
      · rw [hkind, hkind']
  · unfold kind?
    rw [h.agrees.entry l hl]

/-- The file systems of sessions that are alike differ at most in what the log files hold. -/
lemma Alike.files (h : Alike s t) : FileSystem.Alike s.logFiles s.files t.files :=
  ⟨h.agrees, h.sameKinds⟩

/-- In sessions that are alike the same files are protected. -/
lemma Alike.filesFree (h : Alike s t) (hfree : s.FilesFree) : t.FilesFree := by
  intro loc hloc
  rw [h.agrees.locked] at hloc
  exact ⟨(h.sameKinds.kind loc).trans (hfree loc hloc).1, h.logFiles_eq ▸ (hfree loc hloc).2⟩

/-- Sessions stay alike with files that are alike. -/
lemma Alike.withFiles (h : Alike s t) {fs fs' : FileSystem}
    (hfiles : FileSystem.Alike s.logFiles fs fs') (hgrows : Grows s.files fs)
    (hgrows' : Grows t.files fs') : Alike { s with files := fs } { t with files := fs' } :=
  ⟨h.handlers, hfiles.agrees, h.logsLeft.withFiles hgrows, h.logsRight.withFiles hgrows'⟩

/-- Sessions stay alike when records are written. -/
lemma Alike.log (h : Alike s t) (r r' : Record) : Alike (s.log r) (t.log r') := by
  refine ⟨?_, ?_, logsOpen_log s r, logsOpen_log t r'⟩
  · rw [handlers_log, handlers_log, h.handlers]
  · have hright := agreesOff_log t r'
    rw [h.logFiles_eq] at hright
    rw [logFiles_log]
    exact ((agreesOff_log s r).symm.trans h.agrees).trans hright

/-- Different records make sessions that are alike, as long as there are some. -/
lemma alike_logAll {rs rs' : List Record} (h : rs ≠ []) (h' : rs' ≠ []) :
    Alike (s.logAll rs) (s.logAll rs') := by
  refine ⟨by simp, ?_, logsOpen_logAll rs (.inl h), logsOpen_logAll rs' (.inl h')⟩
  rw [logFiles_logAll]
  exact (agreesOff_logAll s rs).symm.trans (agreesOff_logAll s rs')

end Session

end SynthGraph
