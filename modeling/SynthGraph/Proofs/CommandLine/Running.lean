import SynthGraph.CommandLine.Execution
import SynthGraph.Proofs.Session.LogDirectory

/-!
# Runs of the program

A run sets logging up and performs its command, and reports the failure when there is one.  What the
command does is told by the command; what is said here holds of every command: where a run prints,
where it reports, and what a report is made of.
-/

namespace SynthGraph

open Session

namespace CommandLine

variable {s s' : Session} {i : Invocation} {args : List String} {lines : List String} {f : Failure}

/-! ### Outcomes -/

/-- What a run prints, apart from descriptions of its arguments. -/
def Outcome.output : Outcome → String
  | usage _ => ""
  | done output => output
  | failed .. => ""
  | raised _ => ""

/-- The report of a failure. -/
def Outcome.report? : Outcome → Option String
  | usage _ => none
  | done _ => none
  | failed _ report => some report
  | raised _ => none

/-- Lines one after the other. -/
def textOf (lines : List String) : String := String.join (lines.map (· ++ "\n"))

/-- The session in which the command runs, with logging set up. -/
def prepared (s : Session) : Session := ((LogFile.configure false).apply s).2

/-- Setting logging up keeps the environment. -/
@[simp] lemma environment_prepared (s : Session) : (prepared s).environment = s.environment := by
  have hlogs : OnlyLogs (fun _ => False) s (prepared s) := LogFile.onlyLogs_configure false s
  exact hlogs.environment

/-- A run whose logging cannot be set up is not caught. -/
lemma run_of_raised (hsetUp : ((LogFile.configure false).apply s).1 = .error f)
    (args : List String) (terminal : Bool) : run args terminal s = (.raised f, prepared s) := by
  have hconfigure : (LogFile.configure false).apply s = (.error f, prepared s) :=
    Prod.ext hsetUp rfl
  unfold run
  rw [hconfigure]

/-- A run whose command succeeds prints the lines of the command. -/
lemma run_of_performed (hargs : Request.ofArguments args = .invoke i) (terminal : Bool)
    (hsetUp : ((LogFile.configure false).apply s).1 = .ok ())
    (h : (perform i).apply (prepared s) = (.ok lines, s')) :
    run args terminal s = (.done (textOf lines), s') := by
  have hconfigure : (LogFile.configure false).apply s = (.ok (), prepared s) :=
    Prod.ext hsetUp rfl
  unfold run
  simp only [hconfigure, hargs, h]
  rfl

/-- A run whose command fails ends with its report, or with the failure of the report. -/
lemma run_of_refused (hargs : Request.ofArguments args = .invoke i) (terminal : Bool)
    (hsetUp : ((LogFile.configure false).apply s).1 = .ok ())
    (h : (perform i).apply (prepared s) = (.error f, s')) :
    run args terminal s =
      match (report f terminal).apply s' with
      | (.ok text, s'') => (.failed f text, s'')
      | (.error g, s'') => (.raised g, s'') := by
  have hconfigure : (LogFile.configure false).apply s = (.ok (), prepared s) :=
    Prod.ext hsetUp rfl
  rcases hreport : (report f terminal).apply s' with ⟨g | text, s''⟩ <;>
    simp only [run, hconfigure, hargs, h, hreport]

/-! ### Reports -/

/-- What a report does: it is made of the failure and of the environment when the log file has a
place, fails without one, and changes nothing but logs in any case. -/
structure Reports (f : Failure) (terminal : Bool) (s : Session) (result : Except Failure String)
    (s' : Session) : Prop where
  onlyLogs : ∀ gone, OnlyLogs gone s s'
  made : ∀ dir, s.environment.logDir? = some dir → dir.hasNull = false → result =
    .ok (f.incident.render s.environment (LogFile.pathIn dir) context terminal)
  unplaced : (∀ dir, s.environment.logDir? = some dir → dir.hasNull = true) →
    ∃ g, result = .error g

/-- A report does what is said of it. -/
lemma reports_report (f : Failure) (terminal : Bool) (s : Session) :
    Reports f terminal s ((report f terminal).apply s).1 ((report f terminal).apply s).2 := by
  let r : Record := ⟨.warning, .commandLine, context ++ " failed: " ++ f.message⟩
  have hlog : (Run.log .warning .commandLine (context ++ " failed: " ++ f.message)).apply s =
      (.ok (), s.log r) := Run.apply_log _ _ _ s
  have hrecorded (gone : Location → Prop) :
      OnlyLogs gone s ((LogFile.record context f.incident).apply (s.log r)).2 :=
    (OnlyLogs.log s r).trans (LogFile.onlyLogs_record context f.incident (s.log r))
  rw [report, Run.apply_bind_of_ok hlog, Run.apply_bind]
  rcases hrecord : (LogFile.record context f.incident).apply (s.log r) with ⟨g | path, s₁⟩ <;>
    simp only [hrecord] at hrecorded
  · refine ⟨hrecorded, fun dir hdir hnull => ?_, fun _ => ⟨g, rfl⟩⟩
    have hplaced := LogFile.isOk_record (s := s.log r) (by rwa [environment_log]) hnull context
      f.incident
    rw [hrecord] at hplaced
    cases hplaced
  · have henvironment := (hrecorded fun _ => False).environment
    rcases hdir : s.environment.logDir? with _ | dir
    · have hpath : LogFile.path.apply s₁ = (.error .unknownHome, s₁) :=
        Run.apply_bind_of_error
          (LogFile.apply_directory_of_none (by rw [henvironment, hdir])) _
      dsimp only
      rw [Run.apply_bind_of_error hpath]
      exact ⟨hrecorded, fun _ h => absurd (hdir.symm.trans h) nofun, fun _ => ⟨_, rfl⟩⟩
    · have hpath : LogFile.path.apply s₁ = (.ok (LogFile.pathIn dir), s₁) :=
        LogFile.apply_path_of_some (by rw [henvironment, hdir])
      dsimp only
      rw [Run.apply_bind_of_ok hpath, Run.apply_bind, Run.apply_get]
      refine ⟨hrecorded, fun dir' hdir' _ => ?_, fun hall => ?_⟩
      · obtain rfl : dir = dir' := Option.some.inj (hdir.symm.trans hdir')
        rw [← henvironment]
        rfl
      · obtain ⟨g, hsystem, hopen⟩ := LogFile.apply_openLog_of_noPlace (s := s.log r)
          (by rwa [environment_log]) id
        have hfails := LogFile.apply_record_of_error hopen context f.incident
        rw [hsystem, hrecord, if_neg Bool.false_ne_true] at hfails
        cases hfails

end CommandLine

end SynthGraph
