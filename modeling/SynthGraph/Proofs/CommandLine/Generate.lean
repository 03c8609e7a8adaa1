import SynthGraph.Proofs.CommandLine.Options
import SynthGraph.Proofs.CommandLine.Running
import SynthGraph.Proofs.File.Size
import SynthGraph.Proofs.Output.FirstFile
import SynthGraph.Proofs.Session.Panel

/-!
# What the command that generates reports

The command sets logging up, checks its settings, finds the generators, builds them and writes
their definitions.  When all of that succeeds it returns zero and prints a line for each file and a
last one for all of them, and otherwise it returns one, prints nothing and reports the failure.  A
run that does not get to its first file leaves every regular file as it was, but for those in the
log directory and for a protected one at the first path, which may be gone.

This takes a place for the log file.  When its directory is not known, or its path holds a null
character, setting logging up and reporting fail, and the program returns nothing.
-/

namespace SynthGraph

open Session FileSystem

/-- Checking settings leaves the session alone. -/
lemma Run.snd_apply_settings (members : List (String × Json)) (s : Session) :
    ((settings members).apply s).2 = s := by
  have hcheck (c : Checked Settings) : ((ofChecked c).apply s).2 = s := by
    cases c <;> rfl
  unfold settings
  rcases members.lookup Checked.outDirKey with _ | value
  · rw [apply_bind, CommandLine.apply_defaultOutDir]
    rcases s.environment.outDir? with _ | outDir
    · rfl
    · exact hcheck _
  · exact hcheck _

namespace CommandLine

variable {s s' : Session} {i : Invocation} {args : List String} {p outDir : Path} {n width : Nat}
  {paths : List Path} {settings : Settings} {f : Failure}

/-! ### The lines -/

/-- The line of a file, with its name and its size. -/
def fileLine (p : Path) (n : Nat) : String := s!"  {p.name} ... ok ({n} bytes)"

/-- The last line, with the number of files and the output directory. -/
def totalLine (n : Nat) (outDir : Path) : String := s!"Wrote {n} file(s) to {outDir}"

/-- A line tells the name of a file and how many bytes it holds. -/
def Tells (fs : FileSystem) (p : Path) (line : String) : Prop :=
  ∃ content, fs.read p = .ok content ∧ line = fileLine p content.length

/-- Files that can be read have a line each. -/
lemma apply_writtenLines (width : Nat) (h : ∀ p ∈ paths, ∃ content, s.files.read p = .ok content) :
    ∃ lines, List.Forall₂ (Tells s.files) paths lines ∧
      (writtenLines width paths).apply s = (.ok (lines.map (printed width)), s) := by
  induction paths with
  | nil => exact ⟨[], .nil, rfl⟩
  | cons p paths ih =>
    obtain ⟨hfirst, hrest⟩ := List.forall_mem_cons.mp h
    obtain ⟨content, hread⟩ := hfirst
    obtain ⟨lines, htells, hlines⟩ := ih hrest
    refine ⟨fileLine p content.length :: lines, .cons ⟨content, hread, rfl⟩ htells, ?_⟩
    have hsize : (fileSize p).apply s = (.ok content.length, s) := by
      unfold fileSize
      simp only [Run.apply_bind, Run.apply_get, Run.apply_ofFileFault, hread, Except.mapError,
        Run.apply_pure]
    rw [writtenLines, Run.apply_bind_of_ok hsize, Run.apply_bind_of_ok hlines]
    rfl

/-- A text without control characters and codes is printed as it is when there is room. -/
lemma printed_eq {text : String} (hcontrols : ∀ c ∈ text.toList, 0x20 ≤ c.toNat)
    (hcodes : ¬Emoji.HasCode text.toList) (hfits : FitsLine width text) :
    printed width text = text := by
  rw [printed, withEmoji, Emoji.replaceCodes_eq hcodes, String.ofList_toList]
  exact folded_eq hcontrols hfits

/-- A plain text is printed as it is between texts of plain characters, when there is room. -/
lemma printed_surrounded {before text after : String} (htext : Plain text.toList)
    (hbefore : before.toList.all isPlain = true) (hafter : after.toList.all isPlain = true)
    (hfits : FitsLine width (before ++ text ++ after)) :
    printed width (before ++ text ++ after) = before ++ text ++ after := by
  refine printed_eq ?_ ?_ hfits
  · simp only [String.toList_append, List.mem_append]
    rintro c ((hc | hc) | hc)
    · exact (plain_of_all hbefore).controls c hc
    · exact htext.controls c hc
    · exact (plain_of_all hafter).controls c hc
  · rw [String.toList_append, String.toList_append]
    exact fun hcode => htext.codes
      ((hcode.of_append_right (colon_notMem hafter)).of_append_left (colon_notMem hbefore))

/-- The line of a file with a plain name is printed as it is when there is room. -/
lemma printed_fileLine (hname : Plain p.name.toList) (hfits : FitsLine width (fileLine p n)) :
    printed width (fileLine p n) = fileLine p n := by
  have hline : fileLine p n = "  " ++ p.name ++ (" ... ok (" ++ toString n ++ " bytes)") := by
    simp only [fileLine, String.append_assoc, toString]
  rw [hline] at hfits ⊢
  refine printed_surrounded hname (by decide) ?_ hfits
  rw [String.toList_append, String.toList_append, List.all_append, List.all_append,
    all_isPlain_toString]
  decide

/-- The last line is printed as it is when the directory has a plain path and there is room. -/
lemma printed_totalLine (hdir : Plain outDir.toString.toList)
    (hfits : FitsLine width (totalLine n outDir)) :
    printed width (totalLine n outDir) = totalLine n outDir := by
  have hline : totalLine n outDir =
      "Wrote " ++ toString n ++ " file(s) to " ++ outDir.toString ++ "" := by
    simp only [totalLine, String.append_assoc, String.append_empty, toString]
  rw [hline] at hfits ⊢
  refine printed_surrounded hdir ?_ rfl hfits
  rw [String.toList_append, String.toList_append, List.all_append, List.all_append,
    all_isPlain_toString]
  decide

/-- Lines that are printed as they are. -/
lemma map_printed_eq {fs : FileSystem} {lines : List String}
    (htells : List.Forall₂ (Tells fs) paths lines) (hnames : ∀ p ∈ paths, Plain p.name.toList)
    (hfits : ∀ line ∈ lines, FitsLine width line) : lines.map (printed width) = lines := by
  induction htells with
  | nil => rfl
  | cons hline _ ih =>
    obtain ⟨hname, hnames'⟩ := List.forall_mem_cons.mp hnames
    obtain ⟨hfit, hfits'⟩ := List.forall_mem_cons.mp hfits
    obtain ⟨content, -, rfl⟩ := hline
    rw [List.map_cons, printed_fileLine hname hfit, ih hnames' hfits']

/-! ### The command -/

/-- What the command does before it prints: it checks the settings, finds the generators that they
ask for, builds them and writes their definitions. -/
def writeRequested (i : Invocation) : Run (Settings × List Path) := do
  let settings ← Run.settings i.members
  let paths ← Output.writeSelected settings
  return (settings, paths)

/-- The settings are good, the generators are found and built, and the first file is written. -/
def WritesFirstFile (i : Invocation) (s : Session) : Prop :=
  ∃ settings gs s₁, ((Run.settings i.members).apply s).1 = .ok settings ∧
    settings.resolve.apply s = (.ok gs, s₁) ∧
    Output.WritesFirst gs settings.outDir settings.bundleName s₁

/-- Generators are found and written when the settings are good. -/
lemma apply_writeRequested (i : Invocation) (s : Session) :
    (writeRequested i).apply s =
      match ((Run.settings i.members).apply s).1 with
      | .error f => (.error f, s)
      | .ok settings => (((Output.writeSelected settings).apply s).1.map (settings, ·),
          ((Output.writeSelected settings).apply s).2) := by
  have hsame := Run.snd_apply_settings i.members s
  rw [writeRequested, Run.apply_bind]
  rcases hsettings : (Run.settings i.members).apply s with ⟨f | settings, s'⟩ <;>
    rw [hsettings] at hsame <;> obtain rfl : s' = s := hsame
  · rfl
  · dsimp only
    rw [Run.apply_bind]
    rcases (Output.writeSelected settings).apply s' with ⟨f | paths, s₁⟩ <;> rfl

/-- The command keeps the environment. -/
lemma keepsEnvironment_writeRequested (i : Invocation) : (writeRequested i).KeepsEnvironment := by
  intro s
  rw [apply_writeRequested]
  rcases ((Run.settings i.members).apply s).1 with f | settings
  · rfl
  · exact Output.keepsEnvironment_writeSelected settings s

/-- A location is protected, and the first path to which the command is to write leads there. -/
def ProtectedFirst (i : Invocation) (s : Session) (l : Location) : Prop :=
  ∃ settings gs, ((Run.settings i.members).apply s).1 = .ok settings ∧
    (settings.resolve.apply s).1 = .ok gs ∧
    Output.FirstProtected gs settings.outDir settings.bundleName s.files l

/-- A command that does not get to its first file changes nothing but logs, except that a protected
file at its first path may be gone. -/
lemma onlyLogs_writeRequested (h : ¬WritesFirstFile i s) :
    OnlyLogs (ProtectedFirst i s) s ((writeRequested i).apply s).2 := by
  rw [apply_writeRequested]
  rcases hsettings : ((Run.settings i.members).apply s).1 with f | settings
  · exact .refl _ s
  · refine (Output.onlyLogs_writeSelected fun gs s₁ hresolve hfirst =>
      h ⟨settings, gs, s₁, hsettings, hresolve, hfirst⟩).mono ?_
    rintro l ⟨gs, hgs, hl⟩
    exact ⟨settings, gs, hsettings, hgs, hl⟩

/-- A command that succeeds has written files that can be read. -/
lemma exists_read_of_writeRequested
    (h : (writeRequested i).apply s = (.ok (settings, paths), s')) :
    ∀ p ∈ paths, ∃ content, s'.files.read p = .ok content := by
  rw [apply_writeRequested] at h
  rcases hsettings : ((Run.settings i.members).apply s).1 with f | settings' <;>
    rw [hsettings] at h
  · cases h
  · dsimp only at h
    rcases hrun : (Output.writeSelected settings').apply s with ⟨f | paths', s₁⟩ <;>
      rw [hrun] at h <;> cases h
    exact Output.exists_read_of_writeSelected hrun

/-- The command prints its lines after the files are written. -/
lemma apply_perform (h : i.command = .generate) (s : Session) :
    (perform i).apply s = (do
      let (settings, paths) ← writeRequested i
      let lines ← writtenLines s.environment.outputWidth paths
      let total := totalLine paths.length settings.outDir
      return lines ++ [printed s.environment.outputWidth total]).apply s := by
  rw [perform, Run.apply_bind, Run.apply_get]
  simp only [h, writeRequested, Output.writeSelected, bind_assoc, pure_bind, totalLine]

/-- A run that succeeds prints its lines and ends. -/
lemma run_of_ok (hargs : Request.ofArguments args = .invoke i) (hcommand : i.command = .generate)
    (terminal : Bool) (hsetUp : ((LogFile.configure false).apply s).1 = .ok ())
    (h : (writeRequested i).apply (prepared s) = (.ok (settings, paths), s')) :
    ∃ lines, List.Forall₂ (Tells s'.files) paths lines ∧
      run args terminal s = (.done (textOf (lines.map (printed s.environment.outputWidth) ++
        [printed s.environment.outputWidth (totalLine paths.length settings.outDir)])), s') := by
  obtain ⟨lines, htells, hlines⟩ :=
    apply_writtenLines s.environment.outputWidth (exists_read_of_writeRequested h)
  refine ⟨lines, htells, ?_⟩
  have hperform : (perform i).apply (prepared s) =
      (.ok (lines.map (printed s.environment.outputWidth) ++
        [printed s.environment.outputWidth (totalLine paths.length settings.outDir)]), s') := by
    rw [apply_perform hcommand, environment_prepared, Run.apply_bind_of_ok h,
      Run.apply_bind_of_ok hlines]
    rfl
  exact run_of_performed hargs terminal hsetUp hperform

/-! ### The outcome -/

/-- What the command that generates tells about a run that starts from a session, by its outcome
and the session at its end. -/
structure TellsTruth (i : Invocation) (terminal : Bool) (s : Session) (outcome : Outcome)
    (s' : Session) : Prop where
  /-- The settings of the command are its names and the values of its options. -/
  options : ∀ settings, ((Run.settings i.members).apply (prepared s)).1 = .ok settings ↔
    TakesOptions i s.environment settings
  /-- The run returns zero when the settings are good, the generators are found, all are built and
  all files are written, and otherwise one. -/
  returned : LogFile.HasPlace s →
    outcome.returned? = some (if ((writeRequested i).apply (prepared s)).1.isOk then 0 else 1)
  /-- Without a place for the log file it returns nothing, unless logging is set up already and
  there is no failure to report. -/
  unplaced : (∀ dir, s.environment.logDir? = some dir → dir.hasNull = true) →
    outcome.returned? =
      if s.configured && ((writeRequested i).apply (prepared s)).1.isOk then some 0 else none
  /-- A run that returns zero ends with what was written, and nothing is reported.  There is a line
  for each path, in order, which tells the name of the file and how many bytes it holds at the end;
  when the names and the output directory are plain texts, and the lines have room, the output is
  these lines and a last one with the number of paths and the output directory. -/
  done : LogFile.HasPlace s → ∀ settings paths s₁,
    (writeRequested i).apply (prepared s) = (.ok (settings, paths), s₁) →
    s' = s₁ ∧ outcome.report? = none ∧ ∃ lines, List.Forall₂ (Tells s'.files) paths lines ∧
      ((∀ p ∈ paths, Plain p.name.toList) → Plain settings.outDir.toString.toList →
        (∀ line ∈ lines ++ [totalLine paths.length settings.outDir],
          FitsLine s.environment.outputWidth line) →
        outcome.output = textOf (lines ++ [totalLine paths.length settings.outDir]))
  /-- A run that returns one prints nothing and makes one report.  It names the kind of the failure,
  on a terminal that has room for names; away from one it is a line with the failure and the log
  file.  What is said of data that do not fit their schema is left open. -/
  failed : LogFile.HasPlace s → ∀ f s₁,
    (writeRequested i).apply (prepared s) = (.error f, s₁) →
    outcome.output = "" ∧ ∃ text logs, outcome.report? = some text ∧
      s.environment.logDir? = some logs ∧
      ((terminal = true → Incident.nameRoom ≤ s.environment.panelWidth) →
        f.kind.name.toList <:+: text.toList) ∧
      (terminal = false → ∃ said, (f.kind ≠ .schema → said = f.incident.text) ∧
        text = s!"{context} failed: {f.kind.name}: {said} (logs: {LogFile.pathIn logs})\n")
  /-- Unless the first file is written, no regular file is made or changed outside of the log
  directory and away from the log files of the session; only a protected one at the first path may
  be gone. -/
  untouched : ¬WritesFirstFile i (prepared s) → ∀ l ∉ s.logFiles, ¬s.InLogDirectory l →
    s'.files.content? l = s.files.content? l ∨
      ProtectedFirst i (prepared s) l ∧ s'.files.content? l = none

/-- With logging set up, the settings of a command are its names and the values of its options. -/
lemma settings_prepared_iff :
    ((Run.settings i.members).apply (prepared s)).1 = .ok settings ↔
      TakesOptions i s.environment settings := by
  rw [settings_eq_ok_iff, environment_prepared]

/-- A run with a failure that is not caught tells the truth, when the log file has no place, logging
was still to be set up or the command failed, and nothing changed but logs. -/
lemma tellsTruth_raised (hnot : ¬LogFile.HasPlace s)
    (hfails : (s.configured && ((writeRequested i).apply (prepared s)).1.isOk) = false)
    (hlogs : ¬WritesFirstFile i (prepared s) → OnlyLogs (ProtectedFirst i (prepared s)) s s')
    (terminal : Bool) (f : Failure) : TellsTruth i terminal s (.raised f) s' := by
  constructor
  case options => exact fun _ => settings_prepared_iff
  case returned => exact fun hplace => absurd hplace hnot
  case unplaced =>
    intro _
    rw [hfails]
    rfl
  case done => exact fun hplace => absurd hplace hnot
  case failed => exact fun hplace => absurd hplace hnot
  case untouched => exact fun h => (hlogs h).content

/-- A run tells the truth when logging cannot be set up. -/
lemma tellsTruth_of_raised (i : Invocation) (terminal : Bool)
    (hsetUp : ((LogFile.configure false).apply s).1 = .error f) :
    TellsTruth i terminal s (.raised f) (prepared s) := by
  have hconfigured : s.configured = false := by
    by_contra hconfigured
    rw [LogFile.apply_configure_of_configured (by simpa using hconfigured)] at hsetUp
    cases hsetUp
  refine tellsTruth_raised ?_ ?_ (fun _ => LogFile.onlyLogs_configure false s) terminal f
  · intro hplace
    rw [hplace.configure_eq_ok] at hsetUp
    cases hsetUp
  · rw [hconfigured, Bool.false_and]

/-- A run tells the truth when the files are written. -/
lemma tellsTruth_of_ok (hargs : Request.ofArguments args = .invoke i)
    (hcommand : i.command = .generate) (terminal : Bool)
    (hsetUp : ((LogFile.configure false).apply s).1 = .ok ())
    (hrun : (writeRequested i).apply (prepared s) = (.ok (settings, paths), s')) :
    TellsTruth i terminal s (run args terminal s).1 (run args terminal s).2 := by
  obtain ⟨lines, htells, heq⟩ := run_of_ok hargs hcommand terminal hsetUp hrun
  have hconfigured (hplace : ∀ dir, s.environment.logDir? = some dir → dir.hasNull = true) :
      s.configured = true := by
    by_contra hconfigured
    obtain ⟨f, s₁, hfails⟩ := LogFile.configure_of_noPlace hplace (by simpa using hconfigured)
    rw [hfails] at hsetUp
    cases hsetUp
  rw [heq]
  constructor
  case options => exact fun _ => settings_prepared_iff
  case returned => simp [Outcome.returned?, hrun, Except.isOk, Except.toBool]
  case unplaced =>
    intro hplace
    simp [Outcome.returned?, hrun, hconfigured hplace, Except.isOk, Except.toBool]
  case done =>
    intro _ _ _ _ h
    rw [hrun] at h
    cases h
    refine ⟨rfl, rfl, lines, htells, fun hnames hdir hfits => ?_⟩
    obtain ⟨hlines, htotal⟩ := List.forall_mem_append.mp hfits
    rw [Outcome.output, map_printed_eq htells hnames hlines,
      printed_totalLine hdir (htotal _ List.mem_cons_self)]
  case failed =>
    intro _ _ _ h
    rw [hrun] at h
    cases h
  case untouched =>
    intro h
    have hwritten := onlyLogs_writeRequested h
    rw [hrun] at hwritten
    exact ((LogFile.onlyLogs_configure false s).trans hwritten).content

/-- A run tells the truth when it fails before it prints.  The report speaks of the environment at
the start, which neither the run nor its records have changed. -/
lemma tellsTruth_of_error (hargs : Request.ofArguments args = .invoke i)
    (hcommand : i.command = .generate) (hdebug : s.environment.debug = false) (terminal : Bool)
    (hsetUp : ((LogFile.configure false).apply s).1 = .ok ())
    (hrun : (writeRequested i).apply (prepared s) = (.error f, s')) :
    TellsTruth i terminal s (run args terminal s).1 (run args terminal s).2 := by
  have henvironment : s'.environment = s.environment := by
    have hkept := keepsEnvironment_writeRequested i (prepared s)
    rwa [hrun, environment_prepared] at hkept
  have hreports := reports_report f terminal s'
  have hlogs (h : ¬WritesFirstFile i (prepared s)) :
      OnlyLogs (ProtectedFirst i (prepared s)) s ((report f terminal).apply s').2 := by
    have hwritten := onlyLogs_writeRequested h
    rw [hrun] at hwritten
    exact ((LogFile.onlyLogs_configure false s).trans hwritten).trans (hreports.onlyLogs _)
  have hmade (hplace : LogFile.HasPlace s) : ∃ logs, s.environment.logDir? = some logs ∧
      ((report f terminal).apply s').1 =
        .ok (f.incident.render s.environment (LogFile.pathIn logs) context terminal) := by
    obtain ⟨logs, hdir, hnull, -⟩ := hplace
    exact ⟨logs, hdir, henvironment ▸ hreports.made logs (by rwa [henvironment]) hnull⟩
  have hperform : (perform i).apply (prepared s) = (.error f, s') := by
    rw [apply_perform hcommand, Run.apply_bind_of_error hrun]
  rw [run_of_refused hargs terminal hsetUp hperform]
  rcases hreport : (report f terminal).apply s' with ⟨g | text, s''⟩ <;>
    rw [hreport] at hreports hlogs hmade <;> dsimp only at hlogs hmade ⊢
  · refine tellsTruth_raised (fun hplace => ?_) ?_ hlogs terminal g
    · obtain ⟨logs, -, h⟩ := hmade hplace
      cases h
    · rw [hrun]
      exact Bool.and_false _
  · constructor
    case options => exact fun _ => settings_prepared_iff
    case returned => simp [Outcome.returned?, hrun, Except.isOk, Except.toBool]
    case unplaced =>
      intro hplace
      obtain ⟨g, hg⟩ := hreports.unplaced (by rwa [henvironment])
      cases hg
    case done =>
      intro _ _ _ _ h
      rw [hrun] at h
      cases h
    case failed =>
      intro hplace _ _ h
      rw [hrun] at h
      cases h
      obtain ⟨logs, hdir, htext⟩ := hmade hplace
      obtain rfl := Except.ok.inj htext
      refine ⟨rfl, _, logs, rfl, hdir, ?_, ?_⟩
      · exact f.incident.name_infix_render _ _ context terminal
      · rintro rfl
        exact ⟨_, fun _ => rfl, f.incident.plain_eq _ _ context hdebug⟩
    case untouched => exact fun h => (hlogs h).content

/-- **The command that generates tells the truth.**  For all arguments that are an invocation of the
command, and from every session without debugging, with whatever files, the run tells what it has
done. -/
theorem tellsTruth_run (hargs : Request.ofArguments args = .invoke i)
    (hcommand : i.command = .generate) (hdebug : s.environment.debug = false) (terminal : Bool) :
    TellsTruth i terminal s (run args terminal s).1 (run args terminal s).2 := by
  rcases hsetUp : ((LogFile.configure false).apply s).1 with f | ⟨⟩
  · rw [run_of_raised hsetUp]
    exact tellsTruth_of_raised i terminal hsetUp
  · rcases hrun : (writeRequested i).apply (prepared s) with ⟨f | ⟨settings, paths⟩, s₁⟩
    · exact tellsTruth_of_error hargs hcommand hdebug terminal hsetUp hrun
    · exact tellsTruth_of_ok hargs hcommand terminal hsetUp hrun

/-! ### A bench -/

/-- A session at its start, in which the file of a generator is there and empty. -/
def bench : Session :=
  .start { bindings := [("HOME", "/home")] } ⟨"", ""⟩
    ⟨["home"], [(["home"], .directory), (["home", "out"], .directory),
      (["home", "out", "white_noise.scsyndef"], .file [])], []⟩

/-- The log file of the bench. -/
def benchLog : Location := ["home", ".cache", "synthforge", "logs", "synthforge.log"]

/-- The log file of the bench has a place. -/
lemma hasPlace_bench : LogFile.HasPlace bench :=
  ⟨⟨.root, ["home", ".cache", "synthforge", "logs"]⟩, by decide +kernel, by decide +kernel,
    fun _ => by decide +kernel⟩

/-- Setting logging up on the bench opens its log file. -/
lemma logFiles_prepared_bench : (prepared bench).logFiles = [benchLog] := by
  decide +kernel

/-- After logging is set up on the bench, its log file is there. -/
lemma logsOpen_prepared_bench : (prepared bench).LogsOpen := by
  intro loc hloc
  rw [logFiles_prepared_bench] at hloc
  obtain rfl := List.mem_singleton.mp hloc
  exact .inr (by decide +kernel)

/-- The command for the generator of the bench. -/
def benchNoise : Invocation := ⟨.generate, ["white_noise"], [("out-dir", some "out")]⟩

/-- The settings of the command. -/
def benchSettings : Settings := ⟨⟨.here, ["out"]⟩, ["white_noise"], none, none⟩

/-- The generator of the bench. -/
def benchGenerator : GeneratorSpec := ⟨"white_noise", "WhiteNoise", [Collection.amp]⟩

/-- On the bench the command for its generator succeeds and writes 591 bytes. -/
lemma writeRequested_bench : ∃ content s',
    (writeRequested benchNoise).apply (prepared bench) =
      (.ok (benchSettings, [⟨.here, ["out", "white_noise.scsyndef"]⟩]), s') ∧
    s'.files.read ⟨.here, ["out", "white_noise.scsyndef"]⟩ = .ok content ∧
    content.length = 591 := by
  have hsettings : ((Run.settings benchNoise.members).apply (prepared bench)).1 =
      .ok benchSettings := by decide +kernel
  have hresolve : (benchSettings.resolve.apply (prepared bench)).1 = .ok [benchGenerator] := by
    decide +kernel
  have hsize : (benchGenerator.build.map fun d => DefinitionFile.byteCount [d]) = .ok 591 := by
    decide +kernel
  have hnames : (prepared bench).files.Names ⟨.here, ["out", "white_noise.scsyndef"]⟩
      ["home", "out", "white_noise.scsyndef"] :=
    ⟨by decide +kernel, by decide +kernel, by decide +kernel, by decide +kernel,
      fun _ => ⟨["home", "out"], by decide +kernel, by decide +kernel⟩⟩
  obtain ⟨s', content, hrun, hbytes, hnames', hcontent⟩ := Output.writeSelected_of_names hresolve
    (by decide +kernel) logsOpen_prepared_bench (by rw [logFiles_prepared_bench]; decide) hnames
    (by decide +kernel) (by decide)
  have hlength : content.length = 591 := by
    rcases hbuild : benchGenerator.build with e | d <;> rw [hbuild] at hsize
    · cases hsize
    · have hencode : DefinitionFile.encode [d] = .ok content :=
        (Output.bytes_of_built (.cons hbuild .nil)).symm.trans hbytes
      rw [(DefinitionFile.isLegal_of_encode hencode).2]
      exact (DefinitionFile.byteLength_fields [d]).trans (Except.ok.inj hsize)
  refine ⟨content, s', ?_, hnames'.read_eq hcontent, hlength⟩
  rw [apply_writeRequested, hsettings]
  dsimp only
  rw [hrun]
  rfl

/-- The command for a generator that is not there. -/
def benchHum : Invocation := ⟨.generate, ["hum"], []⟩

/-- On the bench the command for a generator that is not there fails. -/
lemma writeRequested_benchHum : ∃ s',
    (writeRequested benchHum).apply (prepared bench) =
      (.error (.unknownGenerators ["hum"]), s') := by
  have hfails : ((writeRequested benchHum).apply (prepared bench)).1 =
      .error (.unknownGenerators ["hum"]) := by decide +kernel
  exact ⟨_, Prod.ext hfails rfl⟩

/-- On the bench the command for its generator tells the name of its file and its bytes, and the
command for a generator that is not there fails and tells its name. -/
theorem tellsTruth_run_bench :
    bench.environment.debug = false ∧ LogFile.HasPlace bench ∧
      (Request.ofArguments ["generate", "white_noise", "--out-dir", "out"] = .invoke benchNoise ∧
        benchNoise.command = .generate ∧
        (run ["generate", "white_noise", "--out-dir", "out"] false bench).1.returned? = some 0 ∧
        (run ["generate", "white_noise", "--out-dir", "out"] false bench).1.output =
          "  white_noise.scsyndef ... ok (591 bytes)\nWrote 1 file(s) to out\n") ∧
      (Request.ofArguments ["generate", "hum"] = .invoke benchHum ∧
        benchHum.command = .generate ∧
        (run ["generate", "hum"] false bench).1.returned? = some 1 ∧
        (run ["generate", "hum"] false bench).1.output = "" ∧
        (run ["generate", "hum"] false bench).1.report? =
          some ("synthforge CLI failed: InvalidSpecError: Unknown generator(s): hum " ++
            "(logs: /home/.cache/synthforge/logs/synthforge.log)\n")) := by
  have hdebug : bench.environment.debug = false := rfl
  have hplace := hasPlace_bench
  have hnoise : Request.ofArguments ["generate", "white_noise", "--out-dir", "out"] =
      .invoke benchNoise := by decide +kernel
  have hhum : Request.ofArguments ["generate", "hum"] = .invoke benchHum := by decide +kernel
  refine ⟨hdebug, hplace, ⟨hnoise, rfl, ?_⟩, hhum, rfl, ?_⟩
  · have htruth := tellsTruth_run hnoise rfl hdebug false
    obtain ⟨content, s', hrun, hread, hlength⟩ := writeRequested_bench
    obtain ⟨hend, -, lines, htells, houtput⟩ := htruth.done hplace _ _ s' hrun
    obtain ⟨line, rest, ⟨content', hread', rfl⟩, hrest, rfl⟩ :=
      List.forall₂_cons_left_iff.mp htells
    obtain rfl := List.forall₂_nil_left_iff.mp hrest
    rw [hend] at hread'
    obtain rfl : content' = content := Except.ok.inj (hread'.symm.trans hread)
    have hline : fileLine ⟨.here, ["out", "white_noise.scsyndef"]⟩ content'.length =
        "  white_noise.scsyndef ... ok (591 bytes)" := by
      rw [hlength]
      decide +kernel
    have htotal : totalLine 1 benchSettings.outDir = "Wrote 1 file(s) to out" := by decide +kernel
    have hfits : ∀ line ∈ ["  white_noise.scsyndef ... ok (591 bytes)", "Wrote 1 file(s) to out"],
        FitsLine bench.environment.outputWidth line := by
      unfold FitsLine
      decide +kernel
    have hname : Plain "white_noise.scsyndef".toList := plain_of_all (by decide)
    have hdir : Plain "out".toList := plain_of_all (by decide)
    rw [hline] at houtput
    refine ⟨(htruth.returned hplace).trans (by rw [hrun]; rfl), ?_⟩
    rw [houtput (List.forall_mem_singleton.mpr hname) hdir (htotal ▸ hfits)]
    decide +kernel
  · have htruth := tellsTruth_run hhum rfl hdebug false
    obtain ⟨s', hrun⟩ := writeRequested_benchHum
    obtain ⟨houtput, text, logs, htext, hlogs, -, hline⟩ := htruth.failed hplace _ s' hrun
    obtain ⟨said, hsaid, rfl⟩ := hline rfl
    obtain rfl := hsaid (by decide)
    refine ⟨(htruth.returned hplace).trans (by rw [hrun]; rfl), houtput, ?_⟩
    have hdir : bench.environment.logDir? =
        some ⟨.root, ["home", ".cache", "synthforge", "logs"]⟩ := by decide +kernel
    obtain rfl : ⟨.root, ["home", ".cache", "synthforge", "logs"]⟩ = logs :=
      Option.some.inj (hdir.symm.trans hlogs)
    rw [htext]
    decide +kernel

/-- A session whose log directory is in the home directory of a user that the system does not
know. -/
def lost : Session :=
  .start { bindings := [("SYNTHFORGE_LOG_DIR", "~nosuchuser_q/logs")] } ⟨"", ""⟩
    (FileSystem.withHere ["home"])

/-- The command for a generator that is not there returns neither zero nor one and reports nothing,
when the log directory is not known, whether logging is still to be set up or not. -/
theorem not_returned_run_lost :
    lost.environment.debug = false ∧
      Request.ofArguments ["generate", "hum"] = .invoke benchHum ∧ benchHum.command = .generate ∧
      ((writeRequested benchHum).apply lost).1 = .error (.unknownGenerators ["hum"]) ∧
      ((run ["generate", "hum"] false lost).1.returned? = none ∧
        (run ["generate", "hum"] false lost).1.report? = none) ∧
      (run ["generate", "hum"] false { lost with configured := true }).1.returned? = none ∧
        (run ["generate", "hum"] false { lost with configured := true }).1.report? = none := by
  decide +kernel

end CommandLine

end SynthGraph
