import SynthGraph.Proofs.Output.Failing
import SynthGraph.Proofs.Output.Written
import SynthGraph.Proofs.Session.Records

/-!
# What a run of writes records

A run that succeeds records no error, and one line for each of its files, with the path of the file
and the number of its bytes.  A run that fails records the failure once and as the last thing, with
the name of the generator that could not be built or written.  The exception is a bundle: when all
generators are built and the bundle cannot be written, no error is recorded.
-/

namespace SynthGraph

namespace Output

open Session

variable {g : GeneratorSpec} {gs : List GeneratorSpec} {ds : List Definition} {outDir : Path}
  {bundleName : Option String} {rs rs' : List Record}

/-! ### The records -/

/-- The record of a file that was written. -/
def wroteRecord (path : Path) (size : Nat) : Record :=
  ⟨.info, .definitionFile, s!"Wrote {path} ({size} bytes)"⟩

/-- The record of something that failed. -/
def failureRecord (what : String) (f : Failure) : Record :=
  ⟨.error, .output, what ++ ": " ++ f.message⟩

/-- The records of files that were written. -/
def writtenRecords (rs : List Record) : List Record :=
  rs.filter fun r => r.level == .info && r.source == .definitionFile

/-- The records of one list after another. -/
@[simp] lemma writtenRecords_append (rs rs' : List Record) :
    writtenRecords (rs ++ rs') = writtenRecords rs ++ writtenRecords rs' :=
  List.filter_append ..

/-- Details are no files. -/
lemma writtenRecords_eq_nil (h : Details rs) : writtenRecords rs = [] :=
  List.filter_eq_nil_iff.mpr fun r hr => by simp [h r hr]

/-- The files that are recorded are those of a plan, each with the number of its bytes. -/
def RecordsFiles (entries : List (Path × List GeneratorSpec)) (rs : List Record) : Prop :=
  List.Forall₂ (fun entry r => ∃ content, bytes entry.2 = .ok content ∧
    r = wroteRecord entry.1 content.length) entries (writtenRecords rs)

/-- Details record no files. -/
lemma RecordsFiles.of_details (h : Details rs) : RecordsFiles [] rs := by
  rw [RecordsFiles, writtenRecords_eq_nil h]
  exact .nil

/-- The files of one plan after those of another. -/
lemma RecordsFiles.append {entries entries' : List (Path × List GeneratorSpec)}
    (h : RecordsFiles entries rs) (h' : RecordsFiles entries' rs') :
    RecordsFiles (entries ++ entries') (rs ++ rs') := by
  rw [RecordsFiles, writtenRecords_append]
  exact List.rel_append h h'

/-- A failure is no file. -/
lemma RecordsFiles.append_failure {entries : List (Path × List GeneratorSpec)}
    (h : RecordsFiles entries rs) (what : String) (f : Failure) :
    RecordsFiles entries (rs ++ [failureRecord what f]) := by
  rw [RecordsFiles, writtenRecords_append]
  exact (List.append_nil (writtenRecords rs)).symm ▸ h

/-- A step whose failure is recorded. -/
lemma Records.recordingFailure {α : Type} {r : Run α}
    {P Q : Except Failure α → List Record → Prop} {what : String} (h : r.Records P)
    (hok : ∀ a rs, P (.ok a) rs → Q (.ok a) rs)
    (herror : ∀ f rs, P (.error f) rs → Q (.error f) (rs ++ [failureRecord what f])) :
    (recordingFailure what r).Records Q := by
  intro s
  obtain ⟨rs, hrs, hP⟩ := h s
  rw [apply_recordingFailure]
  rcases hr : r.apply s with ⟨f | a, s₁⟩ <;> rw [hr] at hrs hP
  · refine ⟨rs ++ [failureRecord what f], ?_, herror f rs hP⟩
    rw [records_log, hrs, List.append_assoc]
    rfl
  · exact ⟨rs, hrs, hok a rs hP⟩

/-- A file after details is no error. -/
lemma errorRecords_wroteRecord (h : Details rs) (path : Path) (size : Nat) :
    errorRecords (rs ++ [wroteRecord path size]) = [] := by
  rw [errorRecords_append, h.errorRecords_eq]
  rfl

/-- A failure after records without errors is the only error, and the last record. -/
lemma endsInError_failureRecord (h : errorRecords rs = []) (what : String) (f : Failure) :
    EndsInError (rs ++ [failureRecord what f]) (failureRecord what f) :=
  ⟨rfl, rs, rfl, h⟩

/-! ### Building -/

/-- Building one generator records details only. -/
lemma quiet_buildOne (g : GeneratorSpec) : (buildOne g).Quiet := by
  unfold buildOne
  refine .bind (.ofFault _) fun d => .bind (.ofFault _) fun (constants, d) => .bind (.ofFault _)
    fun (emitted, d) => .bind (.log _ _) fun _ => .bind (.ofFault _) fun (_, d) =>
      .bind (.log _ _) fun _ => .pure _

/-- What building one generator gives, and what it records. -/
lemma records_buildOne (g : GeneratorSpec) :
    (buildOne g).Records fun o rs => o = g.build.mapError .fault ∧ Details rs := by
  refine (quiet_buildOne g).withOutcome fun s => ?_
  obtain ⟨rs, hrun, -⟩ := apply_buildOne g s
  rw [hrun]

/-- What building generators gives, and what it records. -/
inductive BuildRecords : List GeneratorSpec → Except Failure (List Definition) → List Record → Prop
  where
  /-- All generators are built. -/
  | built {gs : List GeneratorSpec} {ds : List Definition} {rs : List Record}
      (hbuilt : List.Forall₂ (fun g d => g.build = .ok d) gs ds) (hdetails : Details rs) :
      BuildRecords gs (.ok ds) rs
  /-- The first generator that cannot be built is recorded. -/
  | failed {before after : List GeneratorSpec} {g : GeneratorSpec} {e : Fault} {rs : List Record}
      (hbefore : ∀ g ∈ before, ∃ d, g.build = .ok d) (hfault : g.build = .error e)
      (hlast : EndsInError rs (failureRecord ("Failed to build " ++ g.name) (.fault e)))
      (hfiles : RecordsFiles [] rs) :
      BuildRecords (before ++ g :: after) (.error (.fault e)) rs

/-- What follows a generator that is built comes after its details. -/
lemma BuildRecords.cons {d : Definition} {o : Except Failure (List Definition)}
    (hbuild : g.build = .ok d) (hdetails : Details rs) (h : BuildRecords gs o rs') :
    BuildRecords (g :: gs) (o.map (d :: ·)) (rs ++ rs') := by
  cases h with
  | built hbuilt hdetails' => exact .built (.cons hbuild hbuilt) (hdetails.append hdetails')
  | @failed before after g' e _ hbefore hfault hlast hfiles =>
    have hbefore' : ∀ g'' ∈ g :: before, ∃ d, g''.build = .ok d :=
      List.forall_mem_cons.mpr ⟨⟨d, hbuild⟩, hbefore⟩
    exact .failed hbefore' hfault (hlast.append_left hdetails.errorRecords_eq)
      ((RecordsFiles.of_details hdetails).append hfiles)

/-- Building generators records the first one that cannot be built. -/
lemma records_buildList (gs : List GeneratorSpec) : (buildList gs).Records (BuildRecords gs) := by
  induction gs with
  | nil => exact .pure (.built .nil nofun)
  | cons g gs ih =>
    have hfirst : (recordingFailure ("Failed to build " ++ g.name) (buildOne g)).Records
        fun o rs => (∀ d, o = .ok d → g.build = .ok d ∧ Details rs) ∧
          ∀ f, o = .error f → BuildRecords (g :: gs) (.error f) rs := by
      refine Records.recordingFailure (records_buildOne g) ?_ ?_
      · rintro d rs ⟨hbuild, hdetails⟩
        rcases hg : g.build with e | d' <;> rw [hg] at hbuild <;> cases hbuild
        exact ⟨fun _ hd => Except.ok.inj hd ▸ ⟨rfl, hdetails⟩, nofun⟩
      · rintro f rs ⟨hbuild, hdetails⟩
        rcases hg : g.build with e | d' <;> rw [hg] at hbuild <;> cases hbuild
        refine ⟨nofun, fun _ hf => Except.error.inj hf ▸ ?_⟩
        have hbefore : ∀ g ∈ ([] : List GeneratorSpec), ∃ d, g.build = .ok d := nofun
        exact .failed hbefore hg (endsInError_failureRecord hdetails.errorRecords_eq _ _)
          ((RecordsFiles.of_details hdetails).append_failure _ _)
    refine hfirst.bind (fun f rs h => h.2 f rfl) fun d rs h => ?_
    obtain ⟨hbuild, hdetails⟩ := h.1 d rfl
    exact ih.map (fun _ _ hrest => hrest.cons hbuild hdetails)
      fun _ _ hrest => hrest.cons hbuild hdetails

/-! ### Writing -/

/-- What writing one file gives, and what it records. -/
inductive FileRecords (p : Path) (ds : List Definition) : Except Failure Path → List Record → Prop
  where
  /-- The file is recorded after details. -/
  | written {content : List UInt8} {rs : List Record}
      (hbytes : DefinitionFile.encode ds = .ok content) (hdetails : Details rs) :
      FileRecords p ds (.ok p) (rs ++ [wroteRecord p content.length])
  /-- A failure is not recorded here. -/
  | failed {f : Failure} {rs : List Record} (hdetails : Details rs) : FileRecords p ds (.error f) rs

/-- Writing one file records it when it succeeds, and nothing but details when it fails. -/
lemma records_writeFile (p : Path) (ds : List Definition) :
    (writeFile p ds).Records (FileRecords p ds) := by
  intro s
  rcases hbytes : DefinitionFile.encode ds with e | content
  · rw [apply_writeFile_of_fault hbytes]
    exact ⟨[], (List.append_nil _).symm, .failed nofun⟩
  · unfold writeFile
    simp only [Run.apply_bind, Run.apply_ofFault, hbytes, Except.mapError, Run.apply_log,
      Run.apply_get, Run.apply_modify, Run.apply_ofFileFault, Run.apply_pure]
    generalize hr : Record.mk .debug .definitionFile _ = r
    have hdetails : Details [r] := fun r' hr' => by rw [List.mem_singleton.mp hr', ← hr]
    rcases (s.log r).files.store p content with ⟨_ | _, fs⟩
    · exact ⟨[r], records_log s r, .failed hdetails⟩
    · refine ⟨[r] ++ [wroteRecord p content.length], ?_, .written hbytes hdetails⟩
      rw [← List.append_assoc, ← records_log]
      exact records_log { s.log r with files := fs } _

/-- A file that is written is recorded with the number of its bytes. -/
lemma recordsFiles_of_written {p : Path} {content : List UInt8} (hbytes : bytes gs = .ok content)
    (hdetails : Details rs) :
    RecordsFiles [(p, gs)] (rs ++ [wroteRecord p content.length]) :=
  (RecordsFiles.of_details hdetails).append (.cons ⟨content, hbytes, rfl⟩ .nil)

/-- What writing files one by one gives, and what it records. -/
inductive EachRecords (outDir : Path) :
    List GeneratorSpec → Except Failure (List Path) → List Record → Prop where
  /-- All files are recorded. -/
  | written {gs : List GeneratorSpec} {rs : List Record}
      (hfiles : RecordsFiles (plan gs outDir none) rs) (herrors : errorRecords rs = []) :
      EachRecords outDir gs (.ok ((plan gs outDir none).map Prod.fst)) rs
  /-- The first file that cannot be written is recorded as a failure, after those before it. -/
  | failed {before after : List GeneratorSpec} {g : GeneratorSpec} {f : Failure} {rs : List Record}
      (hfiles : RecordsFiles (plan before outDir none) rs)
      (hlast : EndsInError rs (failureRecord ("Failed to write " ++ g.name) f)) :
      EachRecords outDir (before ++ g :: after) (.error f) rs

/-- What follows a file that is written comes after its record. -/
lemma EachRecords.cons {o : Except Failure (List Path)}
    (hfiles : RecordsFiles [(target outDir g.name, [g])] rs) (herrors : errorRecords rs = [])
    (h : EachRecords outDir gs o rs') :
    EachRecords outDir (g :: gs) (o.map (target outDir g.name :: ·)) (rs ++ rs') := by
  cases h with
  | written hfiles' herrors' =>
    have hall : RecordsFiles (plan (g :: gs) outDir none) (rs ++ rs') := hfiles.append hfiles'
    exact .written hall (by rw [errorRecords_append, herrors, herrors']; rfl)
  | @failed before after g' f _ hfiles' hlast =>
    have hbefore : RecordsFiles (plan (g :: before) outDir none) (rs ++ rs') :=
      hfiles.append hfiles'
    exact .failed hbefore (hlast.append_left herrors)

/-- Writing files one by one records each of them, or the first one that cannot be written. -/
lemma records_writeEach (hbuilt : List.Forall₂ (fun g d => g.build = .ok d) gs ds)
    (outDir : Path) : (writeEach outDir ds).Records (EachRecords outDir gs) := by
  induction hbuilt with
  | nil => exact .pure (.written .nil rfl)
  | @cons g d gs ds hbuild _ ih =>
    have hname : d.name = g.name := GeneratorSpec.name_of_build hbuild
    have hfirst : (recordingFailure ("Failed to write " ++ d.name)
        (writeFile (target outDir d.name) [d])).Records fun o rs =>
          (∀ path, o = .ok path → path = target outDir g.name ∧
            RecordsFiles [(target outDir g.name, [g])] rs ∧ errorRecords rs = []) ∧
          ∀ f, o = .error f → EachRecords outDir (g :: gs) (.error f) rs := by
      rw [hname]
      refine Records.recordingFailure (records_writeFile (target outDir g.name) [d]) ?_ ?_
      · intro path rs h
        cases h with
        | written hbytes hdetails =>
          rw [← bytes_of_built (.cons hbuild .nil)] at hbytes
          exact ⟨fun _ hpath => ⟨(Except.ok.inj hpath).symm,
            recordsFiles_of_written hbytes hdetails, errorRecords_wroteRecord hdetails _ _⟩, nofun⟩
      · intro f rs h
        cases h with
        | failed hdetails =>
          have hbefore : RecordsFiles (plan [] outDir none) rs := .of_details hdetails
          exact ⟨nofun, fun _ hf => Except.error.inj hf ▸ .failed (hbefore.append_failure _ _)
            (endsInError_failureRecord hdetails.errorRecords_eq _ f)⟩
    refine hfirst.bind (fun f rs h => h.2 f rfl) fun path rs h => ?_
    obtain ⟨rfl, hfiles, herrors⟩ := h.1 path rfl
    exact ih.map (fun _ _ hrest => hrest.cons hfiles herrors)
      fun _ _ hrest => hrest.cons hfiles herrors

/-! ### Building and writing -/

/-- What a run of writes gives, and what it records. -/
inductive WriteRecords (gs : List GeneratorSpec) (outDir : Path) (bundleName : Option String) :
    Except Failure (List Path) → List Record → Prop where
  /-- Every file is recorded, and no error. -/
  | written {rs : List Record} (hfiles : RecordsFiles (plan gs outDir bundleName) rs)
      (herrors : errorRecords rs = []) :
      WriteRecords gs outDir bundleName (.ok ((plan gs outDir bundleName).map Prod.fst)) rs
  /-- The first generator that cannot be built is recorded once and last, and no file. -/
  | unbuilt {before after : List GeneratorSpec} {g : GeneratorSpec} {e : Fault} {rs : List Record}
      (hsplit : gs = before ++ g :: after) (hbefore : ∀ g ∈ before, ∃ d, g.build = .ok d)
      (hfault : g.build = .error e)
      (hlast : EndsInError rs (failureRecord ("Failed to build " ++ g.name) (.fault e)))
      (hfiles : RecordsFiles [] rs) : WriteRecords gs outDir bundleName (.error (.fault e)) rs
  /-- The first generator whose file cannot be written is recorded once and last, after the files
  of those before it. -/
  | unwritten {before after : List GeneratorSpec} {g : GeneratorSpec} {f : Failure}
      {rs : List Record} (hnone : bundleName = none) (hbuilt : ∀ g ∈ gs, ∃ d, g.build = .ok d)
      (hsplit : gs = before ++ g :: after) (hfiles : RecordsFiles (plan before outDir none) rs)
      (hlast : EndsInError rs (failureRecord ("Failed to write " ++ g.name) f)) :
      WriteRecords gs outDir bundleName (.error f) rs
  /-- A bundle that cannot be written leaves details only. -/
  | unwrittenBundle {name : String} {f : Failure} {rs : List Record}
      (hname : bundleName = some name) (hbuilt : ∀ g ∈ gs, ∃ d, g.build = .ok d)
      (hdetails : Details rs) : WriteRecords gs outDir bundleName (.error f) rs

/-- Without generators nothing is written and no error recorded. -/
lemma records_nothing :
    (do
      Run.log .warning .output "No generators selected; nothing written"
      return [] : Run (List Path)).Records fun o rs =>
      o = .ok [] ∧ RecordsFiles [] rs ∧ errorRecords rs = [] :=
  fun s => ⟨_, records_log s _, rfl, .nil, rfl⟩

/-- Writing a bundle of generators that are built records its file, or nothing but details. -/
lemma records_bundle (hbuilt : List.Forall₂ (fun g d => g.build = .ok d) gs ds) (hgs : gs ≠ [])
    (outDir : Path) (name : String) :
    (do return [← writeFile (target outDir name) ds] : Run (List Path)).Records
      (WriteRecords gs outDir (some name)) := by
  refine (records_writeFile (target outDir name) ds).map ?_ ?_
  · intro f rs h
    cases h with
    | failed hdetails => exact .unwrittenBundle rfl (forall_built hbuilt) hdetails
  · intro path rs h
    cases h with
    | written hbytes hdetails =>
      rw [← bytes_of_built hbuilt] at hbytes
      have hplan := plan_bundle hgs outDir name
      have hpaths : [target outDir name] = (plan gs outDir (some name)).map Prod.fst := by
        rw [hplan]
        rfl
      rw [hpaths]
      exact .written (hplan ▸ recordsFiles_of_written hbytes hdetails)
        (errorRecords_wroteRecord hdetails _ _)

/-- Details that come first do not change what a run of writes records. -/
lemma WriteRecords.append_left {o : Except Failure (List Path)} (hdetails : Details rs)
    (h : WriteRecords gs outDir bundleName o rs') :
    WriteRecords gs outDir bundleName o (rs ++ rs') := by
  have hnone := RecordsFiles.of_details hdetails
  cases h with
  | written hfiles herrors =>
    exact .written (hnone.append hfiles)
      (by rw [errorRecords_append, hdetails.errorRecords_eq, herrors]; rfl)
  | unbuilt hsplit hbefore hfault hlast hfiles =>
    exact .unbuilt hsplit hbefore hfault (hlast.append_left hdetails.errorRecords_eq)
      (hnone.append hfiles)
  | unwritten hbundle hbuilt hsplit hfiles hlast =>
    exact .unwritten hbundle hbuilt hsplit (hnone.append hfiles)
      (hlast.append_left hdetails.errorRecords_eq)
  | unwrittenBundle hname hbuilt hdetails' =>
    exact .unwrittenBundle hname hbuilt (hdetails.append hdetails')

/-- What a run of writes records goes with its outcome. -/
lemma records_writeAll (gs : List GeneratorSpec) (outDir : Path) (bundleName : Option String) :
    (writeAll gs outDir bundleName).Records (WriteRecords gs outDir bundleName) := by
  refine (records_buildList gs).bind ?_ ?_
  · intro f rs h
    cases h with
    | failed hbefore hfault hlast hfiles => exact .unbuilt rfl hbefore hfault hlast hfiles
  · intro ds rs h
    obtain ⟨hbuilt, hdetails⟩ : List.Forall₂ (fun g d => g.build = .ok d) gs ds ∧ Details rs := by
      cases h with
      | built hbuilt hdetails => exact ⟨hbuilt, hdetails⟩
    by_cases hgs : gs = []
    · subst hgs
      obtain rfl := List.forall₂_nil_left_iff.mp hbuilt
      refine records_nothing.mono ?_
      rintro o rs' ⟨rfl, hfiles, herrors⟩
      have hwritten : WriteRecords [] outDir bundleName
          (.ok ((plan [] outDir bundleName).map Prod.fst)) rs' :=
        .written (plan_nil outDir bundleName ▸ hfiles) herrors
      rw [plan_nil] at hwritten
      exact hwritten.append_left hdetails
    · have hds : ¬ds.isEmpty := fun h => hgs (by
        rw [List.isEmpty_iff.mp h] at hbuilt
        exact List.forall₂_nil_right_iff.mp hbuilt)
      rw [if_neg hds]
      cases bundleName with
      | some name =>
        exact (records_bundle hbuilt hgs outDir name).mono fun _ _ h => h.append_left hdetails
      | none =>
        refine (records_writeEach hbuilt outDir).mono fun _ _ h => ?_
        refine WriteRecords.append_left hdetails ?_
        cases h with
        | written hfiles herrors => exact .written hfiles herrors
        | failed hfiles hlast => exact .unwritten rfl (forall_built hbuilt) rfl hfiles hlast

/-! ### Failures that are recorded -/

/-- Where all generators are built, none has a fault. -/
lemma not_exists_fault (hbuilt : ∀ g ∈ gs, ∃ d, g.build = .ok d) :
    ¬∃ g ∈ gs, ∃ e, g.build = .error e := by
  rintro ⟨g, hg, e, hfault⟩
  obtain ⟨d, hbuild⟩ := hbuilt g hg
  rw [hbuild] at hfault
  cases hfault

/-- A failure is recorded exactly when a generator cannot be built or files are written one by
one. -/
lemma WriteRecords.exists_endsInError_iff {f : Failure}
    (h : WriteRecords gs outDir bundleName (.error f) rs) :
    (∃ r, EndsInError rs r) ↔ bundleName = none ∨ ∃ g ∈ gs, ∃ e, g.build = .error e := by
  cases h with
  | @unbuilt before after g e _ hsplit _ hfault hlast =>
    have hg : g ∈ gs := by simp [hsplit]
    exact iff_of_true ⟨_, hlast⟩ (.inr ⟨g, hg, e, hfault⟩)
  | unwritten hnone _ _ _ hlast => exact iff_of_true ⟨_, hlast⟩ (.inl hnone)
  | @unwrittenBundle name _ _ hname hbuilt hdetails =>
    refine iff_of_false ?_ ?_
    · rintro ⟨r, hr⟩
      have hrecorded := hr.errorRecords_eq
      rw [hdetails.errorRecords_eq] at hrecorded
      cases hrecorded
    · rintro (hnone | hfault)
      · rw [hname] at hnone
        cases hnone
      · exact not_exists_fault hbuilt hfault

/-- The failure of a bundle of generators that are built is not recorded. -/
lemma not_endsInError_of_bundle {name : String} {f : Failure} {s s' : Session}
    (hbuilt : ∀ g ∈ gs, ∃ d, g.build = .ok d)
    (h : (writeAll gs outDir (some name)).apply s = (.error f, s')) :
    ∃ rs, s'.records.toList = s.records.toList ++ rs ∧ ¬∃ r, EndsInError rs r := by
  obtain ⟨rs, hrs, hrecords⟩ := records_writeAll gs outDir (some name) s
  rw [h] at hrs hrecords
  refine ⟨rs, hrs, ?_⟩
  rw [hrecords.exists_endsInError_iff]
  rintro (hnone | hfault)
  · cases hnone
  · exact not_exists_fault hbuilt hfault

/-- Files that are stored and recorded are recorded with the number of bytes that were written. -/
lemma RecordsFiles.eq_of_stored {entries : List (Path × List GeneratorSpec)} {fs : FileSystem}
    {writes : List (Location × List UInt8)} (h : RecordsFiles entries rs)
    (hstored : List.Forall₂ (Stored fs) entries writes) :
    writtenRecords rs = List.zipWith (fun entry write => wroteRecord entry.1 write.2.length)
      entries writes := by
  unfold RecordsFiles at h
  generalize writtenRecords rs = recorded at h
  induction hstored generalizing recorded with
  | nil => exact List.forall₂_nil_left_iff.mp h
  | @cons entry write _ _ hhead _ ih =>
    obtain ⟨r, rest, ⟨content, hbytes, rfl⟩, hrest, rfl⟩ := List.forall₂_cons_left_iff.mp h
    obtain rfl : content = write.2 := Except.ok.inj (hbytes.symm.trans hhead.2)
    rw [List.zipWith_cons_cons, ih _ hrest]

/-- **What a run records.**  From every session a run adds records that go with its outcome.  A run
that succeeds records no error, and its files in order, each with its path and the number of bytes
that were written to it.  A run that fails records the failure once and last, under the name of the
first generator that cannot be built or written, exactly when a generator cannot be built or files
are written one by one: the failure of a bundle is not recorded. -/
theorem reports_writeAll (gs : List GeneratorSpec) (outDir : Path) (bundleName : Option String)
    (s : Session) :
    ∃ rs, ((writeAll gs outDir bundleName).apply s).2.records.toList = s.records.toList ++ rs ∧
      WriteRecords gs outDir bundleName ((writeAll gs outDir bundleName).apply s).1 rs ∧
      (∀ paths s', (writeAll gs outDir bundleName).apply s = (.ok paths, s') →
        ∃ writes, List.Forall₂ (Stored s'.files) (plan gs outDir bundleName) writes ∧
          writtenRecords rs = List.zipWith (fun path write => wroteRecord path write.2.length)
            paths writes) ∧
      ∀ f s', (writeAll gs outDir bundleName).apply s = (.error f, s') →
        ((∃ r, EndsInError rs r) ↔ bundleName = none ∨ ∃ g ∈ gs, ∃ e, g.build = .error e) := by
  obtain ⟨rs, hrs, hrecords⟩ := records_writeAll gs outDir bundleName s
  refine ⟨rs, hrs, hrecords, ?_, ?_⟩
  · intro paths s' hrun
    obtain ⟨-, -, rfl, -, writes, hstored, -⟩ := writes_of_writeAll hrun
    rw [hrun] at hrecords
    have hfiles : RecordsFiles (plan gs outDir bundleName) rs := by
      generalize hpaths : (plan gs outDir bundleName).map Prod.fst = paths at hrecords
      cases hrecords with
      | written hfiles _ => exact hfiles
    refine ⟨writes, hstored, ?_⟩
    rw [hfiles.eq_of_stored hstored, List.zipWith_map_left]
  · intro f s' hrun
    rw [hrun] at hrecords
    exact hrecords.exists_endsInError_iff

/-- In the workshop a bundle is to be written below a regular file.  The run fails, and does not end
in the record of an error. -/
theorem not_endsInError_bundle_workshop :
    ∃ f s', (writeAll [⟨"tone", "WhiteNoise", []⟩] ⟨.here, ["out", "tone.scsyndef"]⟩
        (some "all")).apply workshop = (.error f, s') ∧
      ¬∃ r, EndsInError s'.records.toList r := by
  obtain ⟨d, hd⟩ := exists_eq_ok_of_isOk
    (show (⟨"tone", "WhiteNoise", []⟩ : GeneratorSpec).build.isOk = true by decide +kernel)
  obtain ⟨content, hbytes⟩ := exists_bytes_of_build hd (by decide)
  have hbuilt : List.Forall₂ (fun g d => GeneratorSpec.build g = .ok d) [⟨"tone", "WhiteNoise", []⟩]
      [d] := .cons hd .nil
  rw [bytes_of_built hbuilt] at hbytes
  obtain ⟨houtcome, -⟩ := writeAll_bundle_of_store hbuilt (by simp) logsOpen_workshop hbytes
    ⟨.here, ["out", "tone.scsyndef"]⟩ "all"
  have hstore : (workshop.files.store (target ⟨.here, ["out", "tone.scsyndef"]⟩ "all") content).1 =
      .error (.system .present ⟨.here, ["out", "tone.scsyndef"]⟩) := rfl
  rw [hstore] at houtcome
  obtain ⟨s', hrun⟩ : ∃ s', (writeAll [⟨"tone", "WhiteNoise", []⟩]
      ⟨.here, ["out", "tone.scsyndef"]⟩ (some "all")).apply workshop =
        (.error (.file (.system .present ⟨.here, ["out", "tone.scsyndef"]⟩)), s') :=
    ⟨_, Prod.ext houtcome rfl⟩
  obtain ⟨rs, hrs, hnone⟩ := not_endsInError_of_bundle (forall_built hbuilt) hrun
  have hrecords : workshop.records.toList = [] := rfl
  rw [hrecords, List.nil_append] at hrs
  exact ⟨_, s', hrun, hrs ▸ hnone⟩

end Output

end SynthGraph
