import SynthGraph.Proofs.File.Legal
import SynthGraph.Proofs.Output.Writing

/-!
# A failing run leaves no partial files

What a run that fails does to the file system, away from the log files.  All generators are built
before anything is written, so that a generator that cannot be built, or a bundle of more
definitions than a file can count, changes nothing at all.  Where no file is protected, a bundle
that cannot be written changes no regular file; and of files that are written one by one, those
before the one that cannot be written are left as a run for them alone leaves them, and nothing else
but directories on the way to that one.
-/

namespace SynthGraph

namespace Output

open Session FileSystem

variable {s s' : Session} {outDir : Path} {name : String} {gs : List GeneratorSpec} {f : Failure}

/-- What a failing run leaves. -/
structure FailsClean (gs : List GeneratorSpec) (outDir : Path) (bundleName : Option String)
    (s : Session) : Prop where
  /-- Without all definitions, or with too many for a bundle, the run fails and changes nothing. -/
  unbuilt : (∃ g ∈ gs, ∃ e, g.build = .error e) ∨ bundleName.isSome ∧ 32767 < gs.length →
    ∃ f s', (writeAll gs outDir bundleName).apply s = (.error f, s') ∧
      AgreesOff s.logFiles s.files s'.files
  /-- Where no file is protected, a failing bundle leaves directories on the way to it at most. -/
  bundle : s.FilesFree → ∀ name f s', bundleName = some name →
    (writeAll gs outDir bundleName).apply s = (.error f, s') →
    Leaves s.logFiles [target outDir name] [] s.files s'.files
  /-- Otherwise one file fails.  Where no file is protected, the files before it are left as a run
  for them alone leaves them, and directories on the way to it at most are left besides. -/
  each : s.FilesFree → ∀ f s', bundleName = none → (∀ g ∈ gs, ∃ d, g.build = .ok d) →
    (writeAll gs outDir bundleName).apply s = (.error f, s') →
    ∃ before g after, gs = before ++ g :: after ∧ ∃ paths s₁ s₂,
      (writeAll before outDir none).apply s = (.ok paths, s₁) ∧
      (writeAll (before ++ [g]) outDir none).apply s = (.error f, s₂) ∧
      Leaves s.logFiles [target outDir g.name] [] s₁.files s'.files

/-- Generators without an error are built. -/
lemma exists_built (h : ∀ g ∈ gs, ∃ d, g.build = .ok d) :
    ∃ ds, List.Forall₂ (fun g d => g.build = .ok d) gs ds := by
  induction gs with
  | nil => exact ⟨[], .nil⟩
  | cons g gs ih =>
    obtain ⟨d, hd⟩ := h g List.mem_cons_self
    obtain ⟨ds, hds⟩ := ih fun g hg => h g (List.mem_cons_of_mem _ hg)
    exact ⟨d :: ds, .cons hd hds⟩

/-- A generator that cannot be built stops a run before anything is written. -/
lemma writeAll_of_fault {e : Fault} (h : gs.mapM GeneratorSpec.build = .error e) (outDir : Path)
    (bundleName : Option String) (s : Session) :
    ∃ f s', (writeAll gs outDir bundleName).apply s = (.error f, s') ∧
      AgreesOff s.logFiles s.files s'.files := by
  obtain ⟨rs, hrun⟩ := apply_writeAll_of_fault h outDir bundleName s
  exact ⟨.fault e, s.logAll rs, hrun, agreesOff_logAll s rs⟩

/-- A bundle of too many definitions stops a run before anything is written. -/
lemma writeAll_of_too_many (h : 32767 < gs.length) (outDir : Path) (name : String) (s : Session) :
    ∃ f s', (writeAll gs outDir (some name)).apply s = (.error f, s') ∧
      AgreesOff s.logFiles s.files s'.files := by
  rcases hbuilt : gs.mapM GeneratorSpec.build with e | ds
  · exact writeAll_of_fault hbuilt outDir (some name) s
  · have hds := mapM_eq_ok_iff.mp hbuilt
    have hcount : DefinitionFile.maxDefinitions < ds.length := hds.length_eq ▸ h
    have hencode := (DefinitionFile.refused_of_too_many hcount).2
    have hgs : gs ≠ [] := by
      rintro rfl
      exact absurd h (by decide)
    obtain ⟨rs, -, hrun⟩ := apply_writeAll_bundle hds hgs outDir name s
    rw [apply_writeFile_of_fault hencode] at hrun
    exact ⟨_, _, hrun, agreesOff_logAll s rs⟩

/-- Where no file is protected, a failing bundle leaves directories on the way to it at most. -/
lemma leaves_of_bundle_error (hfree : s.FilesFree)
    (h : (writeAll gs outDir (some name)).apply s = (.error f, s')) :
    Leaves s.logFiles [target outDir name] [] s.files s'.files := by
  rcases hbuilt : gs.mapM GeneratorSpec.build with e | ds
  · obtain ⟨rs, hrun⟩ := apply_writeAll_of_fault hbuilt outDir (some name) s
    rw [hrun] at h
    cases h
    exact .of_agreesOff (agreesOff_logAll s rs) _
  · by_cases hgs : gs = []
    · subst hgs
      obtain ⟨r, hrun⟩ := apply_writeAll_nil outDir (some name) s
      rw [hrun] at h
      cases h
    · obtain ⟨rs, hrs, hrun⟩ := apply_writeAll_bundle (mapM_eq_ok_iff.mp hbuilt) hgs outDir name s
      rw [hrun] at h
      rcases hfile : (writeFile (target outDir name) ds).apply (s.logAll rs) with ⟨f | path, s₁⟩ <;>
        rw [hfile] at h <;> cases h
      exact (writes_of_writeFile_error (logsOpen_logAll rs (.inl hrs)) (hfree.logAll rs)
        hfile).leaves_of_logAll

/-- The first files of a run that writes one by one are left as a run for them alone leaves them,
where no file is protected. -/
lemma alike_writeAll_each {before : List GeneratorSpec} {built : List Definition}
    {rs : List Record} (hbuilt : List.Forall₂ (fun g d => g.build = .ok d) before built)
    (hrs : rs ≠ []) (outDir : Path) (hfree : s.FilesFree) :
    ((writeAll before outDir none).apply s).1 =
        ((writeEach outDir built).apply (s.logAll rs)).1 ∧
      Alike ((writeEach outDir built).apply (s.logAll rs)).2
        ((writeAll before outDir none).apply s).2 := by
  by_cases hbefore : before = []
  · subst hbefore
    cases hbuilt
    obtain ⟨r, hrun⟩ := apply_writeAll_nil outDir none s
    rw [hrun]
    exact ⟨rfl, alike_logAll hrs (List.cons_ne_nil r [])⟩
  · obtain ⟨rs', hrs', hrun⟩ := apply_writeAll_each hbuilt hbefore outDir s
    rw [hrun]
    exact alike_writeEach (alike_logAll hrs hrs') (hfree.logAll rs) outDir built

/-- When files are written one by one and none is protected, a failure comes from one of them.  The
files before it are left as a run for them alone leaves them, and besides there are directories on
the way to it at most. -/
lemma split_of_each_error (hfree : s.FilesFree) (hbuild : ∀ g ∈ gs, ∃ d, g.build = .ok d)
    (h : (writeAll gs outDir none).apply s = (.error f, s')) :
    ∃ before g after, gs = before ++ g :: after ∧ ∃ paths s₁ s₂,
      (writeAll before outDir none).apply s = (.ok paths, s₁) ∧
      (writeAll (before ++ [g]) outDir none).apply s = (.error f, s₂) ∧
      Leaves s.logFiles [target outDir g.name] [] s₁.files s'.files := by
  obtain ⟨ds, hds⟩ := exists_built hbuild
  have hgs : gs ≠ [] := by
    rintro rfl
    obtain ⟨r, hrun⟩ := apply_writeAll_nil outDir none s
    rw [hrun] at h
    cases h
  obtain ⟨rs, hrs, hrun⟩ := apply_writeAll_each hds hgs outDir s
  have hlogsOpen := logsOpen_logAll (s := s) rs (.inl hrs)
  rw [hrun] at h
  obtain ⟨before, g, after, built, d, paths, s₁, s₂, hsplit, hbefore, hg, hok, herror, hlast⟩ :=
    split_of_writeEach_error hds hlogsOpen (hfree.logAll rs) h
  -- A run for the first files alone writes other records, and ends in a session that is alike.
  obtain ⟨hpaths, halike⟩ := alike_writeAll_each hbefore hrs outDir hfree
  obtain ⟨hfails, -⟩ :=
    alike_writeAll_each (List.rel_append hbefore (.cons hg .nil)) hrs outDir hfree
  rw [hok] at hpaths halike
  rw [herror] at hfails
  refine ⟨before, g, after, hsplit, paths, ((writeAll before outDir none).apply s).2,
    ((writeAll (before ++ [g]) outDir none).apply s).2, Prod.ext hpaths rfl,
    Prod.ext hfails rfl, ?_⟩
  obtain ⟨-, _, -, hwrites⟩ := writes_of_writeEach hbefore hlogsOpen hok
  have hlogs : s₁.logFiles = s.logFiles := by rw [hwrites.logFiles_eq, logFiles_logAll]
  have hleaves := hlast.leaves
  have hagrees := halike.agrees.symm
  rw [hlogs] at hleaves hagrees
  exact hleaves.congr hagrees (.refl _ _) (.refl _)

/-- A failing run leaves no partial files.  From every session, for every list of generators and
with a bundle or without one, a run that fails changes nothing away from the log files when not all
generators can be built or they are too many for a bundle.  Where no file is protected it changes no
regular file when the bundle cannot be written, and no regular file but those before the one that
cannot be written when files are written one by one. -/
theorem failsClean_writeAll (gs : List GeneratorSpec) (outDir : Path)
    (bundleName : Option String) (s : Session) : FailsClean gs outDir bundleName s := by
  constructor
  case unbuilt =>
    rintro (hfails | ⟨hbundle, hcount⟩)
    · obtain ⟨e, he⟩ := mapM_eq_error hfails
      exact writeAll_of_fault he outDir bundleName s
    · obtain ⟨name, rfl⟩ := Option.isSome_iff_exists.mp hbundle
      exact writeAll_of_too_many hcount outDir name s
  case bundle =>
    rintro hfree name f s' rfl h
    exact leaves_of_bundle_error hfree h
  case each =>
    rintro hfree f s' rfl hbuild h
    exact split_of_each_error hfree hbuild h

/-- A parameter that is declared twice stops a run before the generator in front is written. -/
example :
    let freq : ParamSpec := ⟨"freq", .ofInt 440, .core, none, none⟩
    let s := Session.start {} ⟨"", ""⟩ (FileSystem.withHere ["home"])
    let outcome := (writeAll [⟨"tone", "WhiteNoise", []⟩, ⟨"saw", "LFSaw", [freq, freq]⟩]
      ⟨.here, ["out"]⟩ none).apply s
    outcome.1 = .error (.fault (.duplicateParameter "freq")) ∧ outcome.2.files = s.files := by
  decide +kernel

end Output

end SynthGraph
