import SynthGraph.Proofs.Generator.Reachable
import SynthGraph.Proofs.Output.Building

/-!
# Writing in a run

What writing definition files does to a session whose log files are there.  A file that is written
is named by its path and holds the bytes of its definitions; one that cannot be written leaves
directories on the way to it at most, where no file is protected.  Files are written one after
another, so that a failure leaves what the files before it leave.  Sessions that are alike stay
alike, and where every path names a file already, writing succeeds and changes no kind.
-/

namespace SynthGraph

namespace Output

open Session FileSystem

variable {s s' t : Session} {p path : Path} {outDir : Path} {d : Definition} {ds : List Definition}
  {g : GeneratorSpec} {gs : List GeneratorSpec} {paths : List Path} {f : Failure}
  {writes : List (Location × List UInt8)}

/-! ### One file -/

/-- Nothing is done when the definitions have no bytes. -/
lemma apply_writeFile_of_fault {e : Fault} (h : DefinitionFile.encode ds = .error e) (p : Path)
    (s : Session) : (writeFile p ds).apply s = (.error (.fault e), s) := by
  unfold writeFile
  rw [Run.apply_bind, Run.apply_ofFault, h]
  rfl

/-- The bytes of the definitions are stored between two records. -/
lemma apply_writeFile_of_bytes {bytes : List UInt8} (h : DefinitionFile.encode ds = .ok bytes)
    (p : Path) (s : Session) :
    ∃ r r' : Record, (writeFile p ds).apply s =
      match (s.log r).files.store p bytes with
      | (.ok (), fs) => (.ok p, ({ s.log r with files := fs } : Session).log r')
      | (.error e, fs) => (.error (.file e), { s.log r with files := fs }) := by
  unfold writeFile
  simp only [Run.apply_bind, Run.apply_ofFault, h, Except.mapError, Run.apply_log, Run.apply_get,
    Run.apply_modify, Run.apply_ofFileFault, Run.apply_pure]
  generalize Record.mk .debug .definitionFile _ = r
  generalize Record.mk .info .definitionFile _ = r'
  refine ⟨r, r', ?_⟩
  rcases (s.log r).files.store p bytes with ⟨_ | _, fs⟩
  · rfl
  · rfl

/-! ### What a run of writes does to a session -/

/-- The bytes of the file of some generators. -/
def bytes (gs : List GeneratorSpec) : Except Fault (List UInt8) := do
  let ds ← gs.mapM GeneratorSpec.build
  DefinitionFile.encode ds

/-- The bytes of the file of generators that are built. -/
lemma bytes_of_built (h : List.Forall₂ (fun g d => g.build = .ok d) gs ds) :
    bytes gs = DefinitionFile.encode ds := by
  rw [bytes, mapM_eq_ok_iff.mpr h]
  rfl

/-- The bytes of a file for each of the generators that are built. -/
lemma forall₂_bytes_of_built {files : List (List UInt8)}
    (h : List.Forall₂ (fun g d => g.build = .ok d) gs ds)
    (hfiles : List.Forall₂ (fun d file => DefinitionFile.encode [d] = .ok file) ds files) :
    List.Forall₂ (fun g file => bytes [g] = .ok file) gs files := by
  induction h generalizing files with
  | nil =>
    cases hfiles
    exact .nil
  | cons hbuild _ ih =>
    obtain ⟨file, rest, hfile, hrest, rfl⟩ := List.forall₂_cons_left_iff.mp hfiles
    exact .cons ((bytes_of_built (.cons hbuild .nil)).trans hfile) (ih hrest)

/-- A path names the file that was written for some generators. -/
def Stored (fs : FileSystem) (entry : Path × List GeneratorSpec)
    (write : Location × List UInt8) : Prop :=
  fs.Names entry.1 write.1 ∧ bytes entry.2 = .ok write.2

/-- What was stored stays stored. -/
lemma Stored.mono {fs fs' : FileSystem} {entry : Path × List GeneratorSpec}
    {write : Location × List UInt8} (h : Stored fs entry write) (hgrows : Grows fs fs') :
    Stored fs' entry write :=
  ⟨h.1.mono hgrows, h.2⟩

/-- What a run of writes to some paths does to a session, also when it stops at a path that cannot
be written to. -/
structure Writes (paths : List Path) (writes : List (Location × List UInt8)) (s s' : Session) :
    Prop where
  handlers : s'.handlers = s.handlers
  logsOpen : s'.LogsOpen
  grows : Grows s.files s'.files
  leaves : Leaves s.logFiles paths writes s.files s'.files

namespace Writes

/-- Handlers that stay keep the log files where they are. -/
lemma logFiles_eq (h : Writes paths writes s s') : s'.logFiles = s.logFiles := by
  unfold logFiles
  rw [h.handlers]

/-- Nothing is written. -/
lemma refl (h : s.LogsOpen) (paths : List Path) : Writes paths [] s s :=
  ⟨rfl, h, .refl _, .of_agreesOff (.refl _ _) paths⟩

/-- A record is written and no file. -/
lemma log (h : s.LogsOpen) (r : Record) (paths : List Path) : Writes paths [] s (s.log r) :=
  ⟨handlers_log s r, logsOpen_log s r, (h.sameKinds_log r).grows,
    .of_agreesOff (agreesOff_log s r) paths⟩

/-- The file system is changed and nothing else. -/
lemma withFiles (h : s.LogsOpen) {fs : FileSystem} (hgrows : Grows s.files fs)
    (hleaves : Leaves s.logFiles paths writes s.files fs) :
    Writes paths writes s { s with files := fs } :=
  ⟨rfl, h.withFiles hgrows, hgrows, hleaves⟩

/-- One run of writes follows another. -/
lemma trans {paths' : List Path} {writes' : List (Location × List UInt8)} {s'' : Session}
    (h : Writes paths writes s s') (h' : Writes paths' writes' s' s'') :
    Writes (paths ++ paths') (writes ++ writes') s s'' := by
  have hleaves := h'.leaves
  rw [h.logFiles_eq] at hleaves
  exact ⟨h'.handlers.trans h.handlers, h'.logsOpen, h.grows.trans h'.grows,
    h.leaves.trans hleaves h'.grows⟩

/-- Files stay free. -/
lemma filesFree (h : Writes paths writes s s') (hfree : s.FilesFree) : s'.FilesFree := by
  intro loc hloc
  rw [h.logFiles_eq]
  exact hfree.withFiles h.grows loc hloc

/-- What is left after records and writes is what the writes leave. -/
lemma leaves_of_logAll {rs : List Record} (h : Writes paths writes (s.logAll rs) s') :
    Leaves s.logFiles paths writes s.files s'.files := by
  have hleaves := h.leaves
  rw [logFiles_logAll] at hleaves
  exact hleaves.congr (agreesOff_logAll s rs) (.refl _ _) (.refl _)

end Writes

/-- A file that is written is named by its path and holds the bytes of its definitions. -/
lemma writes_of_writeFile (hlogs : s.LogsOpen) (h : (writeFile p ds).apply s = (.ok path, s')) :
    path = p ∧ ∃ write : Location × List UInt8, s'.files.Names p write.1 ∧
      DefinitionFile.encode ds = .ok write.2 ∧ Writes [p] [write] s s' := by
  rcases hbytes : DefinitionFile.encode ds with e | content
  · rw [apply_writeFile_of_fault hbytes] at h
    cases h
  · obtain ⟨r, r', hrun⟩ := apply_writeFile_of_bytes hbytes p s
    rw [hrun] at h
    rcases hstore : (s.log r).files.store p content with ⟨_ | _, fs⟩ <;> rw [hstore] at h
    · cases h
    · cases h
      obtain ⟨loc, hnames, hgrows, hleaves⟩ := store_ok (s.log r).logFiles hstore
      have hstored : Writes [p] [(loc, content)] (s.log r) { s.log r with files := fs } :=
        .withFiles (logsOpen_log s r) hgrows hleaves
      have hrecorded := Writes.log hstored.logsOpen r' []
      have hall := ((Writes.log hlogs r []).trans hstored).trans hrecorded
      exact ⟨rfl, (loc, content), hnames.mono hrecorded.grows, rfl, hall⟩

/-- Where no file is protected, one that cannot be written leaves directories on the way to it at
most. -/
lemma writes_of_writeFile_error (hlogs : s.LogsOpen) (hfree : s.FilesFree)
    (h : (writeFile p ds).apply s = (.error f, s')) : Writes [p] [] s s' := by
  rcases hbytes : DefinitionFile.encode ds with e | content
  · rw [apply_writeFile_of_fault hbytes] at h
    cases h
    exact .refl hlogs [p]
  · obtain ⟨r, r', hrun⟩ := apply_writeFile_of_bytes hbytes p s
    rw [hrun] at h
    rcases hstore : (s.log r).files.store p content with ⟨_ | _, fs⟩ <;> rw [hstore] at h <;>
      cases h
    have hway := (hfree.log r).files.store_error hstore
    have hstored : Writes [p] [] (s.log r) { s.log r with files := fs } :=
      .withFiles (logsOpen_log s r) hway.grows (.of_makesWay hway)
    exact (Writes.log hlogs r []).trans hstored

/-- Files stay free when one is written or cannot be written. -/
lemma filesFree_writeFile (hlogs : s.LogsOpen) (hfree : s.FilesFree) (p : Path)
    (ds : List Definition) : ((writeFile p ds).apply s).2.FilesFree := by
  rcases h : (writeFile p ds).apply s with ⟨f | path, s'⟩
  · exact (writes_of_writeFile_error hlogs hfree h).filesFree hfree
  · obtain ⟨-, _, -, -, hwrites⟩ := writes_of_writeFile hlogs h
    exact hwrites.filesFree hfree

/-- Files are written alike in sessions that are alike, where no file is protected. -/
lemma alike_writeFile (h : Alike s t) (hfree : s.FilesFree) (p : Path) (ds : List Definition) :
    ((writeFile p ds).apply t).1 = ((writeFile p ds).apply s).1 ∧
      Alike ((writeFile p ds).apply s).2 ((writeFile p ds).apply t).2 := by
  rcases hbytes : DefinitionFile.encode ds with e | content
  · rw [apply_writeFile_of_fault hbytes, apply_writeFile_of_fault hbytes]
    exact ⟨rfl, h⟩
  · obtain ⟨r, rend, hrun⟩ := apply_writeFile_of_bytes hbytes p s
    obtain ⟨r', rend', hrun'⟩ := apply_writeFile_of_bytes hbytes p t
    have hlog := h.log r r'
    obtain ⟨houtcome, hfiles⟩ := hlog.files.store p content
    have hstored := hlog.withFiles hfiles ((hfree.log r).files.grows_store p content)
      (((h.filesFree hfree).log r').files.grows_store p content)
    rcases hstore : (s.log r).files.store p content with ⟨_ | _, fs⟩ <;>
      rcases hstore' : (t.log r').files.store p content with ⟨_ | _, fs'⟩ <;>
      simp only [hstore, hstore', reduceCtorEq, Except.error.injEq] at houtcome hstored hrun hrun'
    · rw [hrun, hrun', houtcome]
      exact ⟨rfl, hstored⟩
    · rw [hrun, hrun']
      exact ⟨rfl, hstored.log rend rend'⟩

/-- Writing to a path that names a file succeeds and changes no kind. -/
lemma apply_writeFile_of_names (hlogs : s.LogsOpen) {loc : Location} {content : List UInt8}
    (hnames : s.files.Names p loc) (hbytes : DefinitionFile.encode ds = .ok content) :
    ∃ s', (writeFile p ds).apply s = (.ok p, s') ∧ s'.LogsOpen ∧ SameKinds s.files s'.files := by
  obtain ⟨r, r', hrun⟩ := apply_writeFile_of_bytes hbytes p s
  have hlog := hlogs.sameKinds_log r
  have hnames' := hnames.mono hlog.grows
  have hput : SameKinds (s.log r).files ((s.log r).files.put loc (.file content)) :=
    sameKinds_put hnames'.ne_nil hnames'.kind
  have hopen := (logsOpen_log s r).withFiles hput.grows
  rw [hnames'.store_eq] at hrun
  exact ⟨_, hrun, logsOpen_log _ r', (hlog.trans hput).trans (hopen.sameKinds_log r')⟩

/-! ### One file for each generator -/

/-- A failure that is recorded stays one. -/
lemma apply_recordingFailure_eq_ok {α : Type} {what : String} {r : Run α} {a : α} :
    (recordingFailure what r).apply s = (.ok a, s') ↔ r.apply s = (.ok a, s') := by
  rw [apply_recordingFailure]
  rcases r.apply s with ⟨_ | _, _⟩
  · simp
  · rfl

/-- A first file that was written is followed by the others. -/
lemma apply_writeEach_cons {s₁ : Session}
    (h : (writeFile (target outDir d.name) [d]).apply s = (.ok path, s₁)) :
    (writeEach outDir (d :: ds)).apply s =
      (((writeEach outDir ds).apply s₁).1.map (path :: ·), ((writeEach outDir ds).apply s₁).2) := by
  rw [writeEach, Run.apply_bind_of_ok (apply_recordingFailure_eq_ok.mpr h), Run.apply_bind]
  rcases (writeEach outDir ds).apply s₁ with ⟨_ | _, _⟩ <;> rfl

/-- A first file that cannot be written is the last one that is tried. -/
lemma apply_writeEach_cons_of_error {s₁ : Session} (ds : List Definition)
    (h : (writeFile (target outDir d.name) [d]).apply s = (.error f, s₁)) :
    ∃ r : Record, (writeEach outDir (d :: ds)).apply s = (.error f, s₁.log r) := by
  refine ⟨⟨.error, .output, "Failed to write " ++ d.name ++ ": " ++ f.message⟩, ?_⟩
  rw [writeEach, Run.apply_bind, apply_recordingFailure, h]

/-- Files that are written one after another are named by their paths and hold the bytes of the
last definition that was written to them. -/
lemma writes_of_writeEach (hbuilt : List.Forall₂ (fun g d => g.build = .ok d) gs ds)
    (hlogs : s.LogsOpen) (h : (writeEach outDir ds).apply s = (.ok paths, s')) :
    paths = gs.map (fun g => target outDir g.name) ∧ ∃ writes,
      List.Forall₂ (fun g write => Stored s'.files (target outDir g.name, [g]) write) gs writes ∧
      Writes paths writes s s' := by
  induction hbuilt generalizing s paths with
  | nil =>
    cases h
    exact ⟨rfl, [], .nil, .refl hlogs []⟩
  | @cons g d gs ds hbuild _ ih =>
    rcases hfirst : (writeFile (target outDir d.name) [d]).apply s with ⟨_ | path, s₁⟩
    · obtain ⟨r, hrun⟩ := apply_writeEach_cons_of_error ds hfirst
      rw [hrun] at h
      cases h
    · rw [apply_writeEach_cons hfirst] at h
      obtain ⟨rfl, write, hnames, hbytes, hwrites⟩ := writes_of_writeFile hlogs hfirst
      rcases hrest : (writeEach outDir ds).apply s₁ with ⟨_ | rest, s₂⟩ <;> rw [hrest] at h <;>
        cases h
      obtain ⟨rfl, writes, hstored, hmore⟩ := ih hwrites.logsOpen hrest
      rw [GeneratorSpec.name_of_build hbuild] at hnames hwrites ⊢
      have hfile : bytes [g] = .ok write.2 := by
        rw [bytes_of_built (.cons hbuild .nil), hbytes]
      exact ⟨rfl, write :: writes, .cons ⟨hnames.mono hmore.grows, hfile⟩ hstored,
        hwrites.trans hmore⟩

/-- Files are written alike, one after another, in sessions that are alike, where no file is
protected. -/
lemma alike_writeEach (h : Alike s t) (hfree : s.FilesFree) (outDir : Path)
    (ds : List Definition) :
    ((writeEach outDir ds).apply t).1 = ((writeEach outDir ds).apply s).1 ∧
      Alike ((writeEach outDir ds).apply s).2 ((writeEach outDir ds).apply t).2 := by
  induction ds generalizing s t with
  | nil => exact ⟨rfl, h⟩
  | cons d ds ih =>
    obtain ⟨houtcome, halike⟩ := alike_writeFile h hfree (target outDir d.name) [d]
    have hfree₁ := filesFree_writeFile h.logsLeft hfree (target outDir d.name) [d]
    rcases hs : (writeFile (target outDir d.name) [d]).apply s with ⟨f | path, s₁⟩ <;>
      rcases ht : (writeFile (target outDir d.name) [d]).apply t with ⟨f' | path', t₁⟩ <;>
      rw [hs, ht] at houtcome halike <;> rw [hs] at hfree₁ <;> cases houtcome
    · obtain ⟨r, hrun⟩ := apply_writeEach_cons_of_error ds hs
      obtain ⟨r', hrun'⟩ := apply_writeEach_cons_of_error ds ht
      rw [hrun, hrun']
      exact ⟨rfl, halike.log r r'⟩
    · obtain ⟨hrest, hmore⟩ := ih halike hfree₁
      rw [apply_writeEach_cons hs, apply_writeEach_cons ht, hrest]
      exact ⟨rfl, hmore⟩

/-- Where no file is protected, a failure comes from one of the files, after those before it were
written. -/
lemma split_of_writeEach_error (hbuilt : List.Forall₂ (fun g d => g.build = .ok d) gs ds)
    (hlogs : s.LogsOpen) (hfree : s.FilesFree)
    (h : (writeEach outDir ds).apply s = (.error f, s')) :
    ∃ before g after built d paths s₁ s₂, gs = before ++ g :: after ∧
      List.Forall₂ (fun g d => g.build = .ok d) before built ∧ g.build = .ok d ∧
      (writeEach outDir built).apply s = (.ok paths, s₁) ∧
      (writeEach outDir (built ++ [d])).apply s = (.error f, s₂) ∧
      Writes [target outDir g.name] [] s₁ s' := by
  induction hbuilt generalizing s with
  | nil => cases h
  | @cons g d gs ds hbuild _ ih =>
    rcases hfirst : (writeFile (target outDir d.name) [d]).apply s with ⟨f' | path, s₁⟩
    · obtain ⟨r, hrun⟩ := apply_writeEach_cons_of_error ds hfirst
      obtain ⟨r', hone⟩ := apply_writeEach_cons_of_error [] hfirst
      rw [hrun] at h
      cases h
      have hwrites := writes_of_writeFile_error hlogs hfree hfirst
      have hall := hwrites.trans (.log hwrites.logsOpen r [])
      rw [GeneratorSpec.name_of_build hbuild] at hall
      exact ⟨[], g, gs, [], d, [], s, _, rfl, .nil, hbuild, rfl, hone, hall⟩
    · obtain ⟨-, _, -, -, hwrites⟩ := writes_of_writeFile hlogs hfirst
      rw [apply_writeEach_cons hfirst] at h
      rcases hrest : (writeEach outDir ds).apply s₁ with ⟨f' | rest, s₂⟩ <;> rw [hrest] at h <;>
        cases h
      obtain ⟨before, g', after, built, d', paths, s₃, s₄, rfl, hbefore, hbuild', hok, herror,
        hlast⟩ := ih hwrites.logsOpen (hwrites.filesFree hfree) hrest
      refine ⟨g :: before, g', after, d :: built, d', path :: paths, s₃, s₄, rfl,
        .cons hbuild hbefore, hbuild', ?_, ?_, hlast⟩
      · rw [apply_writeEach_cons hfirst, hok]
        rfl
      · rw [List.cons_append, apply_writeEach_cons hfirst, herror]
        rfl

/-- Where every path names a file, writing succeeds and changes no kind. -/
lemma apply_writeEach_of_stored {writes : List (Location × List UInt8)}
    (hbuilt : List.Forall₂ (fun g d => g.build = .ok d) gs ds) (hlogs : s.LogsOpen)
    (hstored : List.Forall₂
      (fun g write => Stored s.files (target outDir g.name, [g]) write) gs writes) :
    ∃ s', (writeEach outDir ds).apply s = (.ok (gs.map fun g => target outDir g.name), s') ∧
      SameKinds s.files s'.files := by
  induction hbuilt generalizing s writes with
  | nil => exact ⟨s, rfl, .refl _⟩
  | @cons g d gs ds hbuild _ ih =>
    cases hstored with
    | @cons _ write _ writes hhead htail =>
      obtain ⟨hnames, hbytes⟩ := hhead
      rw [bytes_of_built (.cons hbuild .nil)] at hbytes
      rw [← GeneratorSpec.name_of_build hbuild] at hnames
      obtain ⟨s₁, hfirst, hlogs₁, hkinds⟩ := apply_writeFile_of_names hlogs hnames hbytes
      obtain ⟨s₂, hrest, hkinds'⟩ := ih hlogs₁ (htail.imp fun _ _ h => h.mono hkinds.grows)
      refine ⟨s₂, ?_, hkinds.trans hkinds'⟩
      rw [apply_writeEach_cons hfirst, hrest, List.map_cons, GeneratorSpec.name_of_build hbuild]
      rfl

/-! ### Building and writing -/

/-- Nothing is written when a generator cannot be built. -/
lemma apply_writeAll_of_fault {e : Fault} (h : gs.mapM GeneratorSpec.build = .error e)
    (outDir : Path) (bundleName : Option String) (s : Session) :
    ∃ rs, (writeAll gs outDir bundleName).apply s = (.error (.fault e), s.logAll rs) := by
  obtain ⟨rs, hrun, -⟩ := apply_buildList gs s
  rw [h] at hrun
  exact ⟨rs, by rw [writeAll, Run.apply_bind_of_error hrun]⟩

/-- Nothing is written for no generators. -/
lemma apply_writeAll_nil (outDir : Path) (bundleName : Option String) (s : Session) :
    ∃ r : Record, (writeAll [] outDir bundleName).apply s = (.ok [], s.log r) :=
  ⟨_, rfl⟩

/-- Files are written one by one after all generators were built. -/
lemma apply_writeAll_each (hbuilt : List.Forall₂ (fun g d => g.build = .ok d) gs ds)
    (hgs : gs ≠ []) (outDir : Path) (s : Session) :
    ∃ rs, rs ≠ [] ∧
      (writeAll gs outDir none).apply s = (writeEach outDir ds).apply (s.logAll rs) := by
  obtain ⟨rs, hrun, hrs⟩ := apply_buildList gs s
  rw [mapM_eq_ok_iff.mpr hbuilt] at hrun
  cases hbuilt with
  | nil => exact absurd rfl hgs
  | cons _ _ => exact ⟨rs, hrs hgs, by rw [writeAll, Run.apply_bind_of_ok hrun]; rfl⟩

/-- The bundle is written after all generators were built. -/
lemma apply_writeAll_bundle (hbuilt : List.Forall₂ (fun g d => g.build = .ok d) gs ds)
    (hgs : gs ≠ []) (outDir : Path) (name : String) (s : Session) :
    ∃ rs, rs ≠ [] ∧ (writeAll gs outDir (some name)).apply s =
      (((writeFile (target outDir name) ds).apply (s.logAll rs)).1.map ([·]),
        ((writeFile (target outDir name) ds).apply (s.logAll rs)).2) := by
  obtain ⟨rs, hrun, hrs⟩ := apply_buildList gs s
  rw [mapM_eq_ok_iff.mpr hbuilt] at hrun
  cases hbuilt with
  | nil => exact absurd rfl hgs
  | @cons g d gs ds _ _ =>
    refine ⟨rs, hrs hgs, ?_⟩
    rw [writeAll, Run.apply_bind_of_ok hrun]
    change (writeFile (target outDir name) (d :: ds) >>= fun path => pure [path]).apply _ = _
    rw [Run.apply_bind]
    rcases (writeFile (target outDir name) (d :: ds)).apply (s.logAll rs) with ⟨_ | _, _⟩ <;> rfl

/-- A bundle that has bytes is written when the file system stores them, and leaves what storing
them leaves, with log files that are there. -/
lemma writeAll_bundle_of_store (hbuilt : List.Forall₂ (fun g d => g.build = .ok d) gs ds)
    (hgs : gs ≠ []) (hlogs : s.LogsOpen) {content : List UInt8}
    (hbytes : DefinitionFile.encode ds = .ok content) (outDir : Path) (name : String) :
    ((writeAll gs outDir (some name)).apply s).1 =
        ((s.files.store (target outDir name) content).1.mapError .file).map
          (fun _ => [target outDir name]) ∧
      FileSystem.Alike s.logFiles (s.files.store (target outDir name) content).2
        ((writeAll gs outDir (some name)).apply s).2.files := by
  obtain ⟨rs, -, hrun⟩ := apply_writeAll_bundle hbuilt hgs outDir name s
  obtain ⟨r, r', hfile⟩ := apply_writeFile_of_bytes hbytes (target outDir name) (s.logAll rs)
  have hlogged : (s.logAll rs).log r = s.logAll (rs ++ [r]) := (logAll_append s rs [r]).symm
  have hopen : (s.logAll (rs ++ [r])).LogsOpen := logsOpen_logAll (rs ++ [r]) (.inr hlogs)
  obtain ⟨houtcome, hfiles⟩ :=
    (hlogs.alike_logAll (rs ++ [r])).store (target outDir name) content
  rw [hrun, hfile, hlogged, ← houtcome]
  rcases hstore : (s.logAll (rs ++ [r])).files.store (target outDir name) content with
    ⟨_ | _, fs⟩ <;> rw [hstore] at hfiles
  · exact ⟨rfl, hfiles⟩
  · obtain ⟨_, -, hgrows, -⟩ := store_ok [] hstore
    have hlast := (hopen.withFiles hgrows).alike_logAll [r']
    have hlogs' : ({ s.logAll (rs ++ [r]) with files := fs } : Session).logFiles = s.logFiles :=
      logFiles_logAll s (rs ++ [r])
    rw [hlogs'] at hlast
    exact ⟨rfl, hfiles.agrees.trans hlast.agrees, hfiles.kinds.trans hlast.kinds⟩

end Output

end SynthGraph
