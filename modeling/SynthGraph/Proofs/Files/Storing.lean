import Mathlib.Data.List.Induction
import SynthGraph.Proofs.Files.Directories

/-!
# Storing files

Storing a file makes the directories above it and writes it.  When it succeeds, no other regular
file changes and the only other entries that appear are directories on the way to the file.  When it
fails no regular file changes, but that a protected one at the path itself may be taken away: other
files that cannot be opened are not there.  Once a file was stored its path names it for good, and
storing it again only puts the new content in the place of the old one.
-/

namespace SynthGraph

namespace FileSystem

variable {fs fs' fs'' : FileSystem} {l loc : Location} {p q : Path} {content : List UInt8}
  {logs : List Location} {f : FileFault}

/-! ### Protection -/

/-- The same locations are protected when the lists of them are equal. -/
lemma isLocked_eq (h : fs'.locked = fs.locked) (l : Location) : fs'.isLocked l = fs.isLocked l := by
  rw [isLocked, isLocked, h]

/-- No regular file is protected, only directories are. -/
def FilesFree (fs : FileSystem) : Prop := ∀ l ∈ fs.locked, fs.kind? l = some .directory

/-- Files stay free when no kind changes. -/
lemma FilesFree.mono (h : fs.FilesFree) (hgrows : Grows fs fs') : fs'.FilesFree :=
  fun l hl => hgrows.kind l _ (h l (hgrows.locked ▸ hl))

/-! ### Writing and taking away -/

/-- A file can be opened exactly when its path leads to a location without a directory, where a
file may be written. -/
lemma openFile_eq_ok_iff : fs.openFile p = .ok loc ↔
    p.hasNull = false ∧ fs.locate p = .ok loc ∧ fs.kind? loc ≠ some .directory ∧
      fs.isWritable loc = true := by
  unfold openFile
  rw [Ne, kind?_eq_directory_iff]
  cases p.hasNull
  case true => simp
  case false =>
    rcases fs.locate p with e | loc'
    · simp
    · by_cases hdir : fs.entry? loc' = some .directory
      · simp only [Bool.false_eq_true, if_false, hdir, if_true, reduceCtorEq, true_and,
          Except.ok.injEq, false_iff, not_and]
        rintro rfl hnot
        exact absurd hdir hnot
      · by_cases hfree : fs.isWritable loc' = true
        · simp only [Bool.false_eq_true, if_false, hdir, hfree, if_true, true_and, Except.ok.injEq]
          constructor
          · rintro rfl
            exact ⟨rfl, hdir, hfree⟩
          · exact fun h => h.1
        · simp only [Bool.false_eq_true, if_false, hdir, hfree, reduceCtorEq, true_and,
            Except.ok.injEq, false_iff, not_and]
          rintro rfl -
          exact hfree

/-- Where a file can be opened nothing is protected. -/
lemma isLocked_of_isWritable (h : fs.isWritable loc = true) : fs.isLocked loc = false := by
  unfold isWritable at h
  simpa using (Bool.and_eq_true_iff.mp h).1

/-- A file that is there can be opened when it is not protected. -/
lemma isWritable_of_kind {k : FileKind} (hkind : fs.kind? loc = some k)
    (hfree : fs.isLocked loc = false) : fs.isWritable loc = true := by
  have hsome : (fs.entry? loc).isSome := by
    rw [Option.isSome_iff_ne_none, Ne, ← kind?_eq_none_iff, hkind]
    simp
  rw [isWritable, hfree, hsome]
  rfl

/-- Taking away a file that cannot be opened is refused, changes nothing, or takes away a protected
file. -/
lemma remove_of_openFile_error (h : fs.openFile p = .error f) :
    (∃ g, fs.remove p = .error g) ∨ fs.remove p = .ok fs ∨
      ∃ loc, fs.locate p = .ok loc ∧ fs.kind? loc = some .file ∧ fs.isLocked loc = true ∧
        fs.remove p = .ok (fs.erase loc) := by
  unfold openFile at h
  unfold remove
  by_cases hnull : p.hasNull
  · rw [if_pos hnull]
    exact .inl ⟨_, rfl⟩
  · rw [if_neg hnull] at h ⊢
    rcases hlocate : fs.locate p with e | loc <;> simp only [hlocate] at h ⊢
    · by_cases hmissing : e = .missing
      · exact .inr (.inl (if_pos hmissing))
      · exact .inl ⟨_, if_neg hmissing⟩
    · rcases hentry : fs.entry? loc with _ | content | _ <;> simp only [hentry] at h ⊢
      · exact .inr (.inl trivial)
      · by_cases hfixed : fs.isFixed loc
        · exact .inl ⟨_, if_pos hfixed⟩
        · rw [if_neg hfixed, if_neg (by simp)]
          refine .inr (.inr ⟨loc, rfl, by rw [kind?, hentry]; rfl, ?_, rfl⟩)
          by_contra hfree
          have hkind : fs.kind? loc = some .file := by rw [kind?, hentry]; rfl
          rw [if_neg (by simp), if_pos (isWritable_of_kind hkind (by simpa using hfree))] at h
          cases h
      · by_cases hfixed : fs.isFixed loc
        · exact .inl ⟨_, if_pos hfixed⟩
        · exact .inl ⟨_, (if_neg hfixed).trans (if_pos trivial)⟩

/-- Storing succeeds when the directory is made and the file can be opened there, and then writes
the file. -/
lemma store_eq_ok_iff : fs.store p content = (.ok (), fs') ↔ ∃ made loc,
    fs.makeDirectories p.parent = (.ok (), made) ∧ made.openFile p = .ok loc ∧
      fs' = made.put loc (.file content) := by
  unfold store write
  rcases fs.makeDirectories p.parent with ⟨_ | _, made⟩
  · simp
  · rcases hopen : made.openFile p with f | loc
    · simp only [hopen, Except.map, Prod.mk.injEq, true_and, exists_and_left]
      rcases made.remove p with g | fs'' <;> simp [hopen]
    · simp only [hopen, Except.map, Prod.mk.injEq, true_and]
      constructor
      · rintro rfl
        exact ⟨made, loc, rfl, hopen, rfl⟩
      · rintro ⟨_, _, rfl, hopen', rfl⟩
        rw [hopen] at hopen'
        rw [Except.ok.inj hopen']

/-! ### Names of files -/

/-- A path names the file at a location, in a directory that is there. -/
structure Names (fs : FileSystem) (p : Path) (loc : Location) : Prop where
  noNull : p.hasNull = false
  located : fs.locate p = .ok loc
  kind : fs.kind? loc = some .file
  free : fs.isLocked loc = false
  above : p.parent.parts ≠ [] →
    ∃ up, fs.locate p.parent = .ok up ∧ fs.kind? up = some .directory

/-- A name stays one. -/
lemma Names.mono (h : fs.Names p loc) (hgrows : Grows fs fs') : fs'.Names p loc := by
  refine ⟨h.noNull, hgrows.locate_ok h.located, hgrows.kind _ _ h.kind,
    (isLocked_eq hgrows.locked loc).trans h.free, ?_⟩
  intro hparts
  obtain ⟨up, hlocate, hkind⟩ := h.above hparts
  exact ⟨up, hgrows.locate_ok hlocate, hgrows.kind _ _ hkind⟩

/-- A path names one file. -/
lemma Names.unique (h : fs.Names p l) (h' : fs.Names p loc) : l = loc :=
  Except.ok.inj (h.located.symm.trans h'.located)

/-- A file is not the root. -/
lemma Names.ne_nil (h : fs.Names p loc) : loc ≠ [] := ne_nil_of_file h.kind

/-- A file is read by its name. -/
lemma Names.read_eq (h : fs.Names p loc) (hcontent : fs.content? loc = some content) :
    fs.read p = .ok content := by
  unfold read
  rw [h.noNull, if_neg Bool.false_ne_true, h.located]
  simp only [content?_eq_some_iff.mp hcontent]

/-- The path of the directory holds no character that the path does not hold. -/
lemma hasNull_parent (h : p.hasNull = false) : p.parent.hasNull = false := by
  unfold Path.hasNull at h ⊢
  rw [List.any_eq_false] at h ⊢
  exact fun part hpart => h part (List.dropLast_subset p.parts hpart)

/-- A path that names a file opens it. -/
lemma Names.openFile_eq (h : fs.Names p loc) : fs.openFile p = .ok loc :=
  openFile_eq_ok_iff.mpr
    ⟨h.noNull, h.located, by rw [h.kind]; simp, isWritable_of_kind h.kind h.free⟩

/-- Storing at a path that names a file puts the content there and does nothing else. -/
lemma Names.store_eq (h : fs.Names p loc) (content : List UInt8) :
    fs.store p content = (.ok (), fs.put loc (.file content)) := by
  have hmake : fs.makeDirectories p.parent = (.ok (), fs) := by
    unfold makeDirectories
    rw [hasNull_parent h.noNull, if_neg Bool.false_ne_true]
    refine makeWithParents_of_directory fun hparts => ?_
    rw [List.reverse_reverse]
    exact h.above (by simpa using hparts)
  exact store_eq_ok_iff.mpr ⟨fs, loc, hmake, h.openFile_eq, rfl⟩

/-! ### What a run of writes leaves -/

/-- The content at a location after contents were written to locations, one after another. -/
def contentAfter (old : Option (List UInt8)) (writes : List (Location × List UInt8))
    (l : Location) : Option (List UInt8) :=
  writes.foldl (fun current write => if write.1 = l then some write.2 else current) old

/-- A location to which nothing was written keeps its content. -/
lemma contentAfter_of_notMem {writes : List (Location × List UInt8)}
    (h : ∀ write ∈ writes, write.1 ≠ l) (old : Option (List UInt8)) :
    contentAfter old writes l = old := by
  induction writes generalizing old with
  | nil => rfl
  | cons write writes ih =>
    have hne := h write List.mem_cons_self
    change contentAfter (if write.1 = l then some write.2 else old) writes l = old
    rw [if_neg hne]
    exact ih (fun w hw => h w (List.mem_cons_of_mem _ hw)) old

/-- Writes take no content away. -/
lemma contentAfter_isSome {old : Option (List UInt8)} (h : old.isSome)
    (writes : List (Location × List UInt8)) (l : Location) :
    (contentAfter old writes l).isSome := by
  induction writes generalizing old with
  | nil => exact h
  | cons write writes ih =>
    change (contentAfter (if write.1 = l then some write.2 else old) writes l).isSome
    by_cases hl : write.1 = l
    · rw [if_pos hl]
      exact ih rfl
    · rw [if_neg hl]
      exact ih h

/-- Writing the same contents once more changes nothing. -/
lemma contentAfter_idem (old : Option (List UInt8)) (writes : List (Location × List UInt8))
    (l : Location) :
    contentAfter (contentAfter old writes l) writes l = contentAfter old writes l := by
  induction writes using List.reverseRecOn generalizing old with
  | nil => rfl
  | append_singleton writes write ih =>
    by_cases hl : write.1 = l
    · simp [contentAfter, List.foldl_append, hl]
    · have hlast : ∀ old, contentAfter old (writes ++ [write]) l = contentAfter old writes l := by
        intro old
        simp [contentAfter, List.foldl_append, hl]
      rw [hlast, hlast]
      exact ih old

/-- What storing files at some paths leaves, away from the log files: the written contents, one
after another, in regular files, and directories that were not there before only on the way to the
paths. -/
structure Leaves (logs : List Location) (paths : List Path)
    (writes : List (Location × List UInt8)) (fs fs' : FileSystem) : Prop where
  here : fs'.here = fs.here
  locked : fs'.locked = fs.locked
  content : ∀ l ∉ logs, fs'.content? l = contentAfter (fs.content? l) writes l
  kept : ∀ l ∉ logs, fs.entry? l = some .directory → fs'.entry? l = some .directory
  made : ∀ l ∉ logs, fs'.entry? l = some .directory → fs.entry? l = some .directory ∨
    fs.entry? l = none ∧ ∃ p ∈ paths, fs'.OnWay p.parent l

namespace Leaves

variable {paths paths' : List Path} {writes writes' : List (Location × List UInt8)}

/-- Without writes, file systems that agree away from the log files are left. -/
lemma of_agreesOff (h : AgreesOff logs fs fs') (paths : List Path) :
    Leaves logs paths [] fs fs' := by
  refine ⟨h.here, h.locked, fun l hl => h.content?_eq hl, fun l hl hdir => ?_,
    fun l hl hdir => .inl ?_⟩
  · rwa [h.entry l hl]
  · rwa [← h.entry l hl]

/-- Directories were made. -/
lemma of_makesWay (h : MakesWay p.parent fs fs') : Leaves logs [p] [] fs fs' := by
  refine ⟨h.here, h.locked, fun l _ => h.content?_eq l, ?_, ?_⟩
  · intro l _ hdir
    exact kind?_eq_directory_iff.mp (h.grows.kind l _ (kind?_eq_directory_iff.mpr hdir))
  · intro l _ hdir
    rcases h.entry l with hsame | ⟨hnone, -, hway⟩
    · exact .inl (hsame ▸ hdir)
    · exact .inr ⟨hnone, p, List.mem_singleton_self p, hway⟩

/-- A content was put where no directory is. -/
lemma of_put (paths : List Path) (hloc : fs.kind? loc ≠ some .directory) :
    Leaves logs paths [(loc, content)] fs (fs.put loc (.file content)) := by
  rw [Ne, kind?_eq_directory_iff] at hloc
  have hput := entry?_put fs (ne_nil_of_not_directory hloc) (.file content)
  refine ⟨here_put fs loc _, locked_put fs loc _, fun l _ => ?_, fun l _ hdir => ?_,
    fun l _ hdir => .inl ?_⟩
  · change _ = if loc = l then some content else fs.content? l
    rw [content?_put fs (ne_nil_of_not_directory hloc)]
    exact if_congr eq_comm rfl rfl
  · have hl : l ≠ loc := fun h => hloc (h ▸ hdir)
    rwa [hput, if_neg hl]
  · rw [hput] at hdir
    by_cases hl : l = loc
    · rw [if_pos hl] at hdir
      cases hdir
    · rwa [if_neg hl] at hdir

/-- One run of writes follows another. -/
lemma trans (h : Leaves logs paths writes fs fs') (h' : Leaves logs paths' writes' fs' fs'')
    (hgrows : Grows fs' fs'') :
    Leaves logs (paths ++ paths') (writes ++ writes') fs fs'' := by
  refine ⟨h'.here.trans h.here, h'.locked.trans h.locked, ?_, ?_, ?_⟩
  · intro l hl
    rw [h'.content l hl, h.content l hl]
    unfold contentAfter
    rw [List.foldl_append]
  · intro l hl hdir
    exact h'.kept l hl (h.kept l hl hdir)
  · intro l hl hdir
    rcases h'.made l hl hdir with hdir' | ⟨hnone, p, hp, hway⟩
    · rcases h.made l hl hdir' with hold | ⟨hnone, p, hp, hway⟩
      · exact .inl hold
      · exact .inr ⟨hnone, p, List.mem_append_left _ hp, hway.mono hgrows⟩
    · refine .inr ⟨?_, p, List.mem_append_right _ hp, hway⟩
      rcases hentry : fs.entry? l with _ | old | _
      · rfl
      · have hold := h.content l hl
        rw [content?_eq_some_iff.mpr hentry] at hold
        have hsome := contentAfter_isSome (Option.isSome_some : (some old).isSome) writes l
        rw [← hold] at hsome
        unfold content? at hsome
        rw [hnone] at hsome
        cases hsome
      · rw [h.kept l hl hentry] at hnone
        cases hnone

/-- Agreement before the writes and after them. -/
lemma congr {before after : FileSystem} (h : Leaves logs paths writes fs fs')
    (hbefore : AgreesOff logs before fs) (hafter : AgreesOff logs fs' after)
    (hkinds : Grows fs' after) : Leaves logs paths writes before after := by
  refine ⟨?_, ?_, ?_, ?_, ?_⟩
  · rw [hafter.here, h.here, hbefore.here]
  · rw [hafter.locked, h.locked, hbefore.locked]
  · intro l hl
    rw [hafter.content?_eq hl, h.content l hl, hbefore.content?_eq hl]
  · intro l hl hdir
    rw [hafter.entry l hl]
    exact h.kept l hl (by rwa [hbefore.entry l hl])
  · intro l hl hdir
    rw [hafter.entry l hl] at hdir
    rw [← hbefore.entry l hl]
    rcases h.made l hl hdir with hold | ⟨hnone, p, hp, hway⟩
    · exact .inl hold
    · exact .inr ⟨hnone, p, hp, hway.mono hkinds⟩

end Leaves

/-! ### What storing leaves -/

/-- A file that could not be stored leaves directories on the way to it at most, and perhaps a
protected file at its own place is gone. -/
lemma store_error (h : fs.store p content = (.error f, fs')) :
    ∃ made, MakesWay p.parent fs made ∧ (fs' = made ∨ ∃ loc, made.locate p = .ok loc ∧
      made.kind? loc = some .file ∧ loc ∈ fs.locked ∧ fs' = made.erase loc) := by
  have hway := makesWay_makeDirectories fs p.parent
  unfold store write at h
  rcases hrun : fs.makeDirectories p.parent with ⟨_ | _, made⟩ <;> rw [hrun] at h hway
  · exact ⟨made, hway, .inl (Prod.mk.inj h).2.symm⟩
  · refine ⟨made, hway, ?_⟩
    rcases hopen : made.openFile p with g | loc <;> simp only [hopen, Except.map] at h
    · rcases remove_of_openFile_error hopen with
        ⟨g', hremove⟩ | hremove | ⟨loc, hlocate, hkind, hlocked, hremove⟩ <;>
        simp only [hremove, Prod.mk.injEq] at h
      · exact .inl h.2.symm
      · exact .inl h.2.symm
      · refine .inr ⟨loc, hlocate, hkind, ?_, h.2.symm⟩
        rw [isLocked_eq hway.locked] at hlocked
        exact List.contains_iff_mem.mp hlocked
    · cases h

/-- Where no file is protected, one that could not be stored leaves directories on the way to it at
most. -/
lemma FilesFree.store_error (hfree : fs.FilesFree) (h : fs.store p content = (.error f, fs')) :
    MakesWay p.parent fs fs' := by
  obtain ⟨made, hway, rfl | ⟨loc, -, hkind, hlocked, -⟩⟩ := FileSystem.store_error h
  · exact hway
  · rw [hway.grows.kind loc _ (hfree loc hlocked)] at hkind
    cases hkind

/-- A file that was stored is named by its path and holds what was stored. -/
lemma store_ok (logs : List Location) (h : fs.store p content = (.ok (), fs')) :
    ∃ loc, fs'.Names p loc ∧ Grows fs fs' ∧ Leaves logs [p] [(loc, content)] fs fs' := by
  have hway := makesWay_makeDirectories fs p.parent
  obtain ⟨made, loc, hrun, hopen, rfl⟩ := store_eq_ok_iff.mp h
  rw [hrun] at hway
  obtain ⟨hnull, hlocate, hkind, hwritable⟩ := openFile_eq_ok_iff.mp hopen
  have hnil : loc ≠ [] := ne_nil_of_not_directory (mt kind?_eq_directory_iff.mpr hkind)
  have hgrows : Grows made (made.put loc (.file content)) := by
    refine grows_put hnil fun k hk => ?_
    cases k with
    | file => rfl
    | directory => exact absurd hk hkind
  refine ⟨loc, ⟨hnull, hgrows.locate_ok hlocate, ?_, ?_, fun hparts => ?_⟩,
    hway.grows.trans hgrows, ?_⟩
  · rw [kind?, entry?_put made hnil, if_pos rfl]
    rfl
  · rw [isLocked_eq hgrows.locked]
    exact isLocked_of_isWritable hwritable
  · obtain ⟨up, hup, hdir⟩ := locate_of_makeDirectories hrun hparts
    exact ⟨up, hgrows.locate_ok hup, hgrows.kind _ _ hdir⟩
  · exact (Leaves.of_makesWay hway).trans (Leaves.of_put [] hkind) hgrows

/-- Where no file is protected, no kind changes when a file is stored or cannot be stored. -/
lemma FilesFree.grows_store (hfree : fs.FilesFree) (p : Path) (content : List UInt8) :
    Grows fs (fs.store p content).2 := by
  rcases hstore : fs.store p content with ⟨_ | _, fs'⟩
  · exact (hfree.store_error hstore).grows
  · obtain ⟨_, -, hgrows, -⟩ := store_ok [] hstore
    exact hgrows

end FileSystem

end SynthGraph
