import SynthGraph.Proofs.Files.Storing

/-!
# File systems that differ in what log files hold

Directories and files are made alike in two file systems that differ at most in what the log files
hold: with the same outcome, and so that they differ in nothing else afterwards.
-/

namespace SynthGraph

namespace FileSystem

variable {fs fs' : FileSystem} {logs : List Location}

/-- Two file systems differ at most in what the log files hold. -/
structure Alike (logs : List Location) (fs fs' : FileSystem) : Prop where
  agrees : AgreesOff logs fs fs'
  kinds : SameKinds fs fs'

/-- Putting an entry keeps two file systems alike. -/
lemma Alike.put (h : Alike logs fs fs') (loc : Location) (e : FileEntry) :
    Alike logs (fs.put loc e) (fs'.put loc e) := by
  have hhere : (fs'.put loc e).here = (fs.put loc e).here := by simp [h.agrees.here]
  have hlocked : (fs'.put loc e).locked = (fs.put loc e).locked := by simp [h.agrees.locked]
  by_cases hloc : loc = []
  · subst hloc
    refine ⟨⟨hhere, hlocked, fun l hl => ?_⟩, ⟨hhere, hlocked, fun l => ?_⟩⟩
    · rw [entry?_put_nil, entry?_put_nil, h.agrees.entry l hl]
    · unfold kind?
      rw [entry?_put_nil, entry?_put_nil]
      exact h.kinds.kind l
  · have hput := entry?_put fs hloc e
    have hput' := entry?_put fs' hloc e
    refine ⟨⟨hhere, hlocked, fun l hl => ?_⟩, ⟨hhere, hlocked, fun l => ?_⟩⟩
    · rw [hput, hput', h.agrees.entry l hl]
    · unfold kind?
      rw [hput, hput']
      by_cases hl : l = loc
      · rw [if_pos hl, if_pos hl]
      · rw [if_neg hl, if_neg hl]
        exact h.kinds.kind l

/-- Taking an entry away keeps two file systems alike. -/
lemma Alike.erase (h : Alike logs fs fs') {loc : Location} (hloc : loc ≠ []) :
    Alike logs (fs.erase loc) (fs'.erase loc) := by
  have hhere : (fs'.erase loc).here = (fs.erase loc).here := h.agrees.here
  have hlocked : (fs'.erase loc).locked = (fs.erase loc).locked :=
    congrArg (List.filter (· != loc)) h.agrees.locked
  have herase := entry?_erase fs hloc
  have herase' := entry?_erase fs' hloc
  refine ⟨⟨hhere, hlocked, fun l hl => ?_⟩, ⟨hhere, hlocked, fun l => ?_⟩⟩
  · rw [herase, herase', h.agrees.entry l hl]
  · unfold kind?
    rw [herase, herase']
    by_cases hl : l = loc
    · rw [if_pos hl, if_pos hl]
    · rw [if_neg hl, if_neg hl]
      exact h.kinds.kind l

/-- The same locations can be written in file systems with the same kinds. -/
lemma SameKinds.isWritable_eq (h : SameKinds fs fs') (l : Location) :
    fs'.isWritable l = fs.isWritable l := by
  have hsome (fs : FileSystem) : (fs.entry? l).isSome = (fs.kind? l).isSome := by simp [kind?]
  rw [isWritable, isWritable, isFixed, isFixed, hsome, hsome, h.kind l, isLocked_eq h.locked,
    isLocked_eq h.locked]

/-- A directory is made in two file systems that are alike, or in neither. -/
lemma Alike.makeDirectory (h : Alike logs fs fs') (p : Path) :
    (∃ e, fs.makeDirectory p = .error e ∧ fs'.makeDirectory p = .error e) ∨
    ∃ made made', fs.makeDirectory p = .ok made ∧ fs'.makeDirectory p = .ok made' ∧
      Alike logs made made' := by
  unfold FileSystem.makeDirectory
  rw [h.kinds.locate_eq]
  rcases fs.locate p with e | loc
  · exact .inl ⟨e, rfl, rfl⟩
  · have hkind := h.kinds.kind loc
    have hfixed : fs'.isFixed loc = fs.isFixed loc := isLocked_eq h.kinds.locked loc.dropLast
    unfold kind? at hkind
    dsimp only
    rcases hentry : fs.entry? loc with _ | _ | _ <;>
      rcases hentry' : fs'.entry? loc with _ | _ | _ <;>
      simp only [hentry, hentry', Option.map_some, Option.map_none, reduceCtorEq,
        Option.some.injEq] at hkind
    · dsimp only
      rw [hfixed]
      by_cases hdenied : fs.isFixed loc
      · exact .inl ⟨.denied, if_pos hdenied, if_pos hdenied⟩
      · exact .inr ⟨_, _, if_neg hdenied, if_neg hdenied, h.put loc .directory⟩
    · exact .inl ⟨.present, rfl, rfl⟩
    · cases hkind
    · cases hkind
    · exact .inr ⟨_, _, rfl, rfl, h⟩

/-- Directories are made alike with their parents. -/
lemma Alike.makeWithParents (h : Alike logs fs fs') (start : PathStart) (above : List String) :
    (fs'.makeWithParents start above).1 = (fs.makeWithParents start above).1 ∧
      Alike logs (fs.makeWithParents start above).2 (fs'.makeWithParents start above).2 := by
  induction above generalizing fs fs' with
  | nil => exact ⟨rfl, h⟩
  | cons part above ih =>
    rw [FileSystem.makeWithParents, FileSystem.makeWithParents]
    rcases h.makeDirectory ⟨start, (part :: above).reverse⟩ with
      ⟨e, hmake, hmake'⟩ | ⟨made, made', hmake, hmake', hmade⟩ <;> rw [hmake, hmake'] <;> dsimp only
    · by_cases hmissing : e = .missing
      · rw [if_pos hmissing, if_pos hmissing]
        have hparents := ih h
        rcases hrun : fs.makeWithParents start above with ⟨f | _, fs₁⟩ <;>
          rcases hrun' : fs'.makeWithParents start above with ⟨f' | _, fs₁'⟩ <;>
          rw [hrun, hrun'] at hparents <;> dsimp only
        · exact hparents
        · cases hparents.1
        · cases hparents.1
        · rcases hparents.2.makeDirectory ⟨start, (part :: above).reverse⟩ with
            ⟨_, hagain, hagain'⟩ | ⟨made, made', hagain, hagain', hmade⟩ <;> rw [hagain, hagain']
          · exact ⟨rfl, hparents.2⟩
          · exact ⟨rfl, hmade⟩
      · rw [if_neg hmissing, if_neg hmissing]
        exact ⟨rfl, h⟩
    · exact ⟨rfl, hmade⟩

/-- Directories are made alike. -/
lemma Alike.makeDirectories (h : Alike logs fs fs') (p : Path) :
    (fs'.makeDirectories p).1 = (fs.makeDirectories p).1 ∧
      Alike logs (fs.makeDirectories p).2 (fs'.makeDirectories p).2 := by
  unfold FileSystem.makeDirectories
  by_cases hnull : p.hasNull
  · rw [if_pos hnull, if_pos hnull]
    exact ⟨rfl, h⟩
  · rw [if_neg hnull, if_neg hnull]
    exact h.makeWithParents p.start p.parts.reverse

/-- The same files can be opened in file systems with the same kinds. -/
lemma SameKinds.openFile_eq (h : SameKinds fs fs') (p : Path) : fs'.openFile p = fs.openFile p := by
  have hdirectory (l : Location) :
      fs'.entry? l = some .directory ↔ fs.entry? l = some .directory := by
    rw [← kind?_eq_directory_iff, ← kind?_eq_directory_iff, h.kind l]
  simp only [FileSystem.openFile, h.locate_eq, hdirectory, h.isWritable_eq]

/-- What cannot be opened is taken away alike. -/
lemma Alike.remove (h : Alike logs fs fs') (p : Path) :
    (∃ f, fs.remove p = .error f ∧ fs'.remove p = .error f) ∨
    ∃ left left', fs.remove p = .ok left ∧ fs'.remove p = .ok left' ∧ Alike logs left left' := by
  unfold FileSystem.remove
  rw [h.kinds.locate_eq]
  by_cases hnull : p.hasNull
  · exact .inl ⟨_, if_pos hnull, if_pos hnull⟩
  · rw [if_neg hnull, if_neg hnull]
    rcases fs.locate p with e | loc
    · by_cases hmissing : e = .missing
      · exact .inr ⟨fs, fs', if_pos hmissing, if_pos hmissing, h⟩
      · exact .inl ⟨_, if_neg hmissing, if_neg hmissing⟩
    · have hkind := h.kinds.kind loc
      have hfixed : fs'.isFixed loc = fs.isFixed loc := isLocked_eq h.kinds.locked loc.dropLast
      unfold kind? at hkind
      dsimp only
      rcases hentry : fs.entry? loc with _ | old | _ <;>
        rcases hentry' : fs'.entry? loc with _ | old' | _ <;>
        simp only [hentry, hentry', Option.map_some, Option.map_none, reduceCtorEq,
          Option.some.injEq] at hkind
      · exact .inr ⟨fs, fs', rfl, rfl, h⟩
      · have hnil : loc ≠ [] := ne_nil_of_not_directory (by rw [hentry]; simp)
        dsimp only
        rw [hfixed]
        by_cases hdenied : fs.isFixed loc
        · exact .inl ⟨_, if_pos hdenied, if_pos hdenied⟩
        · exact .inr ⟨_, _, (if_neg hdenied).trans (if_neg (by simp)),
            (if_neg hdenied).trans (if_neg (by simp)), h.erase hnil⟩
      · cases hkind
      · cases hkind
      · dsimp only
        rw [hfixed]
        by_cases hdenied : fs.isFixed loc
        · exact .inl ⟨_, if_pos hdenied, if_pos hdenied⟩
        · exact .inl ⟨_, (if_neg hdenied).trans (if_pos rfl), (if_neg hdenied).trans (if_pos rfl)⟩

/-- Files are stored alike. -/
lemma Alike.store (h : Alike logs fs fs') (p : Path) (content : List UInt8) :
    (fs'.store p content).1 = (fs.store p content).1 ∧
      Alike logs (fs.store p content).2 (fs'.store p content).2 := by
  have hmake := h.makeDirectories p.parent
  unfold FileSystem.store FileSystem.write
  rcases hrun : fs.makeDirectories p.parent with ⟨_ | _, fs₁⟩ <;>
    rcases hrun' : fs'.makeDirectories p.parent with ⟨_ | _, fs₁'⟩ <;>
    rw [hrun, hrun'] at hmake <;> dsimp only
  · exact hmake
  · cases hmake.1
  · cases hmake.1
  · rw [hmake.2.kinds.openFile_eq p]
    rcases fs₁.openFile p with f | loc <;> dsimp only [Except.map]
    · rcases hmake.2.remove p with
        ⟨g, hremove, hremove'⟩ | ⟨left, left', hremove, hremove', hleft⟩ <;>
        rw [hremove, hremove']
      · exact ⟨rfl, hmake.2⟩
      · exact ⟨rfl, hleft⟩
    · exact ⟨rfl, hmake.2.put loc (.file content)⟩

end FileSystem

end SynthGraph
