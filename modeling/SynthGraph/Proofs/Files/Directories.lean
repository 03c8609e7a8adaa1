import SynthGraph.Proofs.Files.Entries

/-!
# Making directories

Making a directory with its parents adds directories on the way to it and nothing else, also when it
fails half way.  When it succeeds the path leads to a directory, and when the directory is there
already nothing changes.
-/

namespace SynthGraph

namespace FileSystem

variable {fs fs' fs'' : FileSystem} {l : Location} {p q : Path}

/-! ### Directories on the way -/

/-- A location to which a path leads after some of its components. -/
def OnWay (fs : FileSystem) (p : Path) (l : Location) : Prop :=
  ∃ parts, parts <+: p.parts ∧ fs.locate ⟨p.start, parts⟩ = .ok l

/-- What is on the way stays on the way. -/
lemma OnWay.mono (h : fs.OnWay p l) (hgrows : Grows fs fs') : fs'.OnWay p l := by
  obtain ⟨parts, hparts, hlocate⟩ := h
  exact ⟨parts, hparts, hgrows.locate_ok hlocate⟩

/-- What is on the way to a path is on the way to the paths below it. -/
lemma OnWay.below (h : fs.OnWay p l) (hstart : p.start = q.start)
    (hparts : p.parts <+: q.parts) : fs.OnWay q l := by
  obtain ⟨parts, hprefix, hlocate⟩ := h
  exact ⟨parts, hprefix.trans hparts, hstart ▸ hlocate⟩

/-- Only directories on the way to a path were added. -/
structure MakesWay (p : Path) (fs fs' : FileSystem) : Prop where
  here : fs'.here = fs.here
  locked : fs'.locked = fs.locked
  entry : ∀ l, fs'.entry? l = fs.entry? l ∨
    fs.entry? l = none ∧ fs'.entry? l = some .directory ∧ fs'.OnWay p l

/-- Nothing was added. -/
lemma MakesWay.refl (p : Path) (fs : FileSystem) : MakesWay p fs fs :=
  ⟨rfl, rfl, fun _ => .inl rfl⟩

/-- No kind changes when directories are added. -/
lemma MakesWay.grows (h : MakesWay p fs fs') : Grows fs fs' := by
  refine ⟨h.here, h.locked, ?_⟩
  intro l k hk
  rcases h.entry l with hsame | ⟨hnone, -, -⟩
  · unfold kind? at hk ⊢
    rwa [hsame]
  · rw [kind?_eq_none_iff.mpr hnone] at hk
    cases hk

/-- No regular file changes when directories are added. -/
lemma MakesWay.content?_eq (h : MakesWay p fs fs') (l : Location) :
    fs'.content? l = fs.content? l := by
  unfold content?
  rcases h.entry l with hsame | ⟨hnone, hmade, -⟩
  · rw [hsame]
  · rw [hnone, hmade]

/-- Directories on the way may be added one after another. -/
lemma MakesWay.trans (h : MakesWay p fs fs') (h' : MakesWay p fs' fs'') : MakesWay p fs fs'' := by
  refine ⟨h'.here.trans h.here, h'.locked.trans h.locked, ?_⟩
  intro l
  rcases h.entry l with hsame | ⟨hnone, hmade, hway⟩
  · rw [← hsame]
    exact h'.entry l
  · refine .inr ⟨hnone, ?_, hway.mono h'.grows⟩
    rcases h'.entry l with hsame | ⟨-, hmade', -⟩
    · rw [hsame, hmade]
    · exact hmade'

/-- Directories on the way to a path are on the way to the paths below it. -/
lemma MakesWay.below (h : MakesWay p fs fs') (hstart : p.start = q.start)
    (hparts : p.parts <+: q.parts) : MakesWay q fs fs' := by
  refine ⟨h.here, h.locked, ?_⟩
  intro l
  rcases h.entry l with hsame | ⟨hnone, hmade, hway⟩
  · exact .inl hsame
  · exact .inr ⟨hnone, hmade, hway.below hstart hparts⟩

/-- A directory that was made is where its path leads. -/
lemma makesWay_of_makeDirectory (h : fs.makeDirectory p = .ok fs') :
    MakesWay p fs fs' ∧ ∃ loc, fs'.locate p = .ok loc ∧ fs'.kind? loc = some .directory := by
  unfold makeDirectory at h
  rcases hlocate : fs.locate p with dead | loc <;> simp only [hlocate] at h
  · cases h
  · rcases hentry : fs.entry? loc with _ | _ | _ <;> simp only [hentry] at h
    · split at h <;> cases h
      have hnil : loc ≠ [] := ne_nil_of_not_directory (by rw [hentry]; simp)
      have hgrows : Grows fs (fs.put loc .directory) := by
        refine grows_put hnil fun k hk => ?_
        rw [kind?_eq_none_iff.mpr hentry] at hk
        cases hk
      have hput := entry?_put fs hnil .directory
      have hway := hgrows.locate_ok hlocate
      refine ⟨⟨here_put fs loc _, locked_put fs loc _, fun l => ?_⟩, loc, hway, ?_⟩
      · by_cases hl : l = loc
        · subst hl
          exact .inr ⟨hentry, by rw [hput, if_pos rfl], p.parts, List.prefix_rfl, hway⟩
        · exact .inl (by rw [hput, if_neg hl])
      · rw [kind?_eq_directory_iff, hput, if_pos rfl]
    · cases h
    · cases h
      exact ⟨.refl p fs, loc, hlocate, kind?_eq_directory_iff.mpr hentry⟩

/-- Making a directory with its parents makes way to it, also when it fails half way.  The induction
is on the components above, from the last one on. -/
lemma makesWay_makeWithParents (start : PathStart) (above : List String) (fs : FileSystem) :
    MakesWay ⟨start, above.reverse⟩ fs (fs.makeWithParents start above).2 := by
  induction above generalizing fs with
  | nil => exact .refl _ fs
  | cons part above ih =>
    rw [makeWithParents]
    rcases hmake : fs.makeDirectory ⟨start, (part :: above).reverse⟩ with e | fs₁ <;> dsimp only
    · by_cases hmissing : e = .missing
      · -- A directory above is missing, so that the parents are made first.
        have hparents : MakesWay ⟨start, (part :: above).reverse⟩ fs
            (fs.makeWithParents start above).2 :=
          (ih fs).below rfl (by simp)
        rw [if_pos hmissing]
        rcases habove : fs.makeWithParents start above with ⟨_ | _, fs₁⟩ <;>
          rw [habove] at hparents <;> dsimp only
        · exact hparents
        · rcases hagain : fs₁.makeDirectory ⟨start, (part :: above).reverse⟩ with _ | fs₂
          · exact hparents
          · exact hparents.trans (makesWay_of_makeDirectory hagain).1
      · rw [if_neg hmissing]
        exact .refl _ fs
    · exact (makesWay_of_makeDirectory hmake).1

/-- A directory that was made with its parents is where its path leads, unless that has no
components. -/
lemma locate_of_makeWithParents {start : PathStart} {above : List String}
    (h : fs.makeWithParents start above = (.ok (), fs')) (habove : above ≠ []) :
    ∃ loc, fs'.locate ⟨start, above.reverse⟩ = .ok loc ∧ fs'.kind? loc = some .directory := by
  cases above with
  | nil => exact absurd rfl habove
  | cons part above =>
    rw [makeWithParents] at h
    rcases hmake : fs.makeDirectory ⟨start, (part :: above).reverse⟩ with e | fs₁ <;>
      simp only [hmake] at h
    · by_cases hmissing : e = .missing
      · rw [if_pos hmissing] at h
        rcases hparents : fs.makeWithParents start above with ⟨_ | _, fs₁⟩ <;>
          simp only [hparents] at h
        · cases h
        · rcases hagain : fs₁.makeDirectory ⟨start, (part :: above).reverse⟩ with _ | fs₂ <;>
            simp only [hagain] at h <;> cases h
          exact (makesWay_of_makeDirectory hagain).2
      · rw [if_neg hmissing] at h
        cases h
    · cases h
      exact (makesWay_of_makeDirectory hmake).2

/-- Nothing needs to be made when the directory is there. -/
lemma makeWithParents_of_directory {start : PathStart} {above : List String}
    (h : above ≠ [] → ∃ loc, fs.locate ⟨start, above.reverse⟩ = .ok loc ∧
      fs.kind? loc = some .directory) : fs.makeWithParents start above = (.ok (), fs) := by
  cases above with
  | nil => rfl
  | cons part above =>
    obtain ⟨loc, hlocate, hkind⟩ := h (by simp)
    have hmake : fs.makeDirectory ⟨start, (part :: above).reverse⟩ = .ok fs := by
      unfold makeDirectory
      rw [hlocate]
      simp only [kind?_eq_directory_iff.mp hkind]
    rw [makeWithParents, hmake]

/-- Making directories makes way to them, also when it fails. -/
lemma makesWay_makeDirectories (fs : FileSystem) (p : Path) :
    MakesWay p fs (fs.makeDirectories p).2 := by
  unfold makeDirectories
  by_cases hnull : p.hasNull
  · rw [if_pos hnull]
    exact .refl p fs
  · rw [if_neg hnull]
    have hway := makesWay_makeWithParents p.start p.parts.reverse fs
    rwa [List.reverse_reverse] at hway

/-- A directory that was made is where its path leads, unless that has no components. -/
lemma locate_of_makeDirectories (h : fs.makeDirectories p = (.ok (), fs')) (hparts : p.parts ≠ []) :
    ∃ loc, fs'.locate p = .ok loc ∧ fs'.kind? loc = some .directory := by
  unfold makeDirectories at h
  by_cases hnull : p.hasNull
  · rw [if_pos hnull] at h
    cases h
  · rw [if_neg hnull] at h
    simpa using locate_of_makeWithParents h (by simpa using hparts)

end FileSystem

end SynthGraph
