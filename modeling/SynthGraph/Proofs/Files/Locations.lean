import SynthGraph.Proofs.Files.Storing

/-!
# Where paths lead

There are no links, so that a path leads, if it leads anywhere, to the location that its components
spell, where two dots take back the component before them.  Components that take back no more than
they have added stay below where they start.
-/

namespace SynthGraph

namespace Path

/-- Components are resolved one list after another. -/
lemma resolved_append (above xs ys : List String) :
    resolved above (xs ++ ys) = resolved (resolved above xs) ys := by
  induction xs generalizing above with
  | nil => rfl
  | cons part xs ih =>
    rw [List.cons_append, resolved, resolved]
    exact ih _

/-- Components never lead above where they start, from a depth below it on. -/
def staysBelow : (depth : Nat) → List String → Bool
  | _, [] => true
  | depth, part :: parts =>
    if part = ".." then 0 < depth && staysBelow (depth - 1) parts else staysBelow (depth + 1) parts

/-- The first ones of components that stay below do so as well. -/
lemma staysBelow_of_append {depth : Nat} {xs ys : List String}
    (h : staysBelow depth (xs ++ ys) = true) : staysBelow depth xs = true := by
  induction xs generalizing depth with
  | nil => rfl
  | cons part xs ih =>
    rw [List.cons_append, staysBelow] at h
    rw [staysBelow]
    by_cases hup : part = ".."
    · rw [if_pos hup, Bool.and_eq_true] at h ⊢
      exact ⟨h.1, ih h.2⟩
    · rw [if_neg hup] at h ⊢
      exact ih h

/-- Components that stay below lead below.  The induction keeps what was added so far apart from the
location where they start. -/
lemma prefix_resolved {base below parts : List String}
    (h : staysBelow below.length parts = true) : base <+: resolved (base ++ below) parts := by
  induction parts generalizing below with
  | nil => exact List.prefix_append base below
  | cons part parts ih =>
    rw [staysBelow] at h
    rw [resolved]
    by_cases hup : part = ".."
    · rw [if_pos hup, Bool.and_eq_true] at h
      rw [if_pos hup]
      rcases List.eq_nil_or_concat below with rfl | ⟨init, last, rfl⟩
      · cases h.1
      · rw [List.concat_eq_append, List.length_append] at h
        rw [List.concat_eq_append, ← List.append_assoc, List.dropLast_concat]
        exact ih h.2
    · rw [if_neg hup] at h ⊢
      rw [List.append_assoc]
      exact ih (by rwa [List.length_append])

end Path

namespace FileSystem

variable {fs fs' : FileSystem} {l loc : Location} {p : Path} {logs : List Location}
  {paths : List Path} {writes : List (Location × List UInt8)}

/-- The location that a path spells. -/
def location (fs : FileSystem) (p : Path) : Location :=
  Path.resolved (fs.startOf p.start) p.parts

/-- A path spells the same location from the same working directory. -/
lemma location_eq (h : fs'.here = fs.here) (p : Path) : fs'.location p = fs.location p := by
  rw [location, startOf_eq h, location]

/-- A walk that leads somewhere leads where its components say. -/
lemma eq_resolved_of_walk {parts : List String} (h : fs.walk l parts = .ok loc) :
    loc = Path.resolved l parts := by
  induction parts generalizing l with
  | nil => exact (Except.ok.inj h).symm
  | cons part parts ih =>
    rw [walk] at h
    rcases hstep : fs.step l part with dead | next <;> simp only [hstep] at h
    · cases h
    · have hnext : next = if part = ".." then l.dropLast else l ++ [part] := by
        by_cases hup : part = ".."
        · rw [step_eq_of_kind] at hstep
          split at hstep
          · cases hstep
          · cases hstep
          · rw [if_pos hup] at hstep ⊢
            exact (Except.ok.inj hstep).symm
        · rw [if_neg hup]
          exact eq_append_of_step hstep hup
      rw [Path.resolved, ← hnext]
      exact ih h

/-- A path that leads somewhere leads to the location that it spells. -/
lemma eq_location_of_locate (h : fs.locate p = .ok loc) : loc = fs.location p := by
  unfold locate at h
  split at h
  · cases h
  · exact eq_resolved_of_walk h

/-- What is on the way to a path is spelled by its first components. -/
lemma OnWay.exists_location (h : fs.OnWay p l) :
    ∃ parts, parts <+: p.parts ∧ l = fs.location ⟨p.start, parts⟩ := by
  obtain ⟨parts, hparts, hlocate⟩ := h
  exact ⟨parts, hparts, eq_location_of_locate hlocate⟩

/-- What changes was written to, or is a new directory on the way. -/
lemma Leaves.changed (h : Leaves logs paths writes fs fs') (hl : l ∉ logs)
    (hchanged : fs'.entry? l ≠ fs.entry? l) :
    (∃ write ∈ writes, write.1 = l) ∨
      fs.entry? l = none ∧ fs'.entry? l = some .directory ∧
        ∃ p ∈ paths, fs'.OnWay p.parent l := by
  by_cases hwritten : ∃ write ∈ writes, write.1 = l
  · exact .inl hwritten
  · refine .inr ?_
    have hcontent : fs'.content? l = fs.content? l := by
      rw [h.content l hl]
      exact contentAfter_of_notMem (fun write hw hloc => hwritten ⟨write, hw, hloc⟩) _
    have hold : fs.entry? l ≠ some .directory := fun hdir =>
      hchanged ((h.kept l hl hdir).trans hdir.symm)
    by_cases hdir : fs'.entry? l = some .directory
    · obtain ⟨hnone, hway⟩ := (h.made l hl hdir).resolve_left hold
      exact ⟨hnone, hdir, hway⟩
    · refine (hchanged ?_).elim
      unfold content? at hcontent
      rcases hbefore : fs.entry? l with _ | _ | _ <;>
        rcases hafter : fs'.entry? l with _ | _ | _ <;> simp_all

end FileSystem

end SynthGraph
