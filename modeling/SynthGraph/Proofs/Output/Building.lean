import SynthGraph.Output
import SynthGraph.Proofs.Generator.Acceptance
import SynthGraph.Proofs.Session.Logging

/-!
# Building in a run

Building generators in a run gives what building them one by one gives, and does nothing to the
session but write records.  Something is recorded for every generator that is tried.
-/

namespace SynthGraph

/-- Every element of a list has a result exactly when the list of the results is one. -/
lemma mapM_eq_ok_iff {α β ε : Type} {f : α → Except ε β} {xs : List α} {ys : List β} :
    xs.mapM f = .ok ys ↔ List.Forall₂ (fun x y => f x = .ok y) xs ys := by
  induction xs generalizing ys with
  | nil =>
    rw [List.mapM_nil, List.forall₂_nil_left_iff]
    constructor
    · exact fun h => (Except.ok.inj h).symm
    · rintro rfl
      rfl
  | cons x xs ih =>
    rw [List.mapM_cons, List.forall₂_cons_left_iff, bind_eq_ok]
    constructor
    · rintro ⟨y, hy, hrest⟩
      obtain ⟨ys', hys, hpure⟩ := bind_eq_ok.mp hrest
      exact ⟨y, ys', hy, ih.mp hys, (Except.ok.inj hpure).symm⟩
    · rintro ⟨y, ys', hy, hys, rfl⟩
      exact ⟨y, hy, bind_eq_ok.mpr ⟨ys', ih.mpr hys, rfl⟩⟩

/-- The list of the results is missing when one of them is. -/
lemma mapM_eq_error {α β ε : Type} {f : α → Except ε β} {xs : List α}
    (h : ∃ x ∈ xs, ∃ e, f x = .error e) : ∃ e, xs.mapM f = .error e := by
  obtain ⟨x, hx, e, he⟩ := h
  induction xs with
  | nil => cases hx
  | cons x' xs ih =>
    rw [List.mapM_cons]
    rcases List.mem_cons.mp hx with rfl | hx
    · exact ⟨e, by rw [he]; rfl⟩
    · obtain ⟨e', he'⟩ := ih hx
      rcases f x' with e'' | y
      · exact ⟨e'', rfl⟩
      · exact ⟨e', by rw [he']; rfl⟩

namespace Output

open Session

variable {g : GeneratorSpec} {gs : List GeneratorSpec} {s s' : Session}

/-- The outcome of a stage, with the definition after it. -/
lemma stage_eq {α : Type} (d : Definition) (e : Edit α) :
    stage d e = (e.apply d).1.map fun a => (a, (e.apply d).2) := by
  unfold stage
  rcases e.apply d with ⟨_ | _, _⟩ <;> rfl

/-- Building a generator in a run writes records and gives its definition or its fault. -/
lemma apply_buildOne (g : GeneratorSpec) (s : Session) :
    ∃ rs, (buildOne g).apply s = (g.build.mapError .fault, s.logAll rs) ∧
      (rs = [] → ∀ d, g.build ≠ .ok d) := by
  unfold buildOne
  rcases hnew : Definition.new g.name with e | d
  · have hbuild : g.build = .error e := by
      rw [GeneratorSpec.build, hnew]
      rfl
    exact ⟨[], by rw [hbuild]; rfl, fun _ d h => by rw [hbuild] at h; cases h⟩
  · rw [GeneratorSpec.build_of_new hnew]
    unfold Template.graph
    simp only [Run.apply_bind, Run.apply_ofFault, Edit.apply_bind, stage_eq, Except.mapError]
    rcases (Template.declarations g).apply d with ⟨e | c, d₁⟩
    · exact ⟨[], rfl, fun _ _ h => by cases h⟩
    · dsimp only [Except.map]
      rcases Edit.controls.apply d₁ with ⟨e | emitted, d₂⟩
      · exact ⟨[], rfl, fun _ _ h => by cases h⟩
      · dsimp only
        rcases (Template.wiring g c).apply d₂ with ⟨e | index, d₃⟩
        · exact ⟨[_], rfl, fun h => by cases h⟩
        · exact ⟨[_, _], rfl, fun h => by cases h⟩

/-- A step whose failure is recorded. -/
lemma apply_recordingFailure {α : Type} (what : String) (r : Run α) (s : Session) :
    (recordingFailure what r).apply s =
      match r.apply s with
      | (.ok a, s') => (.ok a, s')
      | (.error e, s') => (.error e, s'.log ⟨.error, .output, what ++ ": " ++ e.message⟩) := by
  have hunfold : (recordingFailure what r).apply s = recordingFailure what r s := rfl
  have hrun : r.apply s = r s := rfl
  rw [hunfold, hrun]
  unfold recordingFailure
  rcases r s with ⟨_ | _, _⟩ <;> rfl

/-- Building generators in a run writes records, at least one when there are generators, and gives
their definitions or the fault of the first one that has one. -/
lemma apply_buildList (gs : List GeneratorSpec) (s : Session) :
    ∃ rs, (buildList gs).apply s =
        ((gs.mapM GeneratorSpec.build).mapError .fault, s.logAll rs) ∧ (gs ≠ [] → rs ≠ []) := by
  induction gs generalizing s with
  | nil => exact ⟨[], rfl, fun h => absurd rfl h⟩
  | cons g gs ih =>
    obtain ⟨rs, hone, hrecords⟩ := apply_buildOne g s
    unfold buildList
    rw [Run.apply_bind, apply_recordingFailure, hone, List.mapM_cons]
    rcases hbuild : g.build with e | d
    · refine ⟨rs ++ [⟨.error, .output, "Failed to build " ++ g.name ++ ": " ++ e.message⟩],
        ?_, fun _ => by simp⟩
      rw [logAll_append]
      rfl
    · have hne : rs ≠ [] := fun h => hrecords h d hbuild
      obtain ⟨more, hrest, -⟩ := ih (s.logAll rs)
      refine ⟨rs ++ more, ?_, fun _ => by simp [hne]⟩
      dsimp only [Except.mapError]
      rw [Run.apply_bind, hrest, logAll_append]
      rcases gs.mapM GeneratorSpec.build with e | ds <;> rfl

end Output

end SynthGraph
