import SynthGraph.Output
import SynthGraph.Proofs.Session.LogFile

/-!
# Definition files and log files are apart

The path of a definition file ends in the suffix of definition files, whatever the name of the
definition: slashes and dots in it only lead to other directories.  The log file has a name of its
own, without that suffix, so that no definition is ever written to it.
-/

namespace SynthGraph

/-! ### Last components -/

/-- A text after which nothing is divided ends the last piece. -/
lemma getLast?_pieces_append {divides : Char → Bool} {ending : List Char}
    (h : ∀ c ∈ ending, divides c = false) (cs : List Char) :
    ∃ piece, (pieces divides (cs ++ ending)).getLast? = some (piece ++ ending) := by
  induction cs with
  | nil => exact ⟨[], by rw [List.nil_append, pieces_eq_singleton h]; rfl⟩
  | cons c cs ih =>
    obtain ⟨piece, hlast⟩ := ih
    rw [List.cons_append, pieces]
    rcases hpieces : pieces divides (cs ++ ending) with _ | ⟨first, rest⟩
    · exact absurd hpieces (pieces_ne_nil divides _)
    · rw [hpieces] at hlast
      by_cases hc : divides c
      · exact ⟨piece, by rw [if_pos hc, List.getLast?_cons_cons, hlast]⟩
      · rw [if_neg hc]
        rcases rest with _ | ⟨next, rest⟩
        · have hfirst : first = piece ++ ending := by simpa using hlast
          exact ⟨c :: piece, by rw [hfirst]; rfl⟩
        · exact ⟨piece, by rw [List.getLast?_cons_cons] at hlast ⊢; exact hlast⟩

/-- The last element stays the last one when it passes a filter. -/
lemma getLast?_filter_of_getLast? {α : Type} {p : α → Bool} {xs : List α} {x : α}
    (h : xs.getLast? = some x) (hx : p x) : (xs.filter p).getLast? = some x := by
  obtain ⟨init, rfl⟩ := List.getLast?_eq_some_iff.mp h
  rw [List.filter_append, List.filter_cons_of_pos hx, List.filter_nil, List.getLast?_concat]

namespace Path

/-- A path below another one ends as it does itself. -/
lemma getLast?_join {p q : Path} {part : String} (h : q.parts.getLast? = some part) :
    (p.join q).parts.getLast? = some part := by
  unfold join
  split
  · rw [List.getLast?_append, h]
    rfl
  · exact h

/-- A name that ends in a text without slashes, which is more than dots, leads to a component that
ends in that text. -/
lemma getLast?_child (ending : String) (hslash : '/' ∉ ending.toList)
    (hlong : 1 < ending.toList.length) (p : Path) (name : String) :
    ∃ part, (p.child (name ++ ending)).parts.getLast? = some part ∧
      ending.toList <:+ part.toList := by
  have hone : ∀ c ∈ ending.toList, (c == '/') = false := fun c hc =>
    beq_eq_false_iff_ne.mpr fun h => hslash (h ▸ hc)
  obtain ⟨piece, hlast⟩ := getLast?_pieces_append hone name.toList
  have hlength : 1 < (piece ++ ending.toList).length := by
    rw [List.length_append]
    omega
  have hstep : isStep (String.ofList (piece ++ ending.toList)) = true := by
    unfold isStep
    rw [Bool.and_eq_true, bne_iff_ne, bne_iff_ne]
    constructor <;> intro h <;>
      rw [← String.toList_ofList (l := piece ++ ending.toList), h] at hlength
    · exact absurd hlength (by decide)
    · exact absurd hlength (by decide)
  refine ⟨String.ofList (piece ++ ending.toList), getLast?_join ?_, by simp⟩
  refine getLast?_filter_of_getLast? ?_ hstep
  rw [List.getLast?_map, String.toList_append, hlast]
  rfl

/-- Steps before a last one that does not lead up leave that one at the end. -/
lemma getLast?_resolved {part : String} (hup : part ≠ "..") (above init : List String) :
    (resolved above (init ++ [part])).getLast? = some part := by
  induction init generalizing above with
  | nil =>
    rw [List.nil_append, resolved, if_neg hup, resolved, List.getLast?_concat]
  | cons first init ih =>
    rw [List.cons_append, resolved]
    exact ih _

/-- The path from the root ends as the path does, unless that leads up at its end. -/
lemma getLast?_absolute {p : Path} {part : String} (h : p.parts.getLast? = some part)
    (hup : part ≠ "..") (here : List String) :
    (p.absolute here).parts.getLast? = some part := by
  obtain ⟨init, hinit⟩ := List.getLast?_eq_some_iff.mp h
  unfold absolute
  rw [hinit]
  split <;> exact getLast?_resolved hup _ init

end Path

/-! ### Definition files -/

/-- No log file has a name with the suffix of definition files. -/
def Session.LogsApart (s : Session) : Prop :=
  ∀ loc ∈ s.logFiles, ∀ name ∈ loc.getLast?, ¬DefinitionFile.suffix.toList <:+ name.toList

/-- The path of a definition file leads to a location whose name has the suffix. -/
lemma Output.suffix_of_locate_target {fs : FileSystem} {outDir : Path} {name : String}
    {loc : Location} (h : fs.locate (target outDir name) = .ok loc) :
    ∃ part, loc.getLast? = some part ∧ DefinitionFile.suffix.toList <:+ part.toList := by
  obtain ⟨part, hlast, hsuffix⟩ :=
    Path.getLast?_child DefinitionFile.suffix (by decide) (by decide) outDir name
  refine ⟨part, FileSystem.getLast?_of_locate h hlast ?_, hsuffix⟩
  rintro rfl
  exact absurd hsuffix.length_le (by decide)

/-- No definition is written to a log file. -/
lemma Session.LogsApart.notMem_of_locate_target {s : Session} (hlogs : s.LogsApart)
    {fs : FileSystem} {outDir : Path} {name : String} {loc : Location}
    (h : fs.locate (Output.target outDir name) = .ok loc) : loc ∉ s.logFiles := by
  intro hloc
  obtain ⟨part, hlast, hsuffix⟩ := Output.suffix_of_locate_target h
  exact hlogs loc hloc part hlast hsuffix

/-! ### The log file -/

/-- A session that starts has no log files. -/
lemma Session.logsApart_start (environment : Environment) (clock : Clock) (files : FileSystem) :
    (Session.start environment clock files).LogsApart := by
  intro loc hloc
  cases hloc

/-- A session with other handlers for its console has no other log files. -/
lemma Session.LogsApart.mono {s t : Session} (hlogs : s.LogsApart)
    (hsub : t.logFiles ⊆ s.logFiles) : t.LogsApart :=
  fun loc hloc => hlogs loc (hsub hloc)

/-- Setting logging up keeps definition files and log files apart. -/
theorem Session.LogsApart.configure {s : Session} (hlogs : s.LogsApart) (force : Bool) :
    ((LogFile.configure force).apply s).2.LogsApart := by
  rcases hdone : s.configured && !force with _ | _
  · rw [LogFile.apply_configure hdone]
    have hopens := LogFile.opens_openLog (fun path => path.absolute s.files.here)
      (LogFile.attached force s)
    have hattached := hlogs.mono (LogFile.logFiles_attached_subset force s)
    rcases hrun : (LogFile.openLog fun path => path.absolute s.files.here).apply
        (LogFile.attached force s) with ⟨f | loc, s'⟩ <;> rw [hrun] at hopens <;>
      obtain ⟨fs, rfl⟩ := hopens.withFiles
    · dsimp only
      split
      · refine hattached.mono fun loc hloc => ?_
        exact (logFiles_log { LogFile.attached force s with files := fs } _) ▸ hloc
      · exact hattached
    · intro loc' hloc'
      unfold logFiles at hloc'
      rw [List.filterMap_append, List.mem_append] at hloc'
      rcases hloc' with hold | hnew
      · exact hattached loc' hold
      · obtain rfl : loc' = loc := List.mem_singleton.mp hnew
        obtain ⟨dir, -, fs', -, hlocate⟩ := hopens.exists_locate
        have hname : (LogFile.pathIn dir).parts.getLast? = some "synthforge.log" :=
          List.getLast?_concat
        have hlast := Path.getLast?_absolute hname (by decide) s.files.here
        rw [FileSystem.getLast?_of_locate hlocate hlast (by decide)]
        rintro _ ⟨⟩
        decide
  · obtain ⟨hconfigured, hforce⟩ := Bool.and_eq_true_iff.mp hdone
    obtain rfl : force = false := by simpa using hforce
    rw [LogFile.apply_configure_of_configured hconfigured]
    exact hlogs

end SynthGraph
