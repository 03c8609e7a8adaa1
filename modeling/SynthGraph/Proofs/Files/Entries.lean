import Mathlib.Tactic.Common
import SynthGraph.Files.FileSystem

/-!
# Entries of file systems

What putting an entry changes, and what taking one away; and what a path depends on.  Where a path
leads depends only on the kinds of the entries, not on what the files hold: file systems with the
same kinds are walked alike, and a path that leads somewhere keeps leading there when entries are
added and no kind changes.
-/

namespace SynthGraph

/-- The two kinds of entries. -/
inductive FileKind where
  | file
  | directory
  deriving DecidableEq

/-- The kind of an entry. -/
def FileEntry.kind : FileEntry → FileKind
  | .file _ => .file
  | .directory => .directory

namespace FileSystem

variable {fs fs' fs'' : FileSystem} {l loc : Location} {e : FileEntry} {p : Path}
  {content : List UInt8} {logs : List Location}

/-- The kind of what is at a location. -/
def kind? (fs : FileSystem) (l : Location) : Option FileKind := (fs.entry? l).map FileEntry.kind

/-- The content of the regular file at a location. -/
def content? (fs : FileSystem) (l : Location) : Option (List UInt8) :=
  match fs.entry? l with
  | some (.file content) => some content
  | _ => none

/-- A location has an entry exactly when it has a kind. -/
lemma kind?_eq_none_iff : fs.kind? l = none ↔ fs.entry? l = none := by
  simp [kind?]

/-- The kind of a directory. -/
lemma kind?_eq_directory_iff : fs.kind? l = some .directory ↔ fs.entry? l = some .directory := by
  unfold kind?
  rcases fs.entry? l with _ | _ | _ <;> simp [FileEntry.kind]

/-- A content is that of an entry. -/
lemma content?_eq_some_iff : fs.content? l = some content ↔ fs.entry? l = some (.file content) := by
  unfold content?
  rcases fs.entry? l with _ | _ | _ <;> simp

/-- An entry is known by its kind and its content. -/
lemma entry?_eq_of_kind (hkind : fs'.kind? l = fs.kind? l)
    (hcontent : fs'.content? l = fs.content? l) : fs'.entry? l = fs.entry? l := by
  unfold kind? at hkind
  unfold content? at hcontent
  rcases h : fs.entry? l with _ | _ | _ <;> rcases h' : fs'.entry? l with _ | _ | _ <;>
    simp_all [FileEntry.kind]

/-- The root is a directory. -/
@[simp] lemma entry?_nil (fs : FileSystem) : fs.entry? [] = some .directory := by
  simp [FileSystem.entry?]

/-- Nothing but the root is there without having been put there. -/
lemma ne_nil_of_not_directory (h : fs.entry? l ≠ some .directory) : l ≠ [] := by
  rintro rfl
  exact h (entry?_nil fs)

/-- A regular file is not the root. -/
lemma ne_nil_of_file (h : fs.kind? l = some .file) : l ≠ [] := by
  rintro rfl
  rw [kind?_eq_directory_iff.mpr (entry?_nil fs)] at h
  cases h

/-! ### Putting an entry -/

/-- Putting an entry keeps the working directory. -/
@[simp] lemma here_put (fs : FileSystem) (loc : Location) (e : FileEntry) :
    (fs.put loc e).here = fs.here := by
  unfold put
  split <;> rfl

/-- Putting an entry protects nothing and frees nothing. -/
@[simp] lemma locked_put (fs : FileSystem) (loc : Location) (e : FileEntry) :
    (fs.put loc e).locked = fs.locked := by
  unfold put
  split <;> rfl

/-- The first entry at a location, after those at another one were replaced. -/
lemma find?_replace (entries : List (Location × FileEntry)) (loc l : Location) (e : FileEntry) :
    (entries.map fun old => if old.1 == loc then (loc, e) else old).find? (·.1 == l) =
      if l = loc then (entries.find? (·.1 == loc)).map fun _ => (loc, e)
      else entries.find? (·.1 == l) := by
  induction entries with
  | nil => simp
  | cons old entries ih =>
    rw [List.map_cons, List.find?_cons, ih]
    by_cases hold : old.1 = loc
    · by_cases hl : l = loc
      · simp [hold, hl]
      · have hne : (loc == l) = false := beq_eq_false_iff_ne.mpr fun h => hl h.symm
        simp [hold, hl, hne]
    · have hne : (old.1 == loc) = false := beq_eq_false_iff_ne.mpr hold
      by_cases hl : l = loc
      · simp [hne, hl]
      · simp [hne, hl, List.find?_cons]

/-- Putting an entry changes what is at its location and nothing else. -/
lemma entry?_put (fs : FileSystem) {loc : Location} (hloc : loc ≠ []) (e : FileEntry)
    (l : Location) :
    FileSystem.entry? (fs.put loc e) l = if l = loc then some e else fs.entry? l := by
  by_cases hl : l = []
  · subst hl
    simp [FileSystem.entry?, Ne.symm hloc]
  · unfold entry? put
    rw [if_neg hl, if_neg hl]
    split
    case isTrue hany =>
      rw [find?_replace]
      by_cases hll : l = loc
      · obtain ⟨old, hold, heq⟩ := List.any_eq_true.mp hany
        have hsome : (fs.entries.find? (·.1 == loc)).isSome :=
          List.find?_isSome.mpr ⟨old, hold, heq⟩
        obtain ⟨old, hfound⟩ := Option.isSome_iff_exists.mp hsome
        rw [if_pos hll, if_pos hll, hfound]
        rfl
      · rw [if_neg hll, if_neg hll]
    case isFalse hany =>
      have hnone : fs.entries.find? (·.1 == loc) = none :=
        List.find?_eq_none.mpr fun old hold heq => hany (List.any_eq_true.mpr ⟨old, hold, heq⟩)
      rw [List.find?_append]
      by_cases hll : l = loc
      · subst hll
        simp [hnone]
      · have hne : loc ≠ l := fun h => hll h.symm
        simp [hll, hne]

/-- Putting an entry at the root changes nothing. -/
lemma entry?_put_nil (fs : FileSystem) (e : FileEntry) (l : Location) :
    FileSystem.entry? (fs.put [] e) l = fs.entry? l := by
  by_cases hl : l = []
  · simp [hl]
  · unfold entry? put
    rw [if_neg hl, if_neg hl]
    split
    · rw [find?_replace, if_neg hl]
    · simp [List.find?_append, hl]

/-- Putting a regular file changes the content at its location and no other. -/
lemma content?_put (fs : FileSystem) {loc : Location} (hloc : loc ≠ []) (content : List UInt8)
    (l : Location) :
    FileSystem.content? (fs.put loc (.file content)) l =
      if l = loc then some content else fs.content? l := by
  unfold content?
  rw [entry?_put fs hloc]
  by_cases hl : l = loc
  · rw [if_pos hl, if_pos hl]
  · rw [if_neg hl, if_neg hl]

/-- Taking an entry away changes what is at its location and nothing else. -/
lemma entry?_erase (fs : FileSystem) {loc : Location} (hloc : loc ≠ []) (l : Location) :
    FileSystem.entry? (fs.erase loc) l = if l = loc then none else fs.entry? l := by
  by_cases hl : l = []
  · subst hl
    simp [Ne.symm hloc]
  · unfold entry? erase
    rw [if_neg hl, if_neg hl, List.find?_filter]
    by_cases hll : l = loc
    · subst hll
      simp
    · rw [if_neg hll]
      congr 2
      funext old
      by_cases hold : old.1 = l <;> simp [hold, hll]

/-- Taking an entry away takes its content away and no other. -/
lemma content?_erase (fs : FileSystem) {loc : Location} (hloc : loc ≠ []) (l : Location) :
    FileSystem.content? (fs.erase loc) l = if l = loc then none else fs.content? l := by
  unfold content?
  rw [entry?_erase fs hloc]
  by_cases hl : l = loc
  · rw [if_pos hl, if_pos hl]
  · rw [if_neg hl, if_neg hl]

/-! ### Agreement away from some locations -/

/-- Nothing differs but what is at some locations. -/
structure AgreesOff (logs : List Location) (fs fs' : FileSystem) : Prop where
  here : fs'.here = fs.here
  locked : fs'.locked = fs.locked
  entry : ∀ l ∉ logs, fs'.entry? l = fs.entry? l

/-- A file system agrees with itself. -/
lemma AgreesOff.refl (logs : List Location) (fs : FileSystem) : AgreesOff logs fs fs :=
  ⟨rfl, rfl, fun _ _ => rfl⟩

/-- Agreement goes both ways. -/
lemma AgreesOff.symm (h : AgreesOff logs fs fs') : AgreesOff logs fs' fs :=
  ⟨h.here.symm, h.locked.symm, fun l hl => (h.entry l hl).symm⟩

/-- Agreement passes on. -/
lemma AgreesOff.trans (h : AgreesOff logs fs fs') (h' : AgreesOff logs fs' fs'') :
    AgreesOff logs fs fs'' :=
  ⟨h'.here.trans h.here, h'.locked.trans h.locked,
    fun l hl => (h'.entry l hl).trans (h.entry l hl)⟩

/-- Contents agree where entries do. -/
lemma AgreesOff.content?_eq (h : AgreesOff logs fs fs') (hl : l ∉ logs) :
    fs'.content? l = fs.content? l := by
  unfold content?
  rw [h.entry l hl]

/-- Putting an entry changes nothing but what is at its location. -/
lemma agreesOff_put (fs : FileSystem) (hloc : loc ∈ logs) (e : FileEntry) :
    AgreesOff logs fs (fs.put loc e) := by
  refine ⟨here_put fs loc e, locked_put fs loc e, ?_⟩
  intro l hl
  by_cases hnil : loc = []
  · rw [hnil, entry?_put_nil]
  · have hne : l ≠ loc := fun h => hl (h ▸ hloc)
    rw [entry?_put fs hnil, if_neg hne]

/-- Adding to a file changes nothing but that file. -/
lemma agreesOff_append (fs : FileSystem) (hloc : loc ∈ logs) (content : List UInt8) :
    AgreesOff logs fs (fs.append loc content) := by
  unfold append
  split <;> exact agreesOff_put fs hloc _

/-- A file to which something was added is there, unless it is the root. -/
lemma kind?_append_self (fs : FileSystem) (hloc : loc ≠ []) (content : List UInt8) :
    (fs.append loc content).kind? loc = some .file := by
  unfold append kind?
  split <;> rw [entry?_put fs hloc, if_pos rfl] <;> rfl

/-! ### Growth and equal kinds -/

/-- Every entry keeps its kind, and entries may be added. -/
structure Grows (fs fs' : FileSystem) : Prop where
  here : fs'.here = fs.here
  locked : fs'.locked = fs.locked
  kind : ∀ l k, fs.kind? l = some k → fs'.kind? l = some k

/-- A file system grows into itself. -/
lemma Grows.refl (fs : FileSystem) : Grows fs fs := ⟨rfl, rfl, fun _ _ h => h⟩

/-- Growth passes on. -/
lemma Grows.trans (h : Grows fs fs') (h' : Grows fs' fs'') : Grows fs fs'' :=
  ⟨h'.here.trans h.here, h'.locked.trans h.locked, fun l k hk => h'.kind l k (h.kind l k hk)⟩

/-- The same locations have entries, and of the same kinds. -/
structure SameKinds (fs fs' : FileSystem) : Prop where
  here : fs'.here = fs.here
  locked : fs'.locked = fs.locked
  kind : ∀ l, fs'.kind? l = fs.kind? l

/-- A file system has its own kinds. -/
lemma SameKinds.refl (fs : FileSystem) : SameKinds fs fs := ⟨rfl, rfl, fun _ => rfl⟩

/-- Equal kinds pass on. -/
lemma SameKinds.trans (h : SameKinds fs fs') (h' : SameKinds fs' fs'') : SameKinds fs fs'' :=
  ⟨h'.here.trans h.here, h'.locked.trans h.locked, fun l => (h'.kind l).trans (h.kind l)⟩

/-- No kind changes when all are the same. -/
lemma SameKinds.grows (h : SameKinds fs fs') : Grows fs fs' :=
  ⟨h.here, h.locked, fun l _ hk => (h.kind l).trans hk⟩

/-- Putting an entry where nothing is, or in the place of one of its kind, changes no kind. -/
lemma grows_put (hloc : loc ≠ []) (h : ∀ k, fs.kind? loc = some k → k = e.kind) :
    Grows fs (fs.put loc e) := by
  refine ⟨here_put fs loc e, locked_put fs loc e, ?_⟩
  intro l _ hk
  unfold kind?
  rw [entry?_put fs hloc]
  by_cases hl : l = loc
  · subst hl
    rw [if_pos rfl, h _ hk]
    rfl
  · rwa [if_neg hl]

/-- Putting an entry in the place of one of its kind keeps all kinds. -/
lemma sameKinds_put (hloc : loc ≠ []) (h : fs.kind? loc = some e.kind) :
    SameKinds fs (fs.put loc e) := by
  refine ⟨here_put fs loc e, locked_put fs loc e, ?_⟩
  intro l
  by_cases hl : l = loc
  · subst hl
    rw [h]
    unfold kind?
    rw [entry?_put fs hloc, if_pos rfl]
    rfl
  · unfold kind?
    rw [entry?_put fs hloc, if_neg hl]

/-! ### Log files -/

/-- A location where text can be added without changing any kind: a file, or the root, which takes
no text. -/
def IsLog (fs : FileSystem) (loc : Location) : Prop := loc = [] ∨ fs.kind? loc = some .file

/-- A log file is one where the kinds are the same. -/
lemma IsLog.of_sameKinds (h : fs.IsLog loc) (hkinds : SameKinds fs fs') : fs'.IsLog loc :=
  h.imp_right fun hkind => (hkinds.kind loc).trans hkind

/-- Adding to any file makes a log file of its location. -/
lemma isLog_append_self (fs : FileSystem) (loc : Location) (content : List UInt8) :
    (fs.append loc content).IsLog loc := by
  by_cases hnil : loc = []
  · exact .inl hnil
  · exact .inr (kind?_append_self fs hnil content)

/-- Log files stay log files when something is added to any file. -/
lemma IsLog.append (h : fs.IsLog l) (loc : Location) (content : List UInt8) :
    (fs.append loc content).IsLog l := by
  by_cases hl : l = loc
  · subst hl
    exact isLog_append_self fs l content
  · refine h.imp_right fun hkind => ?_
    have hentry := (agreesOff_append fs (List.mem_singleton_self loc) content).entry l (by simpa)
    unfold kind? at hkind ⊢
    rwa [hentry]

/-- Adding to a log file keeps all kinds. -/
lemma sameKinds_append (h : fs.IsLog loc) (content : List UInt8) :
    SameKinds fs (fs.append loc content) := by
  by_cases hnil : loc = []
  · subst hnil
    have hoff := agreesOff_append fs (List.mem_singleton_self ([] : Location)) content
    refine ⟨hoff.here, hoff.locked, ?_⟩
    intro l
    simp only [append, entry?_nil, kind?, entry?_put_nil]
  · have hfile := h.resolve_left hnil
    unfold append
    split <;> exact sameKinds_put hnil hfile

/-- Adding to log files changes nothing else. -/
lemma agreesOff_foldl_append (fs : FileSystem) {locs : List Location}
    (hlocs : ∀ loc ∈ locs, loc ∈ logs) (content : List UInt8) :
    AgreesOff logs fs (locs.foldl (fun fs loc => fs.append loc content) fs) := by
  induction locs generalizing fs with
  | nil => exact .refl logs fs
  | cons loc locs ih =>
    have hhead := agreesOff_append fs (hlocs loc List.mem_cons_self) content
    exact hhead.trans (ih _ fun l hl => hlocs l (List.mem_cons_of_mem _ hl))

/-- Adding to log files keeps all kinds. -/
lemma sameKinds_foldl_append {fs : FileSystem} {locs : List Location}
    (hlocs : ∀ loc ∈ locs, fs.IsLog loc) (content : List UInt8) :
    SameKinds fs (locs.foldl (fun fs loc => fs.append loc content) fs) := by
  induction locs generalizing fs with
  | nil => exact .refl fs
  | cons loc locs ih =>
    have hhead := sameKinds_append (hlocs loc List.mem_cons_self) content
    exact hhead.trans (ih fun l hl => (hlocs l (List.mem_cons_of_mem _ hl)).of_sameKinds hhead)

/-- What text was added to is a log file. -/
lemma isLog_foldl_append (fs : FileSystem) {locs : List Location}
    (h : l ∈ locs ∨ fs.IsLog l) (content : List UInt8) :
    (locs.foldl (fun fs loc => fs.append loc content) fs).IsLog l := by
  induction locs generalizing fs with
  | nil => exact h.resolve_left List.not_mem_nil
  | cons loc locs ih =>
    refine ih (fs.append loc content) ?_
    rcases h with hmem | hlog
    · rcases List.mem_cons.mp hmem with rfl | hmem
      · exact .inr (isLog_append_self fs l content)
      · exact .inl hmem
    · exact .inr (hlog.append loc content)

/-! ### Walking -/

/-- A step depends on the kind of the entry from which it starts. -/
lemma step_eq_of_kind (fs : FileSystem) (l : Location) (part : String) :
    fs.step l part =
      match fs.kind? l with
      | none => .error .missing
      | some .file => .error .notDirectory
      | some .directory =>
        if part = ".." then .ok l.dropLast
        else if nameLimit < part.utf8ByteSize then .error .nameTooLong
        else .ok (l ++ [part]) := by
  unfold step kind?
  rcases fs.entry? l with _ | _ | _ <;> rfl

/-- A step that does not lead up leads to the name below. -/
lemma eq_append_of_step {part : String} {next : Location} (h : fs.step l part = .ok next)
    (hup : part ≠ "..") : next = l ++ [part] := by
  unfold step at h
  rw [if_neg hup] at h
  split at h
  · cases h
  · cases h
  · split at h
    · cases h
    · exact (Except.ok.inj h).symm

/-- A walk is made of the walks along its parts. -/
lemma walk_append (fs : FileSystem) (xs ys : List String) (l : Location) :
    fs.walk l (xs ++ ys) = fs.walk l xs >>= fun next => fs.walk next ys := by
  induction xs generalizing l with
  | nil => rfl
  | cons part xs ih =>
    rw [List.cons_append, walk, walk]
    rcases fs.step l part with dead | next
    · rfl
    · exact ih next

/-- File systems with the same kinds are walked alike. -/
lemma SameKinds.walk_eq (h : SameKinds fs fs') (parts : List String) (l : Location) :
    fs'.walk l parts = fs.walk l parts := by
  induction parts generalizing l with
  | nil => rfl
  | cons part parts ih =>
    have hstep : fs'.step l part = fs.step l part := by
      rw [step_eq_of_kind, step_eq_of_kind, h.kind l]
    rw [walk, walk, hstep]
    rcases fs.step l part with dead | next
    · rfl
    · exact ih next

/-- A path starts where it did when the working directory is the same. -/
lemma startOf_eq (h : fs'.here = fs.here) (start : PathStart) :
    fs'.startOf start = fs.startOf start := by
  cases start with
  | here => exact h
  | root => rfl
  | doubleRoot => rfl

/-- A path leads to the same place in file systems with the same kinds. -/
lemma SameKinds.locate_eq (h : SameKinds fs fs') (p : Path) : fs'.locate p = fs.locate p := by
  unfold locate
  rw [startOf_eq h.here, h.walk_eq]

/-- A step that leads somewhere keeps leading there. -/
lemma Grows.step_ok (h : Grows fs fs') {part : String} {next : Location}
    (hstep : fs.step l part = .ok next) : fs'.step l part = .ok next := by
  rw [step_eq_of_kind] at hstep ⊢
  rcases hkind : fs.kind? l with _ | _ | _ <;> rw [hkind] at hstep
  · cases hstep
  · cases hstep
  · rwa [h.kind l _ hkind]

/-- A walk that leads somewhere keeps leading there. -/
lemma Grows.walk_ok (h : Grows fs fs') {parts : List String} (hwalk : fs.walk l parts = .ok loc) :
    fs'.walk l parts = .ok loc := by
  induction parts generalizing l with
  | nil => exact hwalk
  | cons part parts ih =>
    rw [walk] at hwalk ⊢
    rcases hstep : fs.step l part with dead | next <;> rw [hstep] at hwalk
    · cases hwalk
    · rw [h.step_ok hstep]
      exact ih hwalk

/-- A path that leads somewhere keeps leading there. -/
lemma Grows.locate_ok (h : Grows fs fs') (hp : fs.locate p = .ok loc) : fs'.locate p = .ok loc := by
  unfold locate at hp ⊢
  split at hp
  case isTrue => cases hp
  case isFalse hlimit =>
    rw [if_neg hlimit, startOf_eq h.here]
    exact h.walk_ok hp

/-- A path whose last component is a name leads to that name. -/
lemma getLast?_of_locate {part : String} (hp : fs.locate p = .ok loc)
    (hlast : p.parts.getLast? = some part) (hup : part ≠ "..") : loc.getLast? = some part := by
  obtain ⟨parts, hparts⟩ := List.getLast?_eq_some_iff.mp hlast
  unfold locate at hp
  rw [hparts, walk_append] at hp
  split at hp
  case isTrue => cases hp
  case isFalse =>
    rcases hwalk : fs.walk (fs.startOf p.start) parts with dead | above <;> rw [hwalk] at hp
    · cases hp
    · change fs.walk above [part] = .ok loc at hp
      rw [walk] at hp
      rcases hstep : fs.step above part with dead | next <;> rw [hstep] at hp
      · cases hp
      · cases hp
        rw [eq_append_of_step hstep hup, List.getLast?_concat]

end FileSystem

end SynthGraph
