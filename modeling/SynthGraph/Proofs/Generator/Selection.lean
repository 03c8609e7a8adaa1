import SynthGraph.Settings
import SynthGraph.Proofs.Graph.ParameterTable
import SynthGraph.Proofs.Schema.Accepts
import SynthGraph.Proofs.Session.Logging

/-!
# Files of generators and requests for some of them

A file of generators is loaded as it stands, unless a name stands in it twice.  A request is
answered with all generators, with one generator for each requested name in the order of the
request, or with a failure that lists the requested names that no generator has.  Settings that name
a file answer requests from the file alone.
-/

namespace SynthGraph

variable {gs available chosen : List GeneratorSpec} {names seen : List String} {name : String}

namespace Collection

/-! ### Repeated names -/

/-- No name is found a second time when the names are distinct and none was seen before. -/
lemma repeated?_eq_none_iff :
    repeated? seen gs = none ↔
      (gs.map GeneratorSpec.name).Nodup ∧ ∀ g ∈ gs, g.name ∉ seen := by
  induction gs generalizing seen with
  | nil => simp [repeated?]
  | cons g gs ih =>
    rw [repeated?, List.map_cons, List.nodup_cons, List.forall_mem_cons]
    by_cases hseen : g.name ∈ seen
    · simp [hseen]
    · rw [if_neg (by simpa using hseen), ih]
      have hlater : (∀ g' ∈ gs, g'.name ∉ g.name :: seen) ↔
          g.name ∉ gs.map GeneratorSpec.name ∧ ∀ g' ∈ gs, g'.name ∉ seen := by
        simp only [List.mem_cons, not_or, List.mem_map, not_exists, not_and]
        exact ⟨fun h => ⟨fun g' hg' => (h g' hg').1, fun g' hg' => (h g' hg').2⟩,
          fun h g' hg' => ⟨h.1 g' hg', h.2 g' hg'⟩⟩
      rw [hlater]
      tauto

/-- The name that is found a second time is that of the first generator whose name was seen before
or is that of an earlier one. -/
lemma exists_split_of_repeated? (h : repeated? seen gs = some name) :
    ∃ before g after, gs = before ++ g :: after ∧ g.name = name ∧
      (before.map GeneratorSpec.name).Nodup ∧ (∀ g' ∈ before, g'.name ∉ seen) ∧
      (g.name ∈ seen ∨ g.name ∈ before.map GeneratorSpec.name) := by
  induction gs generalizing seen with
  | nil => cases h
  | cons g gs ih =>
    rw [repeated?] at h
    by_cases hseen : g.name ∈ seen
    · rw [if_pos (by simpa using hseen)] at h
      exact ⟨[], g, gs, rfl, Option.some.inj h, List.nodup_nil, by simp, .inl hseen⟩
    · rw [if_neg (by simpa using hseen)] at h
      obtain ⟨before, g', after, rfl, hname, hnodup, hnew, hg'⟩ := ih h
      have hfirst : g.name ∉ before.map GeneratorSpec.name := by
        rw [List.mem_map]
        rintro ⟨g'', hg'', heq⟩
        exact hnew g'' hg'' (heq ▸ List.mem_cons_self)
      refine ⟨g :: before, g', after, rfl, hname, List.nodup_cons.mpr ⟨hfirst, hnodup⟩, ?_, ?_⟩
      · exact List.forall_mem_cons.mpr
          ⟨hseen, fun g'' hg'' hmem => hnew g'' hg'' (List.mem_cons_of_mem _ hmem)⟩
      · rw [List.map_cons, List.mem_cons]
        rcases hg' with hmem | hmem
        · exact (List.mem_cons.mp hmem).elim (fun heq => .inr (.inl heq)) .inl
        · exact .inr (.inr hmem)

/-- Two generators of a list have the same name. -/
def Repeats (gs : List GeneratorSpec) : Prop :=
  ∃ i j : Nat, ∃ g g' : GeneratorSpec,
    i < j ∧ gs[i]? = some g ∧ gs[j]? = some g' ∧ g.name = g'.name

/-- Names are distinct when no two generators have the same. -/
lemma nodup_map_name_iff : (gs.map GeneratorSpec.name).Nodup ↔ ¬Repeats gs := by
  rw [List.Nodup, List.pairwise_iff_getElem]
  constructor
  · rintro h ⟨i, j, g, g', hij, hg, hg', hname⟩
    obtain ⟨hi, rfl⟩ := List.getElem?_eq_some_iff.mp hg
    obtain ⟨hj, rfl⟩ := List.getElem?_eq_some_iff.mp hg'
    refine h i j (by simpa using hi) (by simpa using hj) hij ?_
    simpa using hname
  · intro h i j hi hj hij hname
    rw [List.length_map] at hi hj
    refine h ⟨i, j, gs[i], gs[j], hij, List.getElem?_eq_getElem hi, List.getElem?_eq_getElem hj, ?_⟩
    simpa using hname

/-! ### Choosing by name -/

/-- Nothing is found under a name that no generator has. -/
lemma find?_eq_none_iff :
    find? available name = none ↔ name ∉ available.map GeneratorSpec.name := by
  simp [find?, List.find?_eq_none]

/-- A generator that is found under a name has this name. -/
lemma mem_of_find? {g : GeneratorSpec} (h : find? available name = some g) :
    g ∈ available ∧ g.name = name :=
  ⟨List.mem_of_find?_eq_some h, by simpa using List.find?_some h⟩

/-- The missing names are the requested ones that no generator has. -/
lemma missing_eq_filter (available : List GeneratorSpec) (names : List String) :
    missing available names =
      names.filter fun name => name ∉ available.map GeneratorSpec.name := by
  refine List.filter_congr fun name _ => ?_
  rw [Bool.eq_iff_iff, Option.isNone_iff_eq_none, find?_eq_none_iff, decide_eq_true_iff]

/-- When all names are found, there is one generator for each of them. -/
lemma forall₂_filterMap_find? (h : ∀ name ∈ names, name ∈ available.map GeneratorSpec.name) :
    List.Forall₂ (fun name g => g ∈ available ∧ g.name = name) names
      (names.filterMap (find? available)) := by
  induction names with
  | nil => exact .nil
  | cons name names ih =>
    rw [List.forall_mem_cons] at h
    obtain ⟨g, hg⟩ := Option.ne_none_iff_exists'.mp (mt find?_eq_none_iff.mp (not_not.mpr h.1))
    rw [List.filterMap_cons_some hg]
    exact .cons (mem_of_find? hg) (ih h.2)

/-- What a request for some names gets from a collection of generators. -/
structure Answers (available : List GeneratorSpec) (names : List String)
    (outcome : Except Failure (List GeneratorSpec)) : Prop where
  /-- Without names it gets all generators, in the order of the collection. -/
  all : names = [] → outcome = .ok available
  /-- When some names belong to no generator it gets those as often as they were requested, in the
  order of the request, and no generators. -/
  unknown : (∃ name ∈ names, name ∉ available.map GeneratorSpec.name) →
    ∃ f, outcome = .error f ∧ f.kind = .invalidSpec ∧
      f.message = "Unknown generator(s): " ++ ", ".intercalate
        (names.filter fun name => name ∉ available.map GeneratorSpec.name) ∧
      f = .unknownGenerators (names.filter fun name => name ∉ available.map GeneratorSpec.name)
  /-- Otherwise it gets one generator for each name, in the order of the request. -/
  chosen : names ≠ [] → (∀ name ∈ names, name ∈ available.map GeneratorSpec.name) →
    ∃ gs, outcome = .ok gs ∧
      List.Forall₂ (fun name g => g ∈ available ∧ g.name = name) names gs
  /-- No other generator of the collection has that name. -/
  only : ∀ g ∈ available, ∀ g' ∈ available, g.name = g'.name → g = g'

/-- Requests are answered from every collection with distinct names. -/
lemma answers_choose (hnodup : (available.map GeneratorSpec.name).Nodup) (names : List String) :
    Answers available names (choose available names) where
  all := by
    rintro rfl
    rfl
  unknown := by
    rintro ⟨name, hname, hunknown⟩
    refine ⟨.unknownGenerators _, ?_, rfl, rfl, rfl⟩
    have hmem : name ∈ missing available names := by
      rw [missing_eq_filter, List.mem_filter]
      exact ⟨hname, decide_eq_true hunknown⟩
    rw [choose, select, if_neg (by simpa using List.ne_nil_of_mem hname),
      if_neg (by simpa using List.ne_nil_of_mem hmem), missing_eq_filter]
    rfl
  chosen := by
    intro hne hknown
    have hmissing : missing available names = [] := by
      rw [missing_eq_filter, List.filter_eq_nil_iff]
      exact fun name hname => by simpa using hknown name hname
    refine ⟨_, ?_, forall₂_filterMap_find? hknown⟩
    rw [choose, select, if_neg (by simpa using hne), if_pos (by simp [hmissing])]
    rfl
  only := fun _ hg _ hg' => List.inj_on_of_nodup_map hnodup hg hg'

/-- The generators that come with the library have distinct names. -/
lemma nodup_builtIn : (builtIn.map GeneratorSpec.name).Nodup := by decide

/-! ### Files -/

variable {s : Session} {source : Path}

/-- The file at a path holds an array whose elements are all valid generators. -/
def Describes (s : Session) (source : Path) (gs : List GeneratorSpec) : Prop :=
  ∃ bytes values, s.files.read source = .ok bytes ∧ Json.readBytes? bytes = some (.arr values) ∧
    List.Forall₂ (fun value g => Checked.generator value = .valid g) values gs

/-- The record of a file that was loaded. -/
def loadedRecord (source : Path) (gs : List GeneratorSpec) : Record :=
  ⟨.info, .collection, s!"Loaded {gs.length} generator specs from {source}"⟩

/-- A file describes generators when what is read from it is valid. -/
lemma describes_iff : Describes s source gs ↔ ∃ bytes, s.files.read source = .ok bytes ∧
    ∃ value ∈ Json.readBytes? bytes, Checked.generators value = .valid gs := by
  refine exists_congr fun bytes => ?_
  constructor
  · rintro ⟨values, hread, hjson, hvalues⟩
    exact ⟨hread, _, hjson, Checked.array_eq_valid_iff.mpr ⟨values, rfl, hvalues⟩⟩
  · rintro ⟨hread, value, hjson, hvalid⟩
    obtain ⟨values, rfl, hvalues⟩ := Checked.array_eq_valid_iff.mp hvalid
    exact ⟨values, hread, hjson, hvalues⟩

/-- Loading a file of generators looks for a repeated name and does nothing else. -/
lemma apply_load (h : Describes s source gs) :
    (load source).apply s =
      match repeated? [] gs with
      | some name => (.error (.definedTwice source name), s)
      | none => (.ok gs, s.log (loadedRecord source gs)) := by
  obtain ⟨bytes, hread, value, hjson, hvalid⟩ := describes_iff.mp h
  have hbytes : ofBytes source bytes =
      match repeated? [] gs with
      | some name => .error (.definedTwice source name)
      | none => .ok gs := by
    cases hrepeated : repeated? [] gs with
    | some name => simp only [ofBytes, Option.mem_def.mp hjson, hvalid, hrepeated]
    | none => simp only [ofBytes, Option.mem_def.mp hjson, hvalid, hrepeated]
  rw [load, Run.apply_bind, Run.apply_get]
  dsimp only
  rw [hread, Run.apply_bind, Run.apply_ofFileFault]
  dsimp only [Except.mapError]
  rw [hbytes]
  cases repeated? [] gs with
  | some name => rfl
  | none => rfl

/-- What becomes of a file of valid generators. -/
structure Loads (s : Session) (source : Path) (gs : List GeneratorSpec) : Prop where
  /-- It is refused exactly when two of its generators have the same name. -/
  refused_iff : (∃ f, ((load source).apply s).1 = .error f ∧ f.kind = .invalidSpec) ↔ Repeats gs
  /-- The failure names the first generator whose name an earlier one has. -/
  refused : ∀ f s', (load source).apply s = (.error f, s') → s' = s ∧
    ∃ before g after, gs = before ++ g :: after ∧ (before.map GeneratorSpec.name).Nodup ∧
      g.name ∈ before.map GeneratorSpec.name ∧ f = .definedTwice source g.name ∧
      f.message = s!"{source}: generator {quoted g.name} is defined twice"
  /-- Otherwise all of its generators are loaded in the order of the file, and each is found under
  its name. -/
  loaded : ¬Repeats gs → (load source).apply s = (.ok gs, s.log (loadedRecord source gs)) ∧
    ∀ g ∈ gs, find? gs g.name = some g

/-- Files of valid generators are loaded as they stand. -/
lemma loads_of_describes (h : Describes s source gs) : Loads s source gs where
  refused_iff := by
    rw [apply_load h, ← not_iff_not, ← nodup_map_name_iff]
    cases hrepeated : repeated? [] gs with
    | none => simpa using (repeated?_eq_none_iff.mp hrepeated).1
    | some name =>
      have hnot : ¬(gs.map GeneratorSpec.name).Nodup := by
        intro hnodup
        rw [repeated?_eq_none_iff.mpr ⟨hnodup, by simp⟩] at hrepeated
        cases hrepeated
      simp [hnot, Failure.kind]
  refused := by
    intro f s' hload
    rw [apply_load h] at hload
    cases hrepeated : repeated? [] gs with
    | none =>
      rw [hrepeated] at hload
      cases hload
    | some name =>
      rw [hrepeated] at hload
      cases hload
      obtain ⟨before, g, after, hsplit, rfl, hnodup, -, hg⟩ := exists_split_of_repeated? hrepeated
      exact ⟨rfl, before, g, after, hsplit, hnodup, hg.resolve_left (by simp), rfl, rfl⟩
  loaded := by
    intro hdistinct
    rw [← nodup_map_name_iff] at hdistinct
    refine ⟨?_, fun g hg => find?_of_nodup_map hdistinct hg⟩
    rw [apply_load h, repeated?_eq_none_iff.mpr ⟨hdistinct, by simp⟩]

/-- The generators of a file that was loaded have distinct names. -/
lemma nodup_of_load (h : Describes s source gs) (hload : ((load source).apply s).1 = .ok gs) :
    (gs.map GeneratorSpec.name).Nodup := by
  rw [nodup_map_name_iff, ← (loads_of_describes h).refused_iff, hload]
  simp

/-! ### Settings -/

/-- The outcome of settings that name no file is that of choosing from the generators that come with
the library. -/
lemma apply_resolve_of_none {settings : Settings} (h : settings.specFile = none) (s : Session) :
    (settings.resolve.apply s).1 = choose builtIn settings.generators := by
  rw [Settings.resolve, h, Run.apply_bind, Run.apply_pure]
  dsimp only
  cases choose builtIn settings.generators <;> rfl

/-- The outcome of settings that name a file is that of loading it and choosing from it. -/
lemma apply_resolve_of_some {settings : Settings} (h : settings.specFile = some source)
    (s : Session) :
    (settings.resolve.apply s).1 =
      ((load source).apply s).1 >>= fun gs => choose gs settings.generators := by
  rw [Settings.resolve, h, Run.apply_bind]
  dsimp only
  rcases (load source).apply s with ⟨f | gs, s'⟩
  · rfl
  · dsimp only [bind, Except.bind]
    cases choose gs settings.generators <;> rfl

/-- What settings that name a file of valid generators get. -/
structure Resolves (s : Session) (source : Path) (gs : List GeneratorSpec) (settings : Settings) :
    Prop where
  /-- When the file is refused they get its failure. -/
  refused : ∀ f, ((load source).apply s).1 = .error f → (settings.resolve.apply s).1 = .error f
  /-- Otherwise their request is answered from the file. -/
  answered : ((load source).apply s).1 = .ok gs →
    Answers gs settings.generators (settings.resolve.apply s).1
  /-- A generator that comes with the library is not known unless the file has one of its name. -/
  unknown : ((load source).apply s).1 = .ok gs → ∀ g ∈ builtIn, g.name ∈ settings.generators →
    g.name ∉ gs.map GeneratorSpec.name →
      ∃ missing, (settings.resolve.apply s).1 = .error (.unknownGenerators missing) ∧
        g.name ∈ missing

/-- Settings that name a file answer their request from it. -/
lemma resolves_of_describes (h : Describes s source gs) {settings : Settings}
    (hsource : settings.specFile = some source) : Resolves s source gs settings := by
  have hanswered : ((load source).apply s).1 = .ok gs →
      Answers gs settings.generators (settings.resolve.apply s).1 := by
    intro hload
    rw [apply_resolve_of_some hsource, hload]
    exact answers_choose (nodup_of_load h hload) settings.generators
  refine ⟨fun f hload => ?_, hanswered, fun hload g _ hg hunknown => ?_⟩
  · rw [apply_resolve_of_some hsource, hload]
    rfl
  · obtain ⟨f, hf, -, -, rfl⟩ := (hanswered hload).unknown ⟨g.name, hg, hunknown⟩
    exact ⟨_, hf, List.mem_filter.mpr ⟨hg, decide_eq_true hunknown⟩⟩

/-- A file of valid generators is loaded without loss and in its order, unless a name stands in it
twice.  Every request for some names is answered from such a file, from the generators that come
with the library, and from the file that settings name. -/
theorem loads_and_answers (h : Describes s source gs) :
    Loads s source gs ∧
      (((load source).apply s).1 = .ok gs → ∀ names, Answers gs names (choose gs names)) ∧
      (∀ names, Answers builtIn names (choose builtIn names)) ∧
      (∀ settings : Settings, settings.specFile = some source → Resolves s source gs settings) ∧
      ∀ settings : Settings, settings.specFile = none →
        Answers builtIn settings.generators (settings.resolve.apply s).1 := by
  refine ⟨loads_of_describes h, fun hload => answers_choose (nodup_of_load h hload),
    answers_choose nodup_builtIn, fun _ hsource => resolves_of_describes h hsource,
    fun settings hsource => ?_⟩
  rw [apply_resolve_of_none hsource]
  exact answers_choose nodup_builtIn settings.generators

/-- The text of a generator without parameters in a file. -/
def plainText (name ugen : String) : String :=
  "\x7b\"name\": \"" ++ name ++ "\", \"ugen\": \"" ++ ugen ++ "\"\x7d"

/-- A session whose directory has a file of generators without parameters. -/
def shelf (tones : List (String × String)) : Session :=
  .start {} ⟨"", ""⟩ ⟨["home"], [(["home"], .directory), (["home", "specs.json"],
    .file ("[" ++ ", ".intercalate (tones.map fun (name, ugen) => plainText name ugen)
      ++ "]").toUTF8.toList)], []⟩

/-- A file of a hum and a hiss is loaded, and its generators are chosen in the order of a request
that names one of them twice; with a second hum the file is refused. -/
theorem loads_and_answers_shelf :
    let source : Path := ⟨.here, ["specs.json"]⟩
    let hum : GeneratorSpec := ⟨"hum", "Saw", []⟩
    let hiss : GeneratorSpec := ⟨"hiss", "Dust", []⟩
    Describes (shelf [("hum", "Saw"), ("hiss", "Dust")]) source [hum, hiss] ∧
      (∃ gs, choose [hum, hiss] ["hiss", "hum", "hiss"] = .ok gs ∧
        List.Forall₂ (fun name g => g ∈ [hum, hiss] ∧ g.name = name) ["hiss", "hum", "hiss"] gs) ∧
      Describes (shelf [("hum", "Saw"), ("hiss", "Dust"), ("hum", "Saw")]) source
        [hum, hiss, hum] ∧
      ∃ f, ((load source).apply
        (shelf [("hum", "Saw"), ("hiss", "Dust"), ("hum", "Saw")])).1 = .error f ∧
          f.kind = .invalidSpec := by
  intro source hum hiss
  have hdescribes : Describes (shelf [("hum", "Saw"), ("hiss", "Dust")]) source [hum, hiss] :=
    describes_iff.mpr ⟨_, rfl, by decide +kernel⟩
  have htwice : Describes (shelf [("hum", "Saw"), ("hiss", "Dust"), ("hum", "Saw")]) source
      [hum, hiss, hum] := describes_iff.mpr ⟨_, rfl, by decide +kernel⟩
  obtain ⟨hloads, hanswers, -⟩ := loads_and_answers hdescribes
  obtain ⟨hrefused, -⟩ := loads_and_answers htwice
  have hdistinct : ¬Repeats [hum, hiss] := nodup_map_name_iff.mp (by decide)
  have hload := (hloads.loaded hdistinct).1
  refine ⟨hdescribes, (hanswers (by rw [hload]) _).chosen (by decide) (by decide), htwice, ?_⟩
  exact hrefused.refused_iff.mpr ⟨0, 2, hum, hum, by decide, rfl, rfl, rfl⟩

end Collection

end SynthGraph
