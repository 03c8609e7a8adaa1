import SynthGraph.CommandLine.Execution
import SynthGraph.Proofs.Output.BundleName

/-!
# Options and settings

A command takes its generators from its names, and the rest of its settings from its options.  An
option that is not given leaves the setting as it is by default.  One that is given needs a value,
and the name of a bundle has to be a legal one; a command has settings exactly when this is so and
its output directory is known.
-/

namespace SynthGraph

/-- The generators of valid settings are those of the array, and every other setting is read from
its member or is the one by default. -/
lemma Checked.settings_eq_valid_iff {dir : Path} {members : List (String × Json)}
    {settings : Settings} :
    Checked.settings dir members = valid settings ↔
      optional members outDirKey dir path = valid settings.outDir ∧
      optional members "generators" [] (array .notSequence string) = valid settings.generators ∧
      optional members "spec_file" none (nullable path) = valid settings.specFile ∧
      optional members "bundle_name" none (nullable bundleName) = valid settings.bundleName ∧
      onlyKeys [outDirKey, "generators", "spec_file", "bundle_name"] members = valid () := by
  rw [Checked.settings]
  simp only [seq_eq_valid_iff, map_eq_valid_iff]
  constructor
  · rintro ⟨_, ⟨_, ⟨_, ⟨_, ⟨dir, hdir, rfl⟩, names, hnames, rfl⟩, source, hsource, rfl⟩, bundle,
      hbundle, rfl⟩, ⟨⟩, hkeys, rfl⟩
    exact ⟨hdir, hnames, hsource, hbundle, hkeys⟩
  · rintro ⟨hdir, hnames, hsource, hbundle, hkeys⟩
    exact ⟨_, ⟨_, ⟨_, ⟨_, ⟨_, hdir, rfl⟩, _, hnames, rfl⟩, _, hsource, rfl⟩, _, hbundle, rfl⟩, (),
      hkeys, rfl⟩

namespace CommandLine

variable {i : Invocation} {s : Session} {settings : Settings}

/-- What an option gives: without it a default that may not be known, and otherwise what is read of
its value. -/
def Gives {α : Type} (given : Option (Option String)) (default? : Option α)
    (reads : String → α → Prop) (a : α) : Prop :=
  given = none ∧ default? = some a ∨ ∃ text, given = some (some text) ∧ reads text a

/-- The settings of a command: its names, and what its options give. -/
structure TakesOptions (i : Invocation) (env : Environment) (settings : Settings) : Prop where
  generators : settings.generators = i.names
  outDir : Gives (i.value? "out-dir") env.outDir?
    (fun text dir => dir = Path.ofString text) settings.outDir
  specFile : Gives (i.value? "spec") (some none)
    (fun text source => source = some (Path.ofString text)) settings.specFile
  bundleName : Gives (i.value? "bundle") (some none)
    (fun text bundle => Checked.bundleName (.str text) = .valid text ∧ bundle = some text)
    settings.bundleName

/-- The member for the value of an option. -/
def memberOf (given : Option (Option String)) : Option Json :=
  given.map fun value => (value.map Json.str).getD (.arr [])

/-- What is found under the keys of the settings. -/
lemma lookup_members (i : Invocation) :
    i.members.lookup "generators" = some (.arr (i.names.map .str)) ∧
      i.members.lookup "spec_file" = memberOf (i.value? "spec") ∧
      i.members.lookup Checked.outDirKey = memberOf (i.value? "out-dir") ∧
      i.members.lookup "bundle_name" = memberOf (i.value? "bundle") := by
  unfold Invocation.members memberOf
  rcases hspec : i.value? "spec" with _ | _ <;> rcases hdir : i.value? "out-dir" with _ | _ <;>
    rcases hbundle : i.value? "bundle" with _ | _ <;>
    simp only [List.filterMap_cons, List.filterMap_nil, hspec, hdir, hbundle, Option.map_none,
      Option.map_some] <;>
    exact ⟨rfl, rfl, rfl, rfl⟩

/-- The members have no keys but those of the settings. -/
lemma mem_keys_of_mem_members {member : String × Json} (h : member ∈ i.members) :
    member.1 ∈ [Checked.outDirKey, "generators", "spec_file", "bundle_name"] := by
  unfold Invocation.members at h
  simp only [List.singleton_append, List.mem_cons, List.mem_filterMap, Option.map_eq_some_iff] at h
  rcases h with rfl | ⟨⟨option, key⟩, hkey, value, -, rfl⟩
  · simp
  · simp only [Prod.mk.injEq, List.not_mem_nil, or_false] at hkey
    rcases hkey with ⟨-, rfl⟩ | ⟨-, rfl⟩ | ⟨-, rfl⟩ <;> simp [Checked.outDirKey]

/-- The names of an invocation are its generators. -/
lemma names_eq_valid_iff {names generators : List String} :
    Checked.array .notSequence Checked.string (.arr (names.map .str)) = .valid generators ↔
      generators = names := by
  simp only [Checked.array, Checked.list_eq_valid_iff, List.forall₂_map_left_iff,
    Checked.string_eq_valid_iff, Json.str.injEq, List.forall₂_eq_eq_eq]
  exact eq_comm

/-- A setting is what its option gives, when its check takes texts as the option does and nothing
that stands for a missing value. -/
lemma optional_eq_valid_iff_gives {α : Type} {key : String} {default a : α}
    {check : Json → Checked α} {given : Option (Option String)} {reads : String → α → Prop}
    (hfound : i.members.lookup key = memberOf given)
    (hreads : ∀ text a, check (.str text) = .valid a ↔ reads text a)
    (hempty : check (.arr []) ≠ .valid a) :
    Checked.optional i.members key default check = .valid a ↔
      Gives given (some default) reads a := by
  rw [Checked.optional, hfound, memberOf, Gives]
  rcases given with _ | _ | text
  · simp
  · simpa using hempty
  · simpa using hreads text a

/-- The path of a text. -/
lemma path_eq_valid_iff (text : String) (dir : Path) :
    Checked.path (.str text) = .valid dir ↔ dir = Path.ofString text := by
  rw [Checked.path, Checked.valid_eq_valid_iff, eq_comm]

/-- The path of a text where there may be none. -/
lemma nullable_path_eq_valid_iff (text : String) (source : Option Path) :
    Checked.nullable Checked.path (.str text) = .valid source ↔
      source = some (Path.ofString text) := by
  simp only [Checked.nullable_eq_valid_iff, reduceCtorEq, false_and, ne_eq, not_false_eq_true,
    true_and, false_or, path_eq_valid_iff, exists_eq_left]
  exact eq_comm

/-- The name of a bundle where there may be none. -/
lemma nullable_bundleName_eq_valid_iff (text : String) (bundle : Option String) :
    Checked.nullable Checked.bundleName (.str text) = .valid bundle ↔
      Checked.bundleName (.str text) = .valid text ∧ bundle = some text := by
  simp only [Checked.nullable_eq_valid_iff, reduceCtorEq, false_and, ne_eq, not_false_eq_true,
    true_and, false_or]
  constructor
  · rintro ⟨name, hvalid, rfl⟩
    obtain rfl := Json.str.inj (Checked.bundleName_eq_valid_iff.mp hvalid).1
    exact ⟨hvalid, rfl⟩
  · rintro ⟨hvalid, rfl⟩
    exact ⟨text, hvalid, rfl⟩

/-- The settings that the members of an invocation give, when the output goes to a directory by
default. -/
lemma checked_settings_eq_valid_iff {dir : Path} :
    Checked.settings dir i.members = .valid settings ↔
      Gives (i.value? "out-dir") (some dir) (fun text dir => dir = Path.ofString text)
        settings.outDir ∧
      settings.generators = i.names ∧
      Gives (i.value? "spec") (some none) (fun text source => source = some (Path.ofString text))
        settings.specFile ∧
      Gives (i.value? "bundle") (some none)
        (fun text bundle => Checked.bundleName (.str text) = .valid text ∧ bundle = some text)
        settings.bundleName := by
  obtain ⟨hnames, hspec, hdir, hbundle⟩ := lookup_members i
  have hkeys : Checked.onlyKeys [Checked.outDirKey, "generators", "spec_file", "bundle_name"]
      i.members = .valid () := Checked.onlyKeys_eq_valid_iff.mpr fun _ => mem_keys_of_mem_members
  have hgenerators : Checked.optional i.members "generators" []
      (Checked.array .notSequence Checked.string) = .valid settings.generators ↔
        settings.generators = i.names := by
    rw [Checked.optional, hnames]
    exact Checked.within_eq_valid_iff.trans names_eq_valid_iff
  rw [Checked.settings_eq_valid_iff, hgenerators,
    optional_eq_valid_iff_gives hdir path_eq_valid_iff (by simp [Checked.path]),
    optional_eq_valid_iff_gives hspec nullable_path_eq_valid_iff
      (by simp [Checked.nullable_eq_valid_iff, Checked.path]),
    optional_eq_valid_iff_gives hbundle nullable_bundleName_eq_valid_iff
      (by simp [Checked.nullable_eq_valid_iff, Checked.bundleName_eq_valid_iff])]
  simp [hkeys]

/-- The directory where output goes by default. -/
lemma apply_defaultOutDir (s : Session) :
    Run.defaultOutDir.apply s =
      match s.environment.outDir? with
      | some dir => (.ok dir, s)
      | none => (.error .unknownHome, s) := by
  unfold Run.defaultOutDir
  rw [Run.apply_bind, Run.apply_get]
  dsimp only
  rcases s.environment.outDir? with _ | dir <;> rfl

/-- The valid value of a check is the result of a run. -/
lemma apply_ofChecked_eq_ok_iff {α : Type} {c : Checked α} {a : α} :
    ((Run.ofChecked c).apply s).1 = .ok a ↔ c = .valid a := by
  rcases c with a' | issues
  · rw [Checked.valid_eq_valid_iff]
    exact Except.ok.injEq a' a ▸ Iff.rfl
  · exact iff_of_false nofun nofun

/-- **Options and settings.**  A command has settings exactly when every option that is given has a
value, the name of a bundle is legal, and the output directory is known; and then these are its
names and the values of its options. -/
theorem settings_eq_ok_iff :
    ((Run.settings i.members).apply s).1 = .ok settings ↔
      TakesOptions i s.environment settings := by
  obtain ⟨-, -, hdir, -⟩ := lookup_members i
  have hall {dir : Path} (h : Gives (i.value? "out-dir") (some dir)
      (fun text dir => dir = Path.ofString text) settings.outDir ↔
        Gives (i.value? "out-dir") s.environment.outDir?
          (fun text dir => dir = Path.ofString text) settings.outDir) :
      ((Run.ofChecked (Checked.settings dir i.members)).apply s).1 = .ok settings ↔
        TakesOptions i s.environment settings := by
    rw [apply_ofChecked_eq_ok_iff, checked_settings_eq_valid_iff, h]
    exact ⟨fun ⟨hdir, hnames, hspec, hbundle⟩ => ⟨hnames, hdir, hspec, hbundle⟩,
      fun h => ⟨h.outDir, h.generators, h.specFile, h.bundleName⟩⟩
  unfold Run.settings
  rcases hgiven : i.value? "out-dir" with _ | given <;>
    simp only [hdir, hgiven, memberOf, Option.map_none, Option.map_some]
  · rw [Run.apply_bind, apply_defaultOutDir]
    rcases henv : s.environment.outDir? with _ | dir
    · refine iff_of_false nofun fun h => ?_
      have houtDir := h.outDir
      simp [Gives, hgiven, henv] at houtDir
    · exact hall (by rw [henv])
  · exact hall (by simp [Gives, hgiven])

end CommandLine

end SynthGraph
