import SynthGraph.Proofs.File.Bundle
import SynthGraph.Proofs.Output.Apart

/-!
# Bundles and separate files

The two ways in which a run writes its definitions.  A bundle holds, behind a header of its own,
what the separate files of the same generators hold behind theirs, in the order of the generators.
-/

namespace SynthGraph

namespace Output

open Session FileSystem DefinitionFile

variable {s s' : Session} {outDir : Path} {name : String} {gs : List GeneratorSpec}
  {ds : List Definition} {paths : List Path} {bundle : List UInt8} {files : List (List UInt8)}

/-- A bundle in a file system, and the separate files of the same generators. -/
structure HoldsFiles (gs : List GeneratorSpec) (place : Path) (fs : FileSystem)
    (bundle : List UInt8) (files : List (List UInt8)) : Prop where
  /-- The file holds the bundle. -/
  stored : fs.read place = .ok bundle
  /-- The files are those of the generators, in order. -/
  each : List.Forall₂ (fun g file => bytes [g] = .ok file) gs files
  /-- The bundle holds what they hold, behind a header of its own. -/
  joined : bundle = header gs.length ++ files.flatMap (List.drop 10)
  /-- A run that writes the generators separately leaves these files: at the path of a generator its
  own, or that of a later one which goes to the same place. -/
  separate : ∀ (outDir : Path) (t t' : Session) (paths : List Path), t.LogsApart →
    (writeAll gs outDir none).apply t = (.ok paths, t') →
    ∀ (i : Nat) (hi : i < gs.length), ∃ (j : Nat) (hj : j < gs.length) (hj' : j < files.length),
      t'.files.read (target outDir gs[i].name) = .ok files[j] ∧ (j = i ∨ i < j ∧
        sameFile t'.files (target outDir gs[j].name) (target outDir gs[i].name) = true)

/-- What separate files hold when the bytes of the generators are known. -/
lemma read_separate (heach : List.Forall₂ (fun g file => bytes [g] = .ok file) gs files)
    {t t' : Session} (hlogs : t.LogsApart)
    (h : (writeAll gs outDir none).apply t = (.ok paths, t')) {i : Nat} (hi : i < gs.length) :
    ∃ (j : Nat) (hj : j < gs.length) (hj' : j < files.length),
      t'.files.read (target outDir gs[i].name) = .ok files[j] ∧ (j = i ∨ i < j ∧
        sameFile t'.files (target outDir gs[j].name) (target outDir gs[i].name) = true) := by
  have hlength := heach.length_eq
  have hbytes (j : Nat) (hj : j < gs.length) (hj' : j < files.length) :
      bytes [gs[j]] = .ok files[j] := heach.get hj hj'
  have hsuffix : gs[i] :: gs.drop (i + 1) <:+ gs := by
    rw [List.getElem_cons_drop]
    exact List.drop_suffix i gs
  rcases read_target_of_writeAll h hlogs hsuffix with
    ⟨⟨content, hown, hread⟩, -⟩ | ⟨g', hg', hsame, content, hlater, hread⟩
  · obtain rfl := Except.ok.inj ((hbytes i hi (by omega)).symm.trans hown)
    exact ⟨i, hi, by omega, hread, .inl rfl⟩
  · obtain ⟨k, hk, rfl⟩ := List.getElem_of_mem hg'
    rw [List.length_drop] at hk
    rw [List.getElem_drop] at hsame hlater
    obtain rfl := Except.ok.inj ((hbytes (i + 1 + k) (by omega) (by omega)).symm.trans hlater)
    exact ⟨i + 1 + k, by omega, by omega, hread, .inr ⟨by omega, hsame⟩⟩

/-- A bundle that a run has written, against the separate files of its generators. -/
lemma holdsFiles_of_writeAll (hgs : gs ≠ []) (hlogs : s.LogsApart)
    (h : (writeAll gs outDir (some name)).apply s = (.ok paths, s')) :
    paths = [target outDir name] ∧
      ∃ bundle files, HoldsFiles gs (target outDir name) s'.files bundle files := by
  obtain ⟨ds, hbuilt, rfl, -, writes, hstored, hleaves⟩ := writes_of_writeAll h
  have hentry : (target outDir name, gs) ∈ plan gs outDir (some name) := by
    rw [plan_bundle hgs]
    exact List.mem_singleton_self _
  obtain ⟨last, bundle, hlast, hbundle, hread⟩ := read_of_leaves hlogs hstored hleaves hentry
  obtain ⟨entry, hmem, rfl, -⟩ := exists_of_lastOn hlast
  rw [plan_bundle hgs, List.mem_singleton] at hmem
  obtain rfl := hmem
  rw [bytes_of_built hbuilt] at hbundle
  obtain ⟨files, hbundles⟩ := bundles_of_encode hbundle
  have heach := forall₂_bytes_of_built hbuilt hbundles.each
  refine ⟨by rw [plan_bundle hgs]; rfl, bundle, files, hread, heach, ?_, ?_⟩
  · rw [hbundles.joined, hbuilt.length_eq]
  · intro outDir' t t' paths' hlogs' h' i hi
    exact read_separate heach hlogs' h' hi

/-- Bundling changes nothing but the header.  The file of at most `32767` definitions that
operations lead to, with counts of thirty-two bits, is a header that counts them and then, in order,
what a file for each of them holds behind its first ten bytes; sizes without these ten bytes add up.
So a bundle that a run has written for some generators holds byte for byte the definitions in the
separate files that a run leaves for the same generators. -/
theorem bundle_joins_files :
    (∀ ds : List Definition, ds.length ≤ 32767 → (∀ d ∈ ds, d.Reachable ∧ d.CountsFit) →
      ∃ bundle files, Bundles ds bundle files) ∧
    ∀ (gs : List GeneratorSpec) (outDir : Path) (name : String) (s s' : Session)
      (paths : List Path), gs ≠ [] → s.LogsApart →
      (writeAll gs outDir (some name)).apply s = (.ok paths, s') →
      paths = [target outDir name] ∧
        ∃ bundle files, HoldsFiles gs (target outDir name) s'.files bundle files := by
  constructor
  · intro ds hcount hds
    exact ⟨_, _, bundles_of_isLegal hcount (isLegal_fields hcount hds)⟩
  · intro gs outDir name s s' paths hgs hlogs h
    exact holdsFiles_of_writeAll hgs hlogs h

/-- A finished and an unfinished definition are bundled, and so are two generators in a session in
which they can be written separately as well. -/
theorem bundle_joins_files_tones :
    (∃ bundle files, Bundles [sine, unfinished] bundle files) ∧
      studio.LogsApart ∧ ∃ s' bundle files,
        (writeAll tones twinsDir (some "tone")).apply studio =
          (.ok [target twinsDir "tone"], s') ∧
        HoldsFiles tones (target twinsDir "tone") s'.files bundle files ∧
        ∃ paths t', (writeAll tones twinsDir none).apply studio = (.ok paths, t') := by
  have htones : (tones.mapM GeneratorSpec.build).isOk = true := by decide +kernel
  obtain ⟨ds, hbuilds⟩ := exists_eq_ok_of_isOk htones
  have hbuilt := mapM_eq_ok_iff.mp hbuilds
  obtain ⟨content, hcontent⟩ := exists_bytes_of_built hbuilt (by decide) (by decide)
  obtain ⟨loc, hnames⟩ := exists_names_studio "tone" (by decide)
  have hstored : List.Forall₂ (Stored studio.files) (plan tones twinsDir (some "tone"))
      [(loc, content)] := .cons ⟨hnames, hcontent⟩ .nil
  obtain ⟨s', hrun, -⟩ := apply_writeAll_of_stored hbuilt logsOpen_studio hstored
  obtain ⟨-, bundle, files, hholds⟩ := bundle_joins_files.2 tones twinsDir "tone" studio s' _
    (by decide) logsApart_workshop hrun
  obtain ⟨t', hseparate, -⟩ := exists_writeAll_studio (show ∀ g ∈ tones, _ from by decide +kernel)
  exact ⟨bundle_joins_files.1 _ (by decide) reachable_sine_unfinished, logsApart_workshop, s',
    bundle, files, hrun, hholds, _, t', hseparate⟩

end Output

end SynthGraph
