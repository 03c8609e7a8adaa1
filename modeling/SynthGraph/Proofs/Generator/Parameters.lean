import SynthGraph.Proofs.CommandLine.Listing
import SynthGraph.Proofs.File.Decode
import SynthGraph.Proofs.Generator.Counts

/-!
# The parameters of a built generator

A running synth is addressed by the absolute indices of its parameters.  The table of a built
definition, the tables that are read back from its file, and the list that is shown for the
generator all have the same order: the declared parameters, the position and the output bus, and
then the modulation inputs.
-/

namespace SynthGraph

-- Powers are those of the core library, also where a larger library brings its own.
attribute [local instance (2000)] instPowNat

variable {g : GeneratorSpec} {d : Definition} {rate : ParameterRate}
  {declared : List (String × Binary64)} {added : List Parameter}

/-- Two lists, the first with and the second without a property, are told apart by it. -/
lemma filter_append_of_forall {α : Type} {p : α → Bool} {xs ys : List α}
    (hxs : ∀ x ∈ xs, p x = true) (hys : ∀ y ∈ ys, p y = false) :
    (xs ++ ys).filter p = xs ∧ (xs ++ ys).filter (!p ·) = ys := by
  constructor
  · rw [List.filter_append, List.filter_eq_self.mpr hxs,
      List.filter_eq_nil_iff.mpr fun y hy => by simp [hys y hy], List.append_nil]
  · rw [List.filter_append, List.filter_eq_nil_iff.mpr fun x hx => by simp [hxs x hx],
      List.filter_eq_self.mpr fun y hy => by simp [hys y hy], List.nil_append]

/-! ### Declared parameters -/

/-- The defaults of declared parameters are those that were asked for, in single precision. -/
lemma map_default_of_declares (h : List.Forall₂ (Declares rate) declared added) :
    added.map Parameter.default = declared.map fun p => p.2.convert .binary32 := by
  induction h with
  | nil => rfl
  | cons hfirst _ ih =>
    rw [List.map_cons, List.map_cons, ih, FloatDatum.convert_of_narrow? hfirst.2.1]

namespace GeneratorSpec

/-- The defaults of the parameters in their order: those of the spec in single precision, and zeros
for the position, the output bus and the modulation inputs. -/
def parameterDefaults (g : GeneratorSpec) : List Binary32 :=
  g.params.map (fun p => p.default.convert .binary32) ++
    List.replicate (2 + (g.params.filterMap ParamSpec.modName).length) (.zero false)

/-- A definition has the parameters of a generator, each at its place. -/
structure OrdersParameters (g : GeneratorSpec) (d : Definition) : Prop where
  /-- The parameters have the names of the generator, and their index is their position. -/
  entries : d.parameters.toList.map (fun p => (p.name, p.index)) = g.parameterNames.zipIdx
  /-- The defaults stand at the same positions. -/
  defaults : d.parameters.toList.map Parameter.default = g.parameterDefaults
  /-- The declared parameters, the position and the output bus change once per block. -/
  blockRate : d.parameters.blockRate = d.parameters.toList.take (g.params.length + 2)
  /-- All others change with every sample. -/
  sampleRate : d.parameters.sampleRate = d.parameters.toList.drop (g.params.length + 2)
  /-- The command that lists shows the indices of the parameters. -/
  listed : CommandLine.ListShows g
    (", ".intercalate (d.parameters.toList.map fun p => s!"{p.index}:{p.name}"))
  /-- What is read back from a file of the definition are the same names, indices and defaults. -/
  decoded : ∀ bytes, DefinitionFile.encode [d] = .ok bytes → ∃ contents,
    DefinitionFile.decode bytes = some ⟨asciiBytes "SCgf", 2, [contents]⟩ ∧
      contents.parameters =
        g.parameterNames.zipIdx.map (fun (name, index) => (name, (index : Int))) ∧
      contents.defaults = g.parameterDefaults
  /-- There is such a file as long as counts of thirty-two bits are enough. -/
  encoded : g.parameterNames.length < 2 ^ (28 : Nat) →
    ∃ bytes, DefinitionFile.encode [d] = .ok bytes

/-- The defaults that are declared are those of the parameters. -/
lemma parameterDefaults_eq (g : GeneratorSpec) :
    (Template.blockDeclarations g).map (fun p => p.2.convert .binary32) ++
      (Template.modDeclarations g).map (fun p => p.2.convert .binary32) = g.parameterDefaults := by
  have hzero : (.zero false : Binary64).convert .binary32 = .zero false := by decide +kernel
  simp [Template.blockDeclarations, Template.modDeclarations, parameterDefaults, hzero,
    Function.comp_def, List.replicate_add, List.replicate_succ]

/-- The defaults of a built definition are those of its generator. -/
lemma defaults_of_build (h : g.build = .ok d) :
    d.parameters.toList.map Parameter.default = g.parameterDefaults := by
  obtain ⟨block, mods, hlist, hblock, hmods⟩ := entries_of_build h
  rw [hlist, List.map_append, map_default_of_declares hblock, map_default_of_declares hmods,
    g.parameterDefaults_eq]

/-- The order that is listed is that of a definition with the same names at the same indices. -/
lemma parameterOrder_of_entries
    (h : d.parameters.toList.map (fun p => (p.name, p.index)) = g.parameterNames.zipIdx) :
    Table.parameterOrder g =
      ", ".intercalate (d.parameters.toList.map fun p => s!"{p.index}:{p.name}") := by
  rw [Table.parameterOrder, ← h, List.map_map]
  rfl

/-- A built definition has the parameters of its generator, each at its place, and so has every file
of it, and the command that lists shows them. -/
theorem ordersParameters_of_build (h : g.build = .ok d) : g.OrdersParameters d := by
  obtain ⟨block, mods, hlist, hblock, hmods⟩ := entries_of_build h
  have hreachable := reachable_of_build h
  have hnames := names_of_build h
  have hentries : d.parameters.toList.map (fun p => (p.name, p.index)) =
      g.parameterNames.zipIdx := by
    rw [← List.zip_map', hnames, hreachable.wellBound.table.index, List.zipIdx_eq_zip_range',
      ← ParameterTable.length_toList, ← List.length_map Parameter.name, hnames,
      List.range_eq_range']
  have hlength : block.length = g.params.length + 2 := by
    rw [← hblock.length_eq]
    simp [Template.blockDeclarations]
  have hsplit := filter_append_of_forall
    (fun p hp => congrArg ParameterRate.isBlock (rate_of_declares hblock p hp))
    (fun p hp => congrArg ParameterRate.isBlock (rate_of_declares hmods p hp))
  refine ⟨hentries, defaults_of_build h, ?_, ?_, ?_, fun bytes hbytes => ?_,
    exists_encode_of_build h⟩
  · rw [ParameterTable.blockRate, hlist, hsplit.1, ← hlength, List.take_left]
  · rw [ParameterTable.sampleRate, hlist, hsplit.2, ← hlength, List.drop_left]
  · rw [← parameterOrder_of_entries hentries]
    exact CommandLine.listShows_parameterOrder g
  · obtain ⟨hlegal, rfl⟩ := DefinitionFile.isLegal_of_encode hbytes
    refine ⟨d.contents, DefinitionFile.decode_of_isLegal hlegal, ?_, defaults_of_build h⟩
    rw [← hentries, List.map_map]
    rfl

/-- The saw that comes with the library. -/
def sawOsc : GeneratorSpec := ⟨"saw_osc", "Saw", [Collection.freq, Collection.amp]⟩

/-- A session in an empty home directory. -/
def atHome : Session :=
  .start { bindings := [("HOME", "/home")] } ⟨"", ""⟩ (FileSystem.withHere ["home"])

/-- The command that lists the saw. -/
def listSaw : CommandLine.Invocation := ⟨.list, ["saw_osc"], []⟩

/-- The command that lists the saw finds it. -/
lemma exists_requested_listSaw : ∃ s', (CommandLine.requested listSaw).apply
    (CommandLine.prepared atHome) = (.ok [sawOsc], s') :=
  ⟨_, Prod.ext (by decide +kernel) rfl⟩

/-- The table of the saw has room. -/
lemma hasRoom_sawOsc : Table.HasRoom atHome.environment.outputWidth Table.generatorHeadings
    (Table.generatorRows [sawOsc]) := by
  refine ⟨[7, 4, 59], ?_, by decide⟩
  unfold Table.Holds
  decide +kernel

/-- The cells of the saw are plain. -/
lemma isPlain_sawOsc : Table.IsPlain sawOsc := by
  have hfits : ∀ cell ∈ Table.generatorCells sawOsc, FitsLine (columnWidth cell) cell := by
    unfold FitsLine
    decide +kernel
  have htexts : ∀ cell ∈ Table.generatorCells sawOsc, Plain cell.toList :=
    List.forall_mem_cons.mpr ⟨plain_of_all (by decide), List.forall_mem_cons.mpr
      ⟨plain_of_all (by decide), List.forall_mem_singleton.mpr
        (Table.plain_parameterOrder (by decide +kernel))⟩⟩
  exact fun cell hcell => ⟨htexts cell hcell, hfits cell hcell⟩

/-- The tables of the saw with modulations and the file that they are written to, and the line of
the saw that comes with the library in what the command that lists prints. -/
theorem ordersParameters_of_build_saws :
    (∃ d bytes, modulatedSaw.build = .ok d ∧ modulatedSaw.OrdersParameters d ∧
      DefinitionFile.encode [d] = .ok bytes) ∧
    modulatedSaw.parameterNames =
      ["freq", "iphase", "amp", "pan", "out_bus", "freq_mod", "amp_mod"] ∧
    modulatedSaw.parameterDefaults = [440, 0, 1, 0, 0, 0, 0].map .ofInt ∧
    (∃ d, sawOsc.build = .ok d ∧ sawOsc.OrdersParameters d) ∧
    ∃ lines s', CommandLine.run ["list", "saw_osc"] false atHome =
      (.done (CommandLine.textOf lines), s') ∧ ∃ line ∈ lines, Table.Shows line
        ["saw_osc", "Saw", "0:freq, 1:amp, 2:pan, 3:out_bus, 4:freq_mod, 5:amp_mod"] := by
  obtain ⟨d, hbuild⟩ := exists_build_modulatedSaw
  have horder := ordersParameters_of_build hbuild
  obtain ⟨bytes, hbytes⟩ := horder.encoded (by decide)
  obtain ⟨d', hbuild'⟩ : ∃ d, sawOsc.build = .ok d := exists_eq_ok_of_isOk (by decide +kernel)
  have horder' := ordersParameters_of_build hbuild'
  refine ⟨⟨d, bytes, hbuild, horder, hbytes⟩, by decide +kernel, by decide +kernel,
    ⟨d', hbuild', horder'⟩, ?_⟩
  obtain ⟨s', hfound⟩ := exists_requested_listSaw
  obtain ⟨lines, hrun, line, hline, hshows⟩ := horder'.listed ["list", "saw_osc"] listSaw false
    atHome s' [sawOsc] (by decide +kernel) rfl (by decide +kernel) hfound List.mem_cons_self
    hasRoom_sawOsc isPlain_sawOsc
  refine ⟨lines, s', hrun, line, hline, ?_⟩
  rwa [← parameterOrder_of_entries horder'.entries, show Table.parameterOrder sawOsc =
    "0:freq, 1:amp, 2:pan, 3:out_bus, 4:freq_mod, 5:amp_mod" by decide +kernel] at hshows

end GeneratorSpec

end SynthGraph
