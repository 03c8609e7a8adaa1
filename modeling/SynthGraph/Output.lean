import SynthGraph.Generator.Template
import SynthGraph.Graph.DefinitionFile
import SynthGraph.Session.Basic

/-!
# Writing definitions

Building a list of generators and writing the definitions, one file each or all in one bundle.  All
definitions are built before any file is touched.
-/

namespace SynthGraph

namespace Output

/-! ### Building -/

/-- Runs a stage of the template on a definition. -/
def stage {α : Type} (d : Definition) (edit : Edit α) : Except Fault (α × Definition) :=
  match edit.apply d with
  | (.ok a, d) => .ok (a, d)
  | (.error e, _) => .error e

/-- Builds a generator and records how far it got. -/
def buildOne (g : GeneratorSpec) : Run Definition := do
  let d ← Run.ofFault (Definition.new g.name)
  let (constants, d) ← Run.ofFault (stage d (Template.declarations g))
  let (emitted, d) ← Run.ofFault (stage d Edit.controls)
  Run.log .debug .graph <| s!"{d.name}: exposed {d.parameters.size} parameters through " ++
    s!"{emitted.length} control nodes"
  let (_, d) ← Run.ofFault (stage d (Template.wiring g constants))
  Run.log .debug .template <| s!"Built {g.name}: {d.constants.size} constants, " ++
    s!"{d.parameters.size} parameters, {d.nodes.size} nodes"
  return d

/-- Runs a step and records its failure as an error before passing it on. -/
def recordingFailure {α : Type} (what : String) (step : Run α) : Run α := fun s =>
  match step s with
  | (.ok a, s) => (.ok a, s)
  | (.error e, s) => (.error e, s.log ⟨.error, .output, what ++ ": " ++ e.message⟩)

/-- Builds generators, the first of which that fails is recorded. -/
def buildList : List GeneratorSpec → Run (List Definition)
  | [] => return []
  | g :: gs => do
    let d ← recordingFailure ("Failed to build " ++ g.name) (buildOne g)
    let ds ← buildList gs
    return d :: ds

/-! ### Writing -/

/-- Writes the file of some definitions at a path. -/
def writeFile (target : Path) (ds : List Definition) : Run Path := do
  let payload ← Run.ofFault (DefinitionFile.encode ds)
  Run.log .debug .definitionFile <|
    "Encoded " ++ ", ".intercalate (ds.map Definition.name) ++ s!" ({payload.length} bytes)"
  let (stored, files) := (← get).files.store target payload
  modify fun s => { s with files := files }
  Run.ofFileFault stored
  Run.log .info .definitionFile s!"Wrote {target} ({payload.length} bytes)"
  return target

/-- The path of a definition file in a directory. -/
def target (outDir : Path) (name : String) : Path :=
  outDir.child (name ++ DefinitionFile.suffix)

/-- Writes definitions one by one, the first of which that fails is recorded. -/
def writeEach (outDir : Path) : List Definition → Run (List Path)
  | [] => return []
  | d :: ds => do
    let path ← recordingFailure ("Failed to write " ++ d.name)
      (writeFile (target outDir d.name) [d])
    let paths ← writeEach outDir ds
    return path :: paths

/-- Builds all generators and writes their definitions, into one file when there is a bundle name.
Returns the paths of the files. -/
def writeAll (gs : List GeneratorSpec) (outDir : Path) (bundleName : Option String) :
    Run (List Path) := do
  let ds ← buildList gs
  if ds.isEmpty then
    Run.log .warning .output "No generators selected; nothing written"
    return []
  match bundleName with
  | some name => return [← writeFile (target outDir name) ds]
  | none => writeEach outDir ds

end Output

end SynthGraph
