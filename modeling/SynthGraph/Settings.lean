import SynthGraph.Binary.ShortName
import SynthGraph.Generator.Collection
import SynthGraph.Generator.Schema
import SynthGraph.Session.Basic

/-!
# Settings

What to build and where to put it: the output directory, the requested generators, the file to take
generators from, and the name of the bundle when all definitions go into one file.
-/

namespace SynthGraph

/-- The settings of a run. -/
structure Settings where
  outDir : Path
  generators : List String
  specFile : Option Path
  bundleName : Option String
  deriving DecidableEq, Repr

namespace Checked

/-- A path. -/
def path : Json → Checked Path
  | .str s => valid (Path.ofString s)
  | _ => fail .notPath

/-- A name for a bundle file: a file stem that is also a legal name. -/
def bundleName (value : Json) : Checked String :=
  (string value).andThen fun s =>
    if s = "" ∨ s.toList.contains '/' ∨ s.toList.contains '\\' then fail (.notFileStem s)
    else
      match shortName s with
      | .ok _ => valid s
      | .error e => fail (.illegalName e)

/-- The key of the output directory. -/
def outDirKey : String := "out_dir"

/-- Settings as the members of an object, with the directory where output goes by default. -/
def settings (outDir : Path) (members : List (String × Json)) : Checked Settings :=
  (fun outDir generators specFile bundleName _ => ⟨outDir, generators, specFile, bundleName⟩)
    <$> optional members outDirKey outDir path
    <*> optional members "generators" [] (array .notSequence string)
    <*> optional members "spec_file" none (nullable path)
    <*> optional members "bundle_name" none (nullable bundleName)
    <*> onlyKeys [outDirKey, "generators", "spec_file", "bundle_name"] members

end Checked

namespace Run

/-- The valid value of a check. -/
def ofChecked {α : Type} : Checked α → Run α
  | .valid a => return a
  | .invalid issues => throw (.invalid issues)

/-- The directory where output goes by default. -/
def defaultOutDir : Run Path := do
  match (← get).environment.outDir? with
  | some outDir => return outDir
  | none => throw .unknownHome

/-- The settings of a run.  The default directory is looked for only when it is needed. -/
def settings (members : List (String × Json)) : Run Settings := do
  let outDir ← match members.lookup Checked.outDirKey with
    | some _ => pure (Path.ofString "")
    | none => defaultOutDir
  ofChecked (Checked.settings outDir members)

end Run

namespace Collection

/-- The generator of a name. -/
def lookup (available : List GeneratorSpec) (name : String) : Except Failure GeneratorSpec :=
  match find? available name with
  | some g => .ok g
  | none => .error (.unknownGenerator name)

/-- The generators of the requested names; the failure lists those that do not exist. -/
def choose (available : List GeneratorSpec) (names : List String) :
    Except Failure (List GeneratorSpec) :=
  (select available names).mapError .unknownGenerators

/-- The generators that the bytes of a file describe, in the order of the file and with distinct
names. -/
def ofBytes (source : Path) (bytes : List UInt8) : Except Failure (List GeneratorSpec) :=
  match Json.readBytes? bytes with
  | none => .error (.invalid [⟨[], .notJson⟩])
  | some value =>
    match Checked.generators value with
    | .invalid issues => .error (.invalid issues)
    | .valid gs =>
      match repeated? [] gs with
      | some name => .error (.definedTwice source name)
      | none => .ok gs

/-- Reads a file of generators. -/
def load (source : Path) : Run (List GeneratorSpec) := do
  let bytes ← Run.ofFileFault ((← get).files.read source)
  match ofBytes source bytes with
  | .error e => throw e
  | .ok gs =>
    Run.log .info .collection s!"Loaded {gs.length} generator specs from {source}"
    return gs

end Collection

/-- The generators that settings ask for. -/
def Settings.resolve (settings : Settings) : Run (List GeneratorSpec) := do
  let available ← match settings.specFile with
    | some source => Collection.load source
    | none => pure Collection.builtIn
  match Collection.choose available settings.generators with
  | .error e => throw e
  | .ok gs =>
    Run.log .debug .settings
      ("Selected generators: " ++ ", ".intercalate (gs.map GeneratorSpec.name))
    return gs

end SynthGraph
