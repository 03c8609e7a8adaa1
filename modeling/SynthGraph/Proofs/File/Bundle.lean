import SynthGraph.Proofs.File.Size

/-!
# Bundles

A file of many definitions against a file for each of them.  Nothing is carried from one definition
to the next, and no field depends on where it stands, so that a bundle is a header of ten bytes,
which counts the definitions, and then the definitions as they stand behind the headers of files of
their own.
-/

namespace SynthGraph

namespace DefinitionFile

variable {d : Definition} {ds : List Definition}

/-- The bytes before the definitions of a file: the magic letters, the version, and the number of
definitions in sixteen bits. -/
def header (n : Nat) : List UInt8 :=
  magic ++ IntWidth.int32.encode version ++ IntWidth.int16.encode n

/-- A header takes ten bytes. -/
@[simp] lemma length_header (n : Nat) : (header n).length = 10 := by
  rw [header, List.length_append, List.length_append, IntWidth.length_encode,
    IntWidth.length_encode]
  rfl

/-- The fields of a file write the header and then each definition. -/
lemma flatMap_bytes_fields (ds : List Definition) :
    (fields ds).flatMap Field.bytes =
      header ds.length ++ ds.flatMap fun d => d.fields.flatMap Field.bytes := by
  rw [fields, List.flatMap_append, List.flatMap_assoc]
  simp [header, Field.bytes]

/-- The fields of a file of one definition. -/
lemma flatMap_bytes_fields_singleton (d : Definition) :
    (fields [d]).flatMap Field.bytes = header 1 ++ d.fields.flatMap Field.bytes := by
  rw [flatMap_bytes_fields, List.flatMap_singleton, List.length_singleton]

/-- A definition of a file that can be written can be written into a file of its own. -/
lemma isLegal_fields_singleton (hlegal : ∀ f ∈ fields ds, f.IsLegal) (hd : d ∈ ds) :
    ∀ f ∈ fields [d], f.IsLegal := by
  rw [fields, List.forall_mem_append] at hlegal ⊢
  obtain ⟨-, hdefinitions⟩ := hlegal
  refine ⟨?_, fun f hf => ?_⟩
  · simp only [List.forall_mem_cons, List.length_singleton]
    exact ⟨trivial, by decide, by decide, List.forall_mem_nil _⟩
  · rw [List.flatMap_singleton] at hf
    exact hdefinitions f (List.mem_flatMap.mpr ⟨d, hd, hf⟩)

/-- The bytes of a bundle, put together from the bytes of a file for each of its definitions. -/
structure Bundles (ds : List Definition) (bytes : List UInt8) (files : List (List UInt8)) :
    Prop where
  whole : encode ds = .ok bytes
  each : List.Forall₂ (fun d file => encode [d] = .ok file) ds files
  /-- Every file of one definition starts with the same ten bytes. -/
  headed : ∀ file ∈ files, file.take 10 = header 1
  /-- Behind its own header, the bundle holds what the files hold behind theirs. -/
  joined : bytes = header ds.length ++ files.flatMap (List.drop 10)
  /-- Without their headers, the sizes add up. -/
  sized : ∃ n ns, size ds = .ok n ∧ List.Forall₂ (fun d m => size [d] = .ok m) ds ns ∧
    (n : Int) - 10 = (ns.map fun m : Nat => (m : Int) - 10).sum

/-- A file that can be written is a bundle of files that can be written. -/
theorem bundles_of_isLegal (hcount : ds.length ≤ maxDefinitions)
    (hlegal : ∀ f ∈ fields ds, f.IsLegal) :
    Bundles ds ((fields ds).flatMap Field.bytes)
      (ds.map fun d => (fields [d]).flatMap Field.bytes) := by
  have hone (d : Definition) : [d].length ≤ maxDefinitions := by
    simp [maxDefinitions]
  constructor
  case whole => exact encode_of_isLegal hcount hlegal
  case each =>
    refine List.forall₂_map_right_iff.mpr (List.forall₂_same.mpr fun d hd => ?_)
    exact encode_of_isLegal (hone d) (isLegal_fields_singleton hlegal hd)
  case headed =>
    intro file hfile
    obtain ⟨d, -, rfl⟩ := List.mem_map.mp hfile
    rw [flatMap_bytes_fields_singleton]
    exact List.take_left' (length_header 1)
  case joined =>
    rw [flatMap_bytes_fields, List.flatMap_map]
    congr 2
    funext d
    rw [flatMap_bytes_fields_singleton]
    exact (List.drop_left' (length_header 1)).symm
  case sized =>
    refine ⟨_, ds.map fun d => byteCount [d], size_of_isLegal hcount hlegal, ?_, ?_⟩
    · refine List.forall₂_map_right_iff.mpr (List.forall₂_same.mpr fun d hd => ?_)
      exact size_of_isLegal (hone d) (isLegal_fields_singleton hlegal hd)
    · simp [byteCount, Function.comp_def]

/-- A file that was written is a bundle of files that can be written. -/
lemma bundles_of_encode {bytes : List UInt8} (h : encode ds = .ok bytes) :
    ∃ files, Bundles ds bytes files := by
  have hcount : ds.length ≤ maxDefinitions := by
    by_contra hmany
    rw [(refused_of_too_many (Nat.lt_of_not_le hmany)).2] at h
    cases h
  obtain ⟨hlegal, rfl⟩ := isLegal_of_encode h
  exact ⟨_, bundles_of_isLegal hcount hlegal⟩

end DefinitionFile

end SynthGraph
