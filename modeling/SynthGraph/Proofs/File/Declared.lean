import SynthGraph.Proofs.Binary.Declared
import SynthGraph.Proofs.File.Decode

/-!
# Files in buffers of every size

The size of a file is counted before anything is written.  Whatever size a buffer is declared with,
the count decides what becomes of the fields of a file that operations lead to: only a buffer of
exactly that size is handed out, and too small a one refuses the first write that goes past its end.
-/

namespace SynthGraph

namespace DefinitionFile

variable {ds : List Definition}

/-- The file of at most `32767` reachable definitions has a size, and it decides what becomes of the
fields of the file. -/
lemma exists_size_decides (hcount : ds.length ≤ maxDefinitions)
    (hds : ∀ d ∈ ds, d.Reachable ∧ d.CountsFit) :
    ∃ n, size ds = .ok n ∧ DecidedBySize (fields ds) n := by
  have hdecided := Field.decidedBySize_of_isLegal (isLegal_fields hcount hds)
  have hcheck : checkCount ds = .ok () := if_neg (Nat.not_lt.mpr hcount)
  exact ⟨_, bind_eq_ok.mpr ⟨_, hcheck, hdecided.counted⟩, hdecided⟩

/-- The size that is counted for legal fields decides what becomes of them in a buffer of any
declared size.  This holds of the fields of every file of definitions that operations lead to, with
counts of thirty-two bits; of more than `32767` definitions no size is counted and no field is
written. -/
theorem size_decides :
    (∀ fs : List Field, (∀ f ∈ fs, f.IsLegal) → ∃ n, DecidedBySize fs n) ∧
      ∀ ds : List Definition, (∀ d ∈ ds, d.Reachable ∧ d.CountsFit) →
        (∃ n, size ds = .ok n ∧ DecidedBySize (fields ds) n) ∨
          (32767 < ds.length ∧ size ds = .error (.tooManyDefinitions ds.length) ∧
            encode ds = .error (.tooManyDefinitions ds.length)) := by
  refine ⟨fun fs hfs => ⟨_, Field.decidedBySize_of_isLegal hfs⟩, fun ds hds => ?_⟩
  rcases Nat.lt_or_ge maxDefinitions ds.length with hmany | hcount
  · exact .inr ⟨hmany, refused_of_too_many hmany⟩
  · exact .inl (exists_size_decides hcount hds)

/-- Fields of every kind, with an empty name and no bytes at the end. -/
def mixedFields : List Field :=
  [.raw [83, 67], .int .int16 (-3), .single (.ofInt 1), .name "ab", .int .int8 7, .name "", .raw []]

/-- The fields take `13` bytes, and a buffer of ten of them has room for the length of the first
name but not for its text; a file of a finished and an unfinished definition has a size as well. -/
theorem size_decides_mixedFields :
    (∀ f ∈ mixedFields, f.IsLegal) ∧ DecidedBySize mixedFields 13 ∧
      ((⟨10, #[]⟩ : Buffer).writeAll mixedFields).1 = .error (.overflow 2 9 10) ∧
      (∀ d ∈ [sine, unfinished], d.Reachable ∧ d.CountsFit) ∧
      ∃ n, size [sine, unfinished] = .ok n ∧ DecidedBySize (fields [sine, unfinished]) n := by
  have hlegal : ∀ f ∈ mixedFields, f.IsLegal := by decide +kernel
  obtain ⟨n, hdecided⟩ := size_decides.1 mixedFields hlegal
  have hcounted : Field.totalSize mixedFields = .ok 13 := by decide +kernel
  obtain rfl : n = 13 := Except.ok.inj (hdecided.counted.symm.trans hcounted)
  refine ⟨hlegal, hdecided, by decide +kernel, reachable_sine_unfinished, ?_⟩
  rcases size_decides.2 [sine, unfinished] reachable_sine_unfinished with hsize | ⟨hmany, -⟩
  · exact hsize
  · exact absurd hmany (by decide)

end DefinitionFile

end SynthGraph
