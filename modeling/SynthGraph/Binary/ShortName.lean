import SynthGraph.Fault

/-!
# Short names

Names are written as one length byte and then their ASCII characters, so a name is legal when all
its characters are ASCII and there are at most 255 of them.  What is not ASCII is refused first.
-/

namespace SynthGraph

/-- All characters are ASCII. -/
def isAscii (s : String) : Bool :=
  s.toList.all (·.toNat < 128)

/-- The characters of an ASCII text as bytes. -/
def asciiBytes (s : String) : List UInt8 :=
  s.toList.map fun c => UInt8.ofNat c.toNat

/-- The bytes of a legal name. -/
def shortName (s : String) : Except Fault (List UInt8) :=
  if isAscii s then
    if s.length ≤ 255 then .ok (asciiBytes s) else .error (.nameTooLong s)
  else .error (.nameNotAscii s)

/-- A name that can be written. -/
def IsShortName (s : String) : Prop :=
  isAscii s = true ∧ s.length ≤ 255

instance (s : String) : Decidable (IsShortName s) :=
  inferInstanceAs (Decidable (_ ∧ _))

/-- The legal names are exactly the short ones. -/
theorem shortName_eq_ok_iff {s : String} {bytes : List UInt8} :
    shortName s = .ok bytes ↔ IsShortName s ∧ bytes = asciiBytes s := by
  unfold shortName IsShortName
  by_cases hascii : isAscii s = true
  · by_cases hlen : s.length ≤ 255
    · rw [if_pos hascii, if_pos hlen]
      exact ⟨fun h => ⟨⟨hascii, hlen⟩, (Except.ok.inj h).symm⟩, fun h => by rw [h.2]⟩
    · rw [if_pos hascii, if_neg hlen]
      exact ⟨fun h => (by cases h), fun h => absurd h.1.2 hlen⟩
  · rw [if_neg hascii]
    exact ⟨fun h => (by cases h), fun h => absurd h.1.1 hascii⟩

/-- Every other name is refused as too long or not ASCII. -/
theorem shortName_of_not_isShortName {s : String} (h : ¬IsShortName s) :
    ∃ e, shortName s = .error e ∧ e.kind = .nameLength := by
  unfold shortName
  by_cases hascii : isAscii s = true
  · have hlong : ¬s.length ≤ 255 := fun hlen => h ⟨hascii, hlen⟩
    exact ⟨.nameTooLong s, by rw [if_pos hascii, if_neg hlong], rfl⟩
  · exact ⟨.nameNotAscii s, by rw [if_neg hascii], rfl⟩

@[simp]
theorem length_asciiBytes (s : String) : (asciiBytes s).length = s.length := by
  simp [asciiBytes, String.length_toList]

end SynthGraph
