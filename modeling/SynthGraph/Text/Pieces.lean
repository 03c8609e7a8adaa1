/-!
# Pieces of a text

The pieces between the characters of some class, of which a text has one more than it has such
characters.
-/

namespace SynthGraph

/-- The pieces of a text between the characters that satisfy a test. -/
def pieces (divides : Char → Bool) : List Char → List (List Char)
  | [] => [[]]
  | c :: cs =>
    if divides c then [] :: pieces divides cs
    else
      match pieces divides cs with
      | [] => [[c]]
      | piece :: rest => (c :: piece) :: rest

/-- There is always a piece. -/
theorem pieces_ne_nil (divides : Char → Bool) (cs : List Char) : pieces divides cs ≠ [] := by
  cases cs with
  | nil => simp [pieces]
  | cons c cs =>
    simp only [pieces]
    split
    · simp
    · split <;> simp

/-- A text that nothing divides is one piece. -/
theorem pieces_eq_singleton {divides : Char → Bool} {cs : List Char}
    (h : ∀ c ∈ cs, divides c = false) : pieces divides cs = [cs] := by
  induction cs with
  | nil => rfl
  | cons c cs ih =>
    have hcs := ih fun d hd => h d (List.mem_cons_of_mem c hd)
    simp [pieces, h c List.mem_cons_self, hcs]

/-- The pieces hold the characters that do not divide the text. -/
theorem flatten_pieces (divides : Char → Bool) (cs : List Char) :
    (pieces divides cs).flatten = cs.filter (!divides ·) := by
  induction cs with
  | nil => rfl
  | cons c cs ih =>
    by_cases h : divides c
    · simp [pieces, h, ih]
    · cases hp : pieces divides cs with
      | nil => exact absurd hp (pieces_ne_nil divides cs)
      | cons piece rest => simpa [pieces, h, hp] using ih

/-- The pieces with the character that divided them between them are the text. -/
theorem intercalate_pieces (c : Char) (cs : List Char) :
    [c].intercalate (pieces (· == c) cs) = cs := by
  induction cs with
  | nil => rfl
  | cons d cs ih =>
    cases hp : pieces (· == c) cs with
    | nil => exact absurd hp (pieces_ne_nil _ cs)
    | cons piece rest =>
      rw [hp] at ih
      by_cases h : d = c
      · subst h
        simpa [pieces, hp] using ih
      · cases rest <;> simp_all [pieces]

end SynthGraph
