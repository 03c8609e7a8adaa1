import SynthGraph.Number.Decimal
import SynthGraph.Text.Blank

/-!
# Reading numbers

The pieces from which number literals are read (runs of digits, a fraction, an exponent) and the
lenient reading of a number out of a text field, which allows blanks around the number, a sign, a
missing integer or fraction part, single underscores, and the words for infinity and for what is not
a number.
-/

namespace SynthGraph

namespace Literal

/-- The value of a decimal digit. -/
def digitValue (c : Char) : Nat := c.toNat - '0'.toNat

/-- The number that a run of digits spells. -/
def value (cs : List Char) : Nat :=
  cs.foldl (fun n c => 10 * n + digitValue c) 0

/-- The digits at the front of a text, and the rest. -/
def digits (cs : List Char) : List Char × List Char :=
  (cs.takeWhile Char.isDigit, cs.dropWhile Char.isDigit)

/-- A minus sign at the front. -/
def minus : List Char → Bool × List Char
  | '-' :: rest => (true, rest)
  | cs => (false, cs)

/-- A plus or a minus sign at the front. -/
def sign : List Char → Bool × List Char
  | '+' :: rest => (false, rest)
  | cs => minus cs

/-- The exponent after its letter: a sign or none, and at least one digit. -/
def exponent? (cs : List Char) : Option (Int × List Char) :=
  let (negative, cs) := sign cs
  match digits cs with
  | ([], _) => none
  | (ds, rest) => some (if negative then -(value ds : Int) else value ds, rest)

/-- An exponent part, or `0` where there is none. -/
def exponentPart? : List Char → Option (Int × List Char)
  | 'e' :: rest => exponent? rest
  | 'E' :: rest => exponent? rest
  | cs => some (0, cs)

/-- The decimal with these integer digits, fraction digits and exponent. -/
def decimal (negative : Bool) (whole fraction : List Char) (exponent : Int) : Decimal :=
  ⟨negative, value (whole ++ fraction), exponent - fraction.length⟩

/-- The fraction digits after a point, or none without a point. -/
def fractionPart : List Char → List Char × List Char
  | '.' :: rest => digits rest
  | cs => ([], cs)

/-! ### Numbers in text fields -/

/-- An unsigned number: digits with at most one point among or around them, at least one digit, and
an exponent or none. -/
def unsigned? (negative : Bool) (cs : List Char) : Option Decimal :=
  let (whole, rest) := digits cs
  let (fraction, rest) := fractionPart rest
  if whole.isEmpty && fraction.isEmpty then none
  else match exponentPart? rest with
    | some (e, []) => some (decimal negative whole fraction e)
    | _ => none

/-- A number or one of the three words, in any case, with a sign or none. -/
def plain? (F : FloatFormat) (cs : List Char) : Option (FloatDatum F) :=
  let (negative, rest) := sign cs
  let word := String.ofList (rest.map Char.toLower)
  if word = "nan" then some (.nan negative)
  else if word = "inf" ∨ word = "infinity" then some (.infinity negative)
  else (unsigned? negative rest).map (Decimal.toDatum F)

/-- Underscores stand only between other characters, one at a time, and there is at least one. -/
def underscored (cs : List Char) : Bool :=
  cs.contains '_' && cs.head? != some '_' && cs.getLast? != some '_' &&
    !(cs.zip cs.tail).contains ('_', '_')

/-- The number in a text field.  Blanks around it do not count; a text that is no number may still
be one once its single underscores are taken out, but then it has no blanks around it. -/
def field? (F : FloatFormat) (text : String) : Option (FloatDatum F) :=
  let cs := text.toList
  match plain? F (trimBlanks cs) with
  | some x => some x
  | none => if underscored cs then plain? F (cs.filter (· != '_')) else none

end Literal

end SynthGraph
