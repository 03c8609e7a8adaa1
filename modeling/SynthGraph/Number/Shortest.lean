import SynthGraph.Number.Decimal

/-!
# The shortest decimal that reads back

A finite datum is printed with as few significant digits as still read back to it.  On each grid of
decimals with a given number of digits only the two neighbours of the value need a look, so the
search tries one digit, two digits and so on, and takes the first grid on which a neighbour reads
back, of two the nearer one.
-/

namespace SynthGraph

-- Powers are those of the core library, also where a larger library brings its own.
attribute [local instance (2000)] instPowNat

namespace Shortest

/-- The number of decimal digits of `n`, one for zero. -/
def digitCount (n : Nat) : Nat :=
  (Nat.toDigits 10 n).length

/-- The magnitude with this code lies below ten to this power, and not below a tenth of it. -/
def position (F : FloatFormat) (code : Nat) : Int :=
  digitCount (F.units code * 10 ^ F.leastExponent / 2 ^ F.leastExponent) - (F.leastExponent : Int)

/-- Reading `m · 10 ^ e` gives the code back. -/
def readsBack (F : FloatFormat) (code m : Nat) (e : Int) : Bool :=
  F.nearest (m * 10 ^ e.toNat * 2 ^ F.leastExponent) (10 ^ (-e).toNat) == code

/-- The better of the two decimals `m · 10 ^ e` around a magnitude, where there is one that reads
back. -/
def neighbour? (F : FloatFormat) (code : Nat) (e : Int) : Option Nat :=
  let n := F.units code * 10 ^ (-e).toNat
  let d := 2 ^ F.leastExponent * 10 ^ e.toNat
  let below := n / d
  match readsBack F code below e, readsBack F code (below + 1) e with
  | true, true => some (roundDiv n d)
  | true, false => some below
  | false, true => some (below + 1)
  | false, false => none

/-- Searches the grids of `digits` significant digits and finer ones. -/
def search (F : FloatFormat) (code : Nat) (top : Int) : (digits fuel : Nat) → Nat × Int
  | _, 0 => (0, 0)
  | digits, fuel + 1 =>
    match neighbour? F code (top - digits) with
    | some m => (m, top - digits)
    | none => search F code top (digits + 1) fuel

/-- The digits and the power of ten of the shortest decimal for a finite positive code.  A grid of
as many digits as the format has fraction bits is finer than the format, so the search ends. -/
def digits (F : FloatFormat) (code : Nat) : Nat × Int :=
  search F code (position F code) 1 F.fractionBits

end Shortest

/-! ### Number text -/

namespace NumberText

/-- The digits without their trailing zeros. -/
def significant (cs : List Char) : List Char :=
  (cs.reverse.dropWhile (· == '0')).reverse

/-- At least two digits. -/
def twoDigits (n : Nat) : String :=
  if n < 10 then "0" ++ toString n else toString n

/-- Digits with the decimal point after the first `point` of them: written out when the number is at
least `0.0001` and below ten to the sixteenth, else with a power of ten. -/
def layout (cs : List Char) (point : Int) : String :=
  if -4 < point ∧ point ≤ 16 then
    if point ≤ 0 then
      "0." ++ String.ofList (List.replicate (-point).toNat '0' ++ cs)
    else if cs.length ≤ point.toNat then
      String.ofList (cs ++ List.replicate (point.toNat - cs.length) '0') ++ ".0"
    else
      String.ofList (cs.take point.toNat) ++ "." ++ String.ofList (cs.drop point.toNat)
  else
    let mantissa := match cs with
      | [] => "0"
      | [c] => c.toString
      | c :: rest => c.toString ++ "." ++ String.ofList rest
    mantissa ++ (if point ≤ 0 then "e-" else "e+") ++ twoDigits (point - 1).natAbs

/-- The text of a magnitude. -/
def magnitude (F : FloatFormat) (code : Nat) : String :=
  if code = F.infinity then "inf"
  else if code = 0 then "0.0"
  else
    let (m, e) := Shortest.digits F code
    let cs := Nat.toDigits 10 m
    layout (significant cs) (cs.length + e)

end NumberText

/-- The text of a datum: the shortest digits that read back, with a decimal point or an exponent,
and `inf`, `-inf` and `nan` for what has no digits. -/
def FloatDatum.text {F : FloatFormat} : FloatDatum F → String
  | .nan _ => "nan"
  | .signed negative c => (if negative then "-" else "") ++ NumberText.magnitude F c

end SynthGraph
