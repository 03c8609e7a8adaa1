import SynthGraph.Text.Printable

/-!
# Quoted text

Messages show names between quotes.  The quote is an apostrophe, unless the text holds an apostrophe
and no double quote.  The quote itself and the backslash are escaped with a backslash, and what is
not printable is shown by its code point.
-/

namespace SynthGraph

namespace Quoted

/-- A number in lower-case hexadecimal with at least `width` digits. -/
def hexDigits (width n : Nat) : List Char :=
  let ds := Nat.toDigits 16 n
  List.replicate (width - ds.length) '0' ++ ds

/-- The code point of a character after a backslash, in two, four or eight digits. -/
def codePoint (c : Char) : List Char :=
  if c.toNat < 0x100 then '\\' :: 'x' :: hexDigits 2 c.toNat
  else if c.toNat < 0x10000 then '\\' :: 'u' :: hexDigits 4 c.toNat
  else '\\' :: 'U' :: hexDigits 8 c.toNat

/-- One character inside the quotes. -/
def escape (quote c : Char) : List Char :=
  if c = quote ∨ c = '\\' then ['\\', c]
  else if c = '\n' then ['\\', 'n']
  else if c = '\r' then ['\\', 'r']
  else if c = '\t' then ['\\', 't']
  else if isPrintable c then [c]
  else codePoint c

/-- The quote that needs the fewer escapes, an apostrophe if in doubt. -/
def quoteOf (cs : List Char) : Char :=
  if cs.contains '\'' && !cs.contains '"' then '"' else '\''

end Quoted

/-- A text between quotes. -/
def quoted (s : String) : String :=
  let cs := s.toList
  let quote := Quoted.quoteOf cs
  String.ofList (quote :: cs.flatMap (Quoted.escape quote) ++ [quote])

/-- Texts between quotes in brackets, with commas between them. -/
def quotedList (ss : List String) : String :=
  "[" ++ ", ".intercalate (ss.map quoted) ++ "]"

end SynthGraph
