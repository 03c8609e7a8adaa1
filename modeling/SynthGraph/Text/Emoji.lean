import SynthGraph.Text.Blank
import SynthGraph.Text.EmojiTable
import SynthGraph.Text.Pieces

/-!
# Emoji codes

A name between two colons stands for an emoji, in letters of either case.  A name may ask for the
form of text or of picture after a dash, some names take a skin tone, and the name of a region with
a flag may say that it is one.  A code whose name no emoji has stays as it is, and so does all else.
-/

namespace SynthGraph

namespace Emoji

/-! ### Names -/

/-- The words of a table. -/
def words (lines : List String) : List (List Char) :=
  lines.flatMap fun line => pieces (· == ' ') line.toList

/-- Names with their emoji. -/
def named : List (List Char) := words emojiLines

/-- Names that take a skin tone. -/
def tinted : List (List Char) := words tintedLines

/-- Regions with their codes. -/
def regions : List (List Char) := words regionLines

/-- The word after a name, in a list where each name has one. -/
def wordAfter? (name : List Char) : List (List Char) → Option (List Char)
  | word :: value :: rest => if word = name then some value else wordAfter? name rest
  | _ => none

/-- The skin tones with the characters that ask for them. -/
def skinTones : List (String × Char) :=
  [("light", Char.ofNat 0x1F3FB), ("medium-light", Char.ofNat 0x1F3FC),
    ("medium", Char.ofNat 0x1F3FD), ("medium-dark", Char.ofNat 0x1F3FE),
    ("dark", Char.ofNat 0x1F3FF)]

/-- An emoji in a skin tone, which stands after its first character in the place of the selector of
the picture form. -/
def withTone (tone : Char) : List Char → List Char
  | first :: '\ufe0f' :: rest => first :: tone :: rest
  | first :: rest => first :: tone :: rest
  | [] => []

/-- The emoji of a name that ends with a skin tone. -/
def ofTintedName? (name : List Char) : Option (List Char) :=
  skinTones.findSome? fun (tone, mark) => do
    let base ← List.isSuffixOf? s!"_{tone}_skin_tone".toList name
    if tinted.contains base then (wordAfter? base named).map (withTone mark) else none

/-- The character that stands for a letter in the flag of a region. -/
def regionalIndicator (letter : Char) : Char := Char.ofNat (0x1F1E6 + (letter.toNat - 'A'.toNat))

/-- The flag of the region of a name. -/
def ofRegionName? (name : List Char) : Option (List Char) :=
  let region := (List.isPrefixOf? "flag_for_".toList name).getD name
  (wordAfter? region regions).map fun code => code.map regionalIndicator

/-- The emoji of a name. -/
def ofName? (name : List Char) : Option (List Char) :=
  wordAfter? name named <|> ofTintedName? name <|> ofRegionName? name

/-! ### Codes -/

/-- The small form of a letter: a Latin capital of the first two blocks, or one of the signs of
kelvin and angstrom. -/
def smallLetter (c : Char) : Char :=
  if c.isUpper ∨ (0xC0 ≤ c.toNat ∧ c.toNat ≤ 0xDE ∧ c ≠ '×') then Char.ofNat (c.toNat + 0x20)
  else if c = '\u212a' then 'k'
  else if c = '\u212b' then 'å'
  else c

/-- The forms that a code may ask for, with their selectors. -/
def forms : List (String × Char) := [("-text", '\ufe0e'), ("-emoji", '\ufe0f')]

/-- The emoji of the text between two colons. -/
def ofCode? (code : List Char) : Option (List Char) :=
  let form := forms.findSome? fun (form, selector) =>
    (List.isSuffixOf? form.toList code).map fun name => (name, [selector])
  let (name, selector) := form.getD (code, [])
  (ofName? (name.map smallLetter)).map (· ++ selector)

/-- Replaces codes in the pieces of a text between its colons.  The piece after a colon is a code
when a colon follows it and it holds no blank. -/
def replaceIn : List (List Char) → List Char
  | [] => []
  | [text] => text
  | [text, last] => text ++ ':' :: last
  | text :: code :: next :: rest =>
    if code.any isSpacing then text ++ ':' :: replaceIn (code :: next :: rest)
    else text ++ (ofCode? code).getD (':' :: code ++ [':']) ++ replaceIn (next :: rest)

/-- The text with emoji in the place of their codes. -/
def replaceCodes (cs : List Char) : List Char := replaceIn (pieces (· == ':') cs)

/-- A text without colons has no codes. -/
theorem replaceCodes_of_not_mem {cs : List Char} (h : ':' ∉ cs) : replaceCodes cs = cs := by
  have hp : pieces (· == ':') cs = [cs] := pieces_eq_singleton fun c hc => by
    simpa using fun heq : c = ':' => h (heq ▸ hc)
  simp [replaceCodes, hp, replaceIn]

end Emoji

/-- A text with emoji in the place of their codes. -/
def withEmoji (s : String) : String := String.ofList (Emoji.replaceCodes s.toList)

end SynthGraph
