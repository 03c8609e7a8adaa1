import SynthGraph.Json.Basic
import SynthGraph.Number.Literal

/-!
# Reading JSON

A reader for strict JSON: four blanks, no comments, no trailing commas, no raw control characters in
strings, and no escape for half of a surrogate pair.  Beyond the standard it takes the words `NaN`,
`Infinity` and `-Infinity` for numbers.  A key that stands more than once in an object counts once,
at its first place and with its last value.  Each reader takes the text that is left and returns
what it read with the text after it.
-/

namespace SynthGraph

namespace Json

/-- How deep arrays and objects with content may be nested. -/
def nestingLimit : Nat := 200

/-- How many digits a whole number may have. -/
def digitLimit : Nat := 4300

/-- The four blanks between tokens. -/
def isGap (c : Char) : Bool := c == ' ' || c == '\t' || c == '\n' || c == '\r'

/-- The text without the blanks at its front. -/
def skipGaps (cs : List Char) : List Char := cs.dropWhile isGap

/-! ### Strings -/

/-- The value of a hexadecimal digit. -/
def hexValue? (c : Char) : Option Nat :=
  if c.isDigit then some (c.toNat - '0'.toNat)
  else if 'a' ≤ c ∧ c ≤ 'f' then some (c.toNat - 'a'.toNat + 10)
  else if 'A' ≤ c ∧ c ≤ 'F' then some (c.toNat - 'A'.toNat + 10)
  else none

/-- The number that four hexadecimal digits spell. -/
def hexNumber? (a b c d : Char) : Option Nat := do
  return ((← hexValue? a) * 16 + (← hexValue? b)) * 256 + (← hexValue? c) * 16 + (← hexValue? d)

/-- The first half of a surrogate pair. -/
def isHighHalf (n : Nat) : Bool := 0xD800 ≤ n && n < 0xDC00

/-- The second half of a surrogate pair. -/
def isLowHalf (n : Nat) : Bool := 0xDC00 ≤ n && n < 0xE000

/-- The character of a surrogate pair. -/
def pairChar (high low : Nat) : Char :=
  Char.ofNat (0x10000 + (high - 0xD800) * 0x400 + (low - 0xDC00))

/-- The character that a letter stands for after a backslash. -/
def escapedChar? : Char → Option Char
  | '"' => some '"'
  | '\\' => some '\\'
  | '/' => some '/'
  | 'b' => some '\x08'
  | 'f' => some '\x0c'
  | 'n' => some '\n'
  | 'r' => some '\r'
  | 't' => some '\t'
  | _ => none

/-- One character of a string, after whose opening quote the text stands, and the text after it. -/
def stringChar? : List Char → Option (Char × List Char)
  | '\\' :: 'u' :: a :: b :: c :: d :: rest => do
    let n ← hexNumber? a b c d
    if isHighHalf n then
      match rest with
      | '\\' :: 'u' :: e :: f :: g :: h :: rest =>
        let low ← hexNumber? e f g h
        if isLowHalf low then some (pairChar n low, rest) else none
      | _ => none
    else if isLowHalf n then none
    else some (Char.ofNat n, rest)
  | '\\' :: c :: rest => (escapedChar? c).map (·, rest)
  | c :: rest => if c.toNat < 0x20 then none else some (c, rest)
  | [] => none

/-- The rest of a string after its opening quote, at most `fuel` characters of it. -/
def stringTail? : (fuel : Nat) → List Char → Option (List Char × List Char)
  | 0, _ => none
  | fuel + 1, cs =>
    match cs with
    | '"' :: rest => some ([], rest)
    | _ =>
      match stringChar? cs with
      | none => none
      | some (c, rest) => (stringTail? fuel rest).map fun (cs, rest) => (c :: cs, rest)

/-- A string after its opening quote. -/
def string? (cs : List Char) : Option (String × List Char) :=
  (stringTail? cs.length cs).map fun (content, rest) => (String.ofList content, rest)

/-! ### Numbers -/

/-- The fraction digits after a point, of which there has to be one, or none without a point. -/
def fraction? : List Char → Option (List Char × List Char)
  | '.' :: rest =>
    match Literal.digits rest with
    | ([], _) => none
    | (ds, rest) => some (ds, rest)
  | cs => some ([], cs)

/-- No leading zero, and not too many digits. -/
def wholeDigits (ds : List Char) : Bool :=
  !ds.isEmpty && (ds.length == 1 || ds.head? != some '0') && decide (ds.length ≤ digitLimit)

/-- An unsigned number.  It is whole when it has neither a point nor an exponent. -/
def unsigned? (negative : Bool) (cs : List Char) : Option (Json × List Char) :=
  let (whole, rest) := Literal.digits cs
  if !wholeDigits whole then none
  else
    match fraction? rest with
    | none => none
    | some (fraction, afterFraction) =>
      match Literal.exponentPart? afterFraction with
      | none => none
      | some (e, left) =>
        if left.length = rest.length then
          some (.int (if negative then -(Literal.value whole : Int) else Literal.value whole), left)
        else
          some (.float ((Literal.decimal negative whole fraction e).toDatum .binary64), left)

/-- The text after a word, when the text starts with it. -/
def afterWord? (word cs : List Char) : Option (List Char) :=
  if word.isPrefixOf cs then some (cs.drop word.length) else none

/-- The words, each with the value that it stands for. -/
def words : List (List Char × Json) :=
  [("null".toList, .null), ("true".toList, .bool true), ("false".toList, .bool false),
    ("NaN".toList, .float (.nan false)), ("Infinity".toList, .float (.infinity false)),
    ("-Infinity".toList, .float (.infinity true))]

/-- A word or a number. -/
def scalar? (cs : List Char) : Option (Json × List Char) :=
  match words.findSome? fun (word, value) => (afterWord? word cs).map (value, ·) with
  | some result => some result
  | none =>
    let (negative, rest) := Literal.minus cs
    unsigned? negative rest

/-! ### Members -/

/-- Members with the value of one key set: in its place where the key is there, else at the end. -/
def setMember (members : List (String × Json)) (key : String) (value : Json) :
    List (String × Json) :=
  if members.any (·.1 == key) then
    members.map fun member => if member.1 == key then (key, value) else member
  else members ++ [(key, value)]

/-- Setting a member adds at most its own key. -/
theorem nodup_setMember {members : List (String × Json)} (h : (members.map Prod.fst).Nodup)
    (key : String) (value : Json) : ((setMember members key value).map Prod.fst).Nodup := by
  unfold setMember
  split
  · have hkeys : (members.map fun member =>
        if member.1 == key then (key, value) else member).map Prod.fst = members.map Prod.fst := by
      simp only [List.map_map]
      refine List.map_congr_left fun member _ => ?_
      simp only [Function.comp]
      split <;> simp_all
    rw [hkeys]
    exact h
  · rename_i hnone
    simp only [List.map_append, List.map_cons, List.map_nil]
    refine List.nodup_append.2 ⟨h, by simp, ?_⟩
    intro a ha b hb
    simp only [List.mem_singleton] at hb
    rintro rfl
    simp_all

/-- Members as they were written, with each key once. -/
def mergeMembers (members : List (String × Json)) : List (String × Json) :=
  members.foldl (fun merged member => setMember merged member.1 member.2) []

/-- Merged members have distinct keys. -/
theorem nodup_mergeMembers (members : List (String × Json)) :
    ((mergeMembers members).map Prod.fst).Nodup := by
  suffices h : ∀ merged : List (String × Json), (merged.map Prod.fst).Nodup →
      ((members.foldl (fun merged member => setMember merged member.1 member.2) merged).map
        Prod.fst).Nodup from h [] List.nodup_nil
  induction members with
  | nil => exact fun _ h => h
  | cons member members ih => exact fun _ h => ih _ (nodup_setMember h _ _)

/-! ### Values -/

mutual

/-- A value, before which there may be blanks.  `depth` is how deep it may still be nested. -/
def value? : (fuel depth : Nat) → List Char → Option (Json × List Char)
  | 0, _, _ => none
  | fuel + 1, depth, cs =>
    match skipGaps cs with
    | '"' :: rest => (string? rest).map fun (s, rest) => (.str s, rest)
    | '[' :: rest =>
      match skipGaps rest with
      | ']' :: rest => some (.arr [], rest)
      | rest =>
        if depth = 0 then none
        else (items? fuel (depth - 1) rest).map fun (items, rest) => (.arr items, rest)
    | '\x7b' :: rest =>
      match skipGaps rest with
      | '\x7d' :: rest => some (.obj [], rest)
      | rest =>
        if depth = 0 then none
        else
          (members? fuel (depth - 1) rest).map fun (members, rest) =>
            (.obj (mergeMembers members), rest)
    | cs => scalar? cs

/-- The items of an array up to its end, of which there is at least one. -/
def items? : (fuel depth : Nat) → List Char → Option (List Json × List Char)
  | 0, _, _ => none
  | fuel + 1, depth, cs =>
    match value? fuel depth cs with
    | none => none
    | some (item, rest) =>
      match skipGaps rest with
      | ',' :: rest => (items? fuel depth rest).map fun (items, rest) => (item :: items, rest)
      | ']' :: rest => some ([item], rest)
      | _ => none

/-- The members of an object as they stand up to its end, of which there is at least one. -/
def members? : (fuel depth : Nat) → List Char → Option (List (String × Json) × List Char)
  | 0, _, _ => none
  | fuel + 1, depth, cs =>
    match skipGaps cs with
    | '"' :: rest =>
      match string? rest with
      | none => none
      | some (key, rest) =>
        match skipGaps rest with
        | ':' :: rest =>
          match value? fuel depth rest with
          | none => none
          | some (value, rest) =>
            match skipGaps rest with
            | ',' :: rest =>
              (members? fuel depth rest).map fun (members, rest) => ((key, value) :: members, rest)
            | '\x7d' :: rest => some ([(key, value)], rest)
            | _ => none
        | _ => none
    | _ => none

end

/-- The value that a text spells, with nothing but blanks around it.  Each step of the reader is
paid for by a character or by the bracket before it, so twice the length is enough. -/
def read? (text : String) : Option Json :=
  let cs := text.toList
  match value? (2 * cs.length + 2) nestingLimit cs with
  | some (value, rest) => if (skipGaps rest).isEmpty then some value else none
  | none => none

/-- The value that bytes spell in UTF-8. -/
def readBytes? (bytes : List UInt8) : Option Json := do
  let text ← String.fromUTF8? ⟨bytes.toArray⟩
  read? text

end Json

end SynthGraph
