import SynthGraph.Json.Reader
import SynthGraph.Schema.Issue

/-!
# Checking data against a schema

A check yields a value or all the issues that were found.  Checks of the parts of a whole are put
together so that the issues of all parts are kept, in the order of the parts.
-/

namespace SynthGraph

/-- A value, or the issues that stand in its way. -/
inductive Checked (α : Type) where
  | valid (value : α)
  | invalid (issues : List Issue)

namespace Checked

variable {α β : Type}

/-- A check that fails with one problem at its own place. -/
def fail (problem : Problem) : Checked α := .invalid [⟨[], problem⟩]

/-- The check of a part, seen from the whole. -/
def within (step : PathStep) : Checked α → Checked α
  | valid a => valid a
  | invalid issues => invalid (issues.map (Issue.within step))

/-- Both checks, with the issues of both. -/
def both : Checked (α → β) → Checked α → Checked β
  | valid f, valid a => valid (f a)
  | valid _, invalid issues => invalid issues
  | invalid issues, valid _ => invalid issues
  | invalid first, invalid second => invalid (first ++ second)

instance : Applicative Checked where
  pure := valid
  seq f a := both f (a ())

/-- A further check of a value that is valid so far. -/
def andThen (c : Checked α) (next : α → Checked β) : Checked β :=
  match c with
  | valid a => next a
  | invalid issues => invalid issues

/-- The checks of the elements of a list, from position `start` on. -/
def listFrom (check : Json → Checked α) : (start : Nat) → List Json → Checked (List α)
  | _, [] => valid []
  | start, item :: items =>
    both (both (valid List.cons) ((check item).within (.index start)))
      (listFrom check (start + 1) items)

/-- The checks of the elements of a list. -/
def list (check : Json → Checked α) (items : List Json) : Checked (List α) :=
  listFrom check 0 items

/-- A key that has to be there. -/
def required (members : List (String × Json)) (key : String) (check : Json → Checked α) :
    Checked α :=
  within (.key key) <|
    match members.lookup key with
    | some value => check value
    | none => fail .missing

/-- A key that may be missing. -/
def optional (members : List (String × Json)) (key : String) (default : α)
    (check : Json → Checked α) : Checked α :=
  match members.lookup key with
  | some value => (check value).within (.key key)
  | none => valid default

/-- No keys but the given ones. -/
def onlyKeys (keys : List String) (members : List (String × Json)) : Checked Unit :=
  match members.filter (fun member => !keys.contains member.1) with
  | [] => valid ()
  | unknown => invalid (unknown.map fun member => ⟨[.key member.1], .unknownKey⟩)

/-! ### Values -/

/-- A string. -/
def string : Json → Checked String
  | .str s => valid s
  | _ => fail .notString

/-- A string of one to 255 characters. -/
def label (value : Json) : Checked String :=
  (string value).andThen fun s =>
    if s.length = 0 then fail .tooShort
    else if 255 < s.length then fail .tooLong
    else valid s

/-- A value or null. -/
def nullable (check : Json → Checked α) : Json → Checked (Option α)
  | .null => valid none
  | value => some <$> check value

/-- A number: a JSON number, a truth value as one or zero, or a string that holds a number. -/
def number : Json → Checked Binary64
  | .int n => valid (.ofInt n)
  | .float x => valid x
  | .bool b => valid (.ofInt (if b then 1 else 0))
  | .str s =>
    match Literal.field? .binary64 s with
    | some x => valid x
    | none => fail .unreadableNumber
  | _ => fail .notNumber

/-- One of some texts, each with what it stands for. -/
def oneOf (options : List (String × α)) (value : Json) : Checked α :=
  let found := match value with
    | .str s => (options.find? (·.1 == s)).map Prod.snd
    | _ => none
  match found with
  | some a => valid a
  | none => fail (.notOneOf (options.map Prod.fst))

/-- An object, whose members are checked further. -/
def object (problem : Problem) (check : List (String × Json) → Checked α) : Json → Checked α
  | .obj members => check members
  | _ => fail problem

/-- An array, whose elements are checked one by one. -/
def array (problem : Problem) (check : Json → Checked α) : Json → Checked (List α)
  | .arr items => list check items
  | _ => fail problem

/-- The check of the value that a text spells. -/
def text (check : Json → Checked α) (s : String) : Checked α :=
  match Json.read? s with
  | some value => check value
  | none => fail .notJson

end Checked

end SynthGraph
