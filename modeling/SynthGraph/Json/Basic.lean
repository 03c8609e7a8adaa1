import SynthGraph.Number.Shortest
import SynthGraph.Text.Quoted

/-!
# JSON values

A JSON value keeps whole numbers apart from other numbers and the members of an object in the order
in which they were written, each key once.
-/

namespace SynthGraph

/-- A JSON value. -/
inductive Json where
  | null
  | bool (b : Bool)
  | int (n : Int)
  | float (x : Binary64)
  | str (s : String)
  | arr (items : List Json)
  | obj (members : List (String × Json))

instance : Inhabited Json := ⟨.null⟩

namespace Json

mutual

/-- The text of a value inside another value, where strings stand between quotes. -/
def inner : Json → String
  | null => "None"
  | bool b => if b then "True" else "False"
  | int n => toString n
  | float x => x.text
  | str s => quoted s
  | arr items => "[" ++ ", ".intercalate (innerItems items) ++ "]"
  | obj members => "\x7b" ++ ", ".intercalate (innerMembers members) ++ "\x7d"

/-- The texts of the items of an array. -/
def innerItems : List Json → List String
  | [] => []
  | item :: items => item.inner :: innerItems items

/-- The texts of the members of an object. -/
def innerMembers : List (String × Json) → List String
  | [] => []
  | (key, value) :: members => (quoted key ++ ": " ++ value.inner) :: innerMembers members

end

/-- The text of a value in a message, where a string stands as it is. -/
def shown : Json → String
  | str s => s
  | value => value.inner

end Json

end SynthGraph
