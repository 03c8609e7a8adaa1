import SynthGraph.Fault
import SynthGraph.Json.Basic

/-!
# Issues of a schema

Checking data against a schema finds issues, each at a place.  The file gives the cause of an issue,
the code by which programs know it, and the message by which people do.
-/

namespace SynthGraph

/-- A step on the way to a place in the data. -/
inductive PathStep where
  | key (name : String)
  | index (n : Nat)
  deriving DecidableEq, Repr

/-- Why data were refused. -/
inductive Problem where
  /-- The text is no JSON. -/
  | notJson
  /-- A key is missing. -/
  | missing
  /-- A key is not known. -/
  | unknownKey
  /-- Not a string. -/
  | notString
  /-- A string without characters. -/
  | tooShort
  /-- A string of more than 255 characters. -/
  | tooLong
  /-- Neither a number nor a string that might hold one. -/
  | notNumber
  /-- A string that holds no number. -/
  | unreadableNumber
  /-- Not one of the texts that are allowed. -/
  | notOneOf (options : List String)
  /-- A record is not an object. -/
  | notRecord
  /-- A choice between records is not an object. -/
  | notChoice
  /-- A field that holds a choice between records is not an object. -/
  | notChoiceField
  /-- Not an array. -/
  | notArray
  /-- Not an array, where the number of elements is part of the type. -/
  | notTuple
  /-- Not a sequence of settings. -/
  | notSequence
  /-- Not a path. -/
  | notPath
  /-- A choice does not say which record it is. -/
  | tagMissing (key : String)
  /-- A choice says that it is a record that does not exist. -/
  | tagUnknown (key shown : String) (options : List String)
  /-- The lower bound of a range exceeds the upper one. -/
  | boundsInverted (low high : Binary64)
  /-- A list of bounds is empty. -/
  | noBounds
  /-- More than one amplitude. -/
  | severalAmplitudes (names : List String)
  /-- A bundle name that is no file stem. -/
  | notFileStem (name : String)
  /-- A bundle name that is no legal name. -/
  | illegalName (fault : Fault)
  deriving DecidableEq

namespace Problem

/-- Texts between apostrophes with a word before the last. -/
def alternatives (word : String) : List String → String
  | [] => ""
  | [a] => "'" ++ a ++ "'"
  | [a, b] => "'" ++ a ++ "'" ++ word ++ "'" ++ b ++ "'"
  | a :: rest => "'" ++ a ++ "', " ++ alternatives word rest

/-- The code of a problem. -/
def code : Problem → String
  | notJson => "json_invalid"
  | missing => "missing"
  | unknownKey => "extra_forbidden"
  | notString => "string_type"
  | tooShort => "string_too_short"
  | tooLong => "string_too_long"
  | notNumber => "float_type"
  | unreadableNumber => "float_parsing"
  | notOneOf _ => "literal_error"
  | notRecord => "model_type"
  | notChoice => "dict_type"
  | notChoiceField => "model_attributes_type"
  | notArray => "list_type"
  | notTuple | notSequence => "tuple_type"
  | notPath => "path_type"
  | tagMissing _ => "union_tag_not_found"
  | tagUnknown .. => "union_tag_invalid"
  | boundsInverted .. | noBounds | severalAmplitudes _ | notFileStem _ | illegalName _ =>
    "value_error"

/-- The message of a problem.  What is wrong with a text that is no JSON is not said. -/
def message? : Problem → Option String
  | notJson => none
  | missing => "Field required"
  | unknownKey => "Extra inputs are not permitted"
  | notString => "Input should be a valid string"
  | tooShort => "String should have at least 1 character"
  | tooLong => "String should have at most 255 characters"
  | notNumber => "Input should be a valid number"
  | unreadableNumber => "Input should be a valid number, unable to parse string as a number"
  | notOneOf options => "Input should be " ++ alternatives " or " options
  | notRecord | notChoice | notChoiceField => "Input should be an object"
  | notArray | notTuple => "Input should be a valid array"
  | notSequence => "Input should be a valid tuple"
  | notPath => "Input is not a valid path for <class 'pathlib.Path'>"
  | tagMissing key => s!"Unable to extract tag using discriminator '{key}'"
  | tagUnknown key shown options =>
    s!"Input tag '{shown}' found using '{key}' does not match any of the expected tags: " ++
      alternatives ", " options
  | boundsInverted low high => s!"Value error, clamp low {low.text} exceeds high {high.text}"
  | noBounds => "Value error, clamp shorthand needs one or two bounds"
  | severalAmplitudes names =>
    "Value error, at most one amp parameter allowed, got " ++ quotedList names
  | notFileStem name => "Value error, bundle name must be a plain file stem, got " ++ quoted name
  | illegalName fault => "Value error, " ++ fault.message

end Problem

/-- A problem and where it is. -/
structure Issue where
  place : List PathStep
  problem : Problem
  deriving DecidableEq

/-- The issue of a part, seen from the whole. -/
def Issue.within (step : PathStep) (issue : Issue) : Issue :=
  { issue with place := step :: issue.place }

end SynthGraph
