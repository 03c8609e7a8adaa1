import SynthGraph.Text.DecimalDigit

/-!
# Command-line options

How a command tells options from values.  A long option may be shortened to any beginning that no
other option shares, and may carry its value after an equals sign; a negative number and a text with
a blank are values although they start with a dash; and after two dashes everything is a value.
-/

namespace SynthGraph

namespace CommandLine

/-- An option of a command: a request for help, or a name with a value. -/
inductive OptionName where
  | help
  | named (name : String)
  deriving DecidableEq, Repr

/-- How an option is written in full. -/
def OptionName.long : OptionName → String
  | help => "--help"
  | named name => "--" ++ name

/-- What an argument is to a command. -/
inductive Argument where
  /-- A value. -/
  | value (text : String)
  /-- The two dashes before values. -/
  | dashes
  /-- An option, with the text after its equals sign. -/
  | option (name : OptionName) (attached : Option String)
  /-- A help flag with something after it that it does not take. -/
  | spoiledHelp
  /-- An option that the command does not know. -/
  | unknown
  /-- A beginning that several options share. -/
  | ambiguous
  deriving DecidableEq, Repr

/-- At least one digit, and then nothing or the end of the line. -/
def isDigitsToEnd (cs : List Char) : Bool :=
  cs.head?.any isDecimalDigit &&
    (cs.dropWhile isDecimalDigit == [] || cs.dropWhile isDecimalDigit == ['\n'])

/-- A negative number, whole or with a point, in the digits of any script. -/
def isNegativeNumber : List Char → Bool
  | '-' :: cs =>
    isDigitsToEnd cs ||
      match cs.dropWhile isDecimalDigit with
      | '.' :: fraction => isDigitsToEnd fraction
      | _ => false
  | _ => false

/-- A text up to its first equals sign, and what stands after that sign. -/
def splitEquals (cs : List Char) : List Char × Option (List Char) :=
  match cs.dropWhile (· != '=') with
  | [] => (cs, none)
  | _ :: attached => (cs.takeWhile (· != '='), some attached)

/-- What is left of an argument that is no option of the command. -/
def classifyUnknown (arg : String) : Argument :=
  if isNegativeNumber arg.toList || arg.toList.contains ' ' then .value arg else .unknown

/-- An argument that starts with two dashes. -/
def classifyLong (options : List OptionName) (arg : String) : Argument :=
  if options.any (·.long == arg) then
    match options.find? (·.long == arg) with
    | some o => .option o none
    | none => .unknown
  else
    let (beginning, attached) := splitEquals arg.toList
    let attached := attached.map String.ofList
    match options.find? (·.long.toList == beginning) with
    | some o => .option o attached
    | none =>
      match options.filter fun o => beginning.isPrefixOf o.long.toList with
      | [] => classifyUnknown arg
      | [o] => .option o attached
      | _ => .ambiguous

/-- The short help flag and what follows it: nothing but repetitions of the flag, which may stand
after an equals sign. -/
def classifyShortHelp (rest : List Char) : Argument :=
  let repeats := match rest with
    | '=' :: flags => !flags.isEmpty && flags.all (· == 'h')
    | flags => flags.all (· == 'h')
  if repeats then .option .help none else .spoiledHelp

/-- What an argument before the two dashes is to a command with these options. -/
def classify (options : List OptionName) (arg : String) : Argument :=
  match arg.toList with
  | ['-', '-'] => .dashes
  | '-' :: '-' :: _ => classifyLong options arg
  | '-' :: 'h' :: rest => classifyShortHelp rest
  | '-' :: _ :: _ => classifyUnknown arg
  | _ => .value arg

/-- What arguments are to a command. -/
def classifyAll (options : List OptionName) : List String → List Argument
  | [] => []
  | arg :: args =>
    match classify options arg with
    | .dashes => .dashes :: args.map .value
    | a => a :: classifyAll options args

end CommandLine

end SynthGraph
