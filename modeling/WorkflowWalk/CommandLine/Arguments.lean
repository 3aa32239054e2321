import WorkflowWalk.Document.BranchTag
import WorkflowWalk.Json.Literal

/-!
# Arguments

How a list of arguments is taken apart. An interface says which options there are and whether there
is an operand. An argument that begins with a hyphen is an option: by its full name, or by any
beginning of it that no other option has, its value after an equals sign or in the next argument.
What looks like a negative number, holds a space or comes after a double hyphen is a word. The first
word is the operand; if the operand is a command, all that follows belongs to it.

All arguments are sorted into words and options first, so an ambiguous option is reported before
anything else. Then they are taken one after the other, and the first that does not fit is reported.
-/

namespace WorkflowWalk
namespace CommandLine

/-! ## Interfaces -/

inductive ValueKind
  | nothing
  | text
  | count
deriving DecidableEq, Repr

structure Switch where
  name : String
  value : ValueKind
deriving DecidableEq, Repr

inductive Operand
  | unused
  | optional (name : String)
  | required (name : String)
  | command (name : String) (choices : List String)
deriving DecidableEq, Repr

/-- Arguments of which at most one may be given. -/
structure Group where
  members : List String
  needed : Bool
deriving DecidableEq, Repr

structure Interface where
  program : String
  operand : Operand
  switches : List Switch
  groups : List Group
deriving DecidableEq, Repr

def helpLetter : String := "-h"

def helpNames : List String := [helpLetter, "--help"]

def Interface.names (interface : Interface) : List String :=
  helpNames ++ interface.switches.map (·.name)

/-! ## Faults -/

inductive UsageFault
  | ambiguous (argument : String) (names : List String)
  | valueMissing (name : String)
  | valueIgnored (name value : String)
  | notInteger (name value : String)
  | notPositive (name : String) (value : Int)
  | excluded (name other : String)
  | unknownChoice (name value : String) (choices : List String)
  | missing (name : String)
  | noneOf (names : List String)
  | unrecognized (arguments : List String)
deriving DecidableEq, Repr

def quoted (value : String) : String :=
  String.ofList (Json.literalString value)

def about (name text : String) : String :=
  "argument " ++ name ++ ": " ++ text

def UsageFault.message : UsageFault → String
  | .ambiguous argument names =>
      "ambiguous option: " ++ argument ++ " could match " ++ String.intercalate ", " names
  | .valueMissing name => about name "expected one argument"
  | .valueIgnored name value => about name ("ignored explicit argument " ++ quoted value)
  | .notInteger name value => about name ("expected an integer, got '" ++ value ++ "'")
  | .notPositive name value => about name ("must be at least 1, got " ++ Numeral.decimal value)
  | .excluded name other => about name ("not allowed with argument " ++ other)
  | .unknownChoice name value choices =>
      about name ("invalid choice: " ++ quoted value ++ " (choose from " ++
        String.intercalate ", " (choices.map quoted) ++ ")")
  | .missing name => "the following arguments are required: " ++ name
  | .noneOf names => "one of the arguments " ++ String.intercalate " " names ++ " is required"
  | .unrecognized arguments => "unrecognized arguments: " ++ String.intercalate " " arguments

inductive Stop
  | help
  | fault (fault : UsageFault)
deriving DecidableEq, Repr

/-! ## Words and options -/

inductive Token
  | word (text : String)
  | mark
  | help (text : String) (value : Option String)
  | switch (text : String) (found : Switch) (value : Option String)
  | unknown (text : String)
deriving DecidableEq, Repr

def markText : String := "--"

def Token.text : Token → String
  | .word text => text
  | .mark => markText
  | .help text _ => text
  | .switch text _ _ => text
  | .unknown text => text

def splitValue (cs : List Char) : List Char × Option String :=
  (cs.takeWhile (· ≠ '='),
    match cs.dropWhile (· ≠ '=') with
    | [] => none
    | _ :: value => some (String.ofList value))

def isDigits (cs : List Char) : Bool :=
  !cs.isEmpty && cs.all fun c => (Text.digit? c).isSome

def isNegativeNumber : List Char → Bool
  | '-' :: rest =>
      let cs := BranchTag.dropLineFeed rest
      let whole := cs.takeWhile (· ≠ '.')
      match cs.dropWhile (· ≠ '.') with
      | [] => isDigits whole
      | _ :: fraction => (whole.isEmpty || isDigits whole) && isDigits fraction
  | _ => false

/-- What is refused of a value that an option for help is given. Letters behind the option of one
letter are options of one letter too, and only those that do not ask for help again are refused. -/
def refused? (name value : String) : Option String :=
  if name = helpLetter ∧ value ≠ "" then
    match value.toList.dropWhile (· = 'h') with
    | [] => none
    | rest => some (String.ofList rest)
  else
    some value

namespace Interface

def named (interface : Interface) (text name : String) (value : Option String) : Token :=
  match interface.switches.find? (·.name = name) with
  | some found => .switch text found value
  | none => .help text (value.bind (refused? name))

/-- The token for an argument that may be the beginning of an option. -/
def abbreviated? (interface : Interface) (text : String) : Except UsageFault (Option Token) :=
  let cs := text.toList
  let (written, value) := splitValue cs
  if markText.toList.isPrefixOf cs then
    match interface.names.filter fun name => written.isPrefixOf name.toList with
    | [] => .ok none
    | [name] => .ok (some (interface.named text name value))
    | names => .error (.ambiguous text names)
  else if helpLetter.toList.isPrefixOf cs then
    .ok (some (.help text (refused? helpLetter (String.ofList (cs.drop helpLetter.length)))))
  else
    .ok none

/-- Whether an argument is no option, whatever the options are. -/
def isWord (text : String) : Bool :=
  match text.toList with
  | ['-'] => true
  | '-' :: _ => false
  | _ => true

def token (interface : Interface) (text : String) : Except UsageFault Token :=
  let (written, value) := splitValue text.toList
  let name := String.ofList written
  if isWord text then
    .ok (.word text)
  else if interface.names.contains text then
    .ok (interface.named text text none)
  else if value.isSome && interface.names.contains name then
    .ok (interface.named text name value)
  else do
    match ← interface.abbreviated? text with
    | some token => return token
    | none =>
        if isNegativeNumber text.toList || text.toList.contains ' ' then return .word text
        else return .unknown text

/-- What arguments are: after the mark that ends the options there are only words. -/
def tokens (interface : Interface) : List String → Except UsageFault (List Token)
  | [] => .ok []
  | text :: rest =>
      if text = markText then
        .ok (.mark :: rest.map .word)
      else do
        let first ← interface.token text
        let others ← interface.tokens rest
        return first :: others

end Interface

/-! ## Readings -/

inductive Given
  | nothing
  | text (value : String)
  | count (value : Int)
deriving DecidableEq, Repr

/-- What has been read: the operand, the options in their order, what belongs to a command, and
what nothing is known about. -/
structure Reading where
  operand : Option String
  switches : List (String × Given)
  remaining : List String
  extras : List String
deriving DecidableEq, Repr

namespace Reading

def empty : Reading :=
  { operand := none, switches := [], remaining := [], extras := [] }

def names (interface : Interface) (reading : Reading) : List String :=
  (match interface.operand, reading.operand with
    | .optional name, some _ => [name]
    | _, _ => []) ++ reading.switches.map Prod.fst

def given? (reading : Reading) (name : String) : Option Given :=
  reading.switches.reverse.lookup name

def has (reading : Reading) (name : String) : Bool :=
  (reading.given? name).isSome

def text? (reading : Reading) (name : String) : Option String :=
  match reading.given? name with
  | some (.text value) => some value
  | _ => none

def count? (reading : Reading) (name : String) : Option Int :=
  match reading.given? name with
  | some (.count value) => some value
  | _ => none

end Reading

namespace Interface

/-- What an argument that is given now excludes and has been given before. -/
def exclusion? (interface : Interface) (reading : Reading) (name : String) : Option String :=
  let others := (interface.groups.filter (·.members.contains name)).flatMap fun group =>
    group.members.filter (· ≠ name)
  others.find? (reading.names interface).contains

def checkGroups (interface : Interface) (reading : Reading) (name : String) : Except Stop Unit :=
  match interface.exclusion? reading name with
  | some other => .error (.fault (.excluded name other))
  | none => .ok ()

def takeOperand (interface : Interface) (reading : Reading) (name text : String) :
    Except Stop Reading := do
  interface.checkGroups reading name
  return { reading with operand := some text }

def value (found : Switch) (text : String) : Except UsageFault Given :=
  match found.value with
  | .nothing => .error (.valueIgnored found.name text)
  | .text => .ok (.text text)
  | .count =>
      match Numeral.readInteger text with
      | .error _ => .error (.notInteger found.name text)
      | .ok number =>
          if number < 1 then .error (.notPositive found.name number) else .ok (.count number)

def takeGiven (interface : Interface) (reading : Reading) (found : Switch) (given : Given) :
    Except Stop Reading := do
  interface.checkGroups reading found.name
  return { reading with switches := reading.switches ++ [(found.name, given)] }

def takeValue (interface : Interface) (reading : Reading) (found : Switch) (text : String) :
    Except Stop Reading := do
  let given ← (value found text).mapError .fault
  interface.takeGiven reading found given

/-- The name of an operand that is still to come. A command is taken apart from others. -/
def pending? (interface : Interface) (reading : Reading) : Option String :=
  match interface.operand, reading.operand with
  | .optional name, none => some name
  | .required name, none => some name
  | _, _ => none

def awaitsCommand (interface : Interface) (reading : Reading) : Bool :=
  match interface.operand, reading.operand with
  | .command .., none => true
  | _, _ => false

def take (interface : Interface) (reading : Reading) : List Token → Except Stop Reading
  | [] => .ok reading
  | .word text :: rest =>
      if interface.awaitsCommand reading then
        .ok { reading with operand := some text, remaining := rest.map Token.text }
      else
        match interface.pending? reading, rest with
        | some name, .mark :: rest => do
            interface.take (← interface.takeOperand reading name text) rest
        | some name, rest => do
            interface.take (← interface.takeOperand reading name text) rest
        | none, rest => interface.take { reading with extras := reading.extras ++ [text] } rest
  | .mark :: rest =>
      if interface.awaitsCommand reading && !rest.isEmpty then
        .ok { reading with operand := some markText, remaining := rest.map Token.text }
      else
        match interface.operand, interface.pending? reading, rest with
        | _, some name, .word text :: rest => do
            interface.take (← interface.takeOperand reading name text) rest
        | .optional _, some _, [] => .ok reading
        | _, _, rest => interface.take { reading with extras := reading.extras ++ [markText] } rest
  | .help _ none :: _ => .error .help
  | .help _ (some value) :: _ =>
      .error (.fault (.valueIgnored (String.intercalate "/" helpNames) value))
  | .switch _ found (some text) :: rest => do
      interface.take (← interface.takeValue reading found text) rest
  | .switch _ found none :: rest =>
      if found.value = .nothing then do
        interface.take (← interface.takeGiven reading found .nothing) rest
      else
        match rest with
        | .word text :: rest => do
            interface.take (← interface.takeValue reading found text) rest
        | _ => .error (.fault (.valueMissing found.name))
  | .unknown text :: rest =>
      interface.take { reading with extras := reading.extras ++ [text] } rest

def checkComplete (interface : Interface) (reading : Reading) : Except UsageFault Reading :=
  match interface.operand, reading.operand with
  | .required name, none => .error (.missing name)
  | .command name _, none => .error (.missing name)
  | _, _ =>
      match interface.groups.find? fun group =>
          group.needed && !group.members.any (reading.names interface).contains with
      | some group => .error (.noneOf group.members)
      | none => .ok reading

def read (interface : Interface) (arguments : List String) : Except Stop Reading := do
  let tokens ← (interface.tokens arguments).mapError .fault
  let reading ← interface.take .empty tokens
  (interface.checkComplete reading).mapError .fault

end Interface
end CommandLine
end WorkflowWalk
