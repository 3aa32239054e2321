import WorkflowWalk.CommandLine.Arguments

/-!
# Commands

The commands that there are, and how arguments ask for one. First the program takes the command, then
the command takes the arguments that follow it. What neither of them knows is reported together, by
the program.
-/

namespace WorkflowWalk
namespace CommandLine

/-! ## Commands -/

structure RunOptions where
  file : Option String
  template : Option String
  context : Option String
  contextFile : Option String
  maxSteps : Option Int
  asJson : Bool
  live : Bool
deriving DecidableEq, Repr

inductive Command
  | run (options : RunOptions)
  | validate (file : String) (asJson : Bool)
  | analyze (file : String) (asJson : Bool)
  | templates (shown : Option String)
deriving DecidableEq, Repr

/-! ## Interfaces -/

def program : String := "flowreplay"

def jsonSwitch : Switch := ⟨"--json", .nothing⟩

def runInterface : Interface where
  program := program ++ " run"
  operand := .optional "graph"
  switches :=
    [⟨"--template", .text⟩, ⟨"--context", .text⟩, ⟨"--context-file", .text⟩,
      ⟨"--max-steps", .count⟩, jsonSwitch, ⟨"--live", .nothing⟩]
  groups := [⟨["graph", "--template"], true⟩, ⟨["--context", "--context-file"], false⟩]

def fileInterface (command : String) : Interface where
  program := program ++ " " ++ command
  operand := .required "graph"
  switches := [jsonSwitch]
  groups := []

def templatesInterface : Interface where
  program := program ++ " templates"
  operand := .unused
  switches := [⟨"--show", .text⟩]
  groups := []

def interfaces : List (String × Interface) :=
  [("run", runInterface), ("validate", fileInterface "validate"),
    ("analyze", fileInterface "analyze"), ("templates", templatesInterface)]

def mainInterface : Interface where
  program := program
  operand := .command "command" (interfaces.map Prod.fst)
  switches := []
  groups := []

/-! ## Reading commands -/

/-- A fault, and which interface it was found by. -/
structure UsageError where
  program : String
  fault : UsageFault
deriving DecidableEq, Repr

def UsageError.message (error : UsageError) : String :=
  error.program ++ ": error: " ++ error.fault.message

inductive NoCommand
  | help
  | usage (error : UsageError)
deriving DecidableEq, Repr

def Interface.refuse (interface : Interface) (fault : UsageFault) : NoCommand :=
  .usage ⟨interface.program, fault⟩

def Interface.parse (interface : Interface) (arguments : List String) :
    Except NoCommand Reading :=
  (interface.read arguments).mapError fun
    | .help => .help
    | .fault fault => interface.refuse fault

namespace Command

def runOptions (reading : Reading) : RunOptions :=
  { file := reading.operand
    template := reading.text? "--template"
    context := reading.text? "--context"
    contextFile := reading.text? "--context-file"
    maxSteps := reading.count? "--max-steps"
    asJson := reading.has jsonSwitch.name
    live := reading.has "--live" }

def ofReading (name : String) (reading : Reading) : Command :=
  match name with
  | "run" => .run (runOptions reading)
  | "validate" => .validate (reading.operand.getD "") (reading.has jsonSwitch.name)
  | "analyze" => .analyze (reading.operand.getD "") (reading.has jsonSwitch.name)
  | _ => .templates (reading.text? "--show")

def ofArguments (arguments : List String) : Except NoCommand Command := do
  let first ← mainInterface.parse arguments
  let name := first.operand.getD ""
  match interfaces.lookup name with
  | none =>
      throw (mainInterface.refuse (.unknownChoice "command" name (interfaces.map Prod.fst)))
  | some interface =>
      let reading ← interface.parse first.remaining
      match first.extras ++ reading.extras with
      | [] => return ofReading name reading
      | extras => throw (mainInterface.refuse (.unrecognized extras))

end Command
end CommandLine
end WorkflowWalk
