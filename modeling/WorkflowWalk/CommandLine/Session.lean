import WorkflowWalk.CommandLine.Command
import WorkflowWalk.CommandLine.Display
import WorkflowWalk.CommandLine.FileTree
import WorkflowWalk.Verbosity
import WorkflowWalk.Walk.Narration
import WorkflowWalk.Walk.Request

/-!
# Sessions

What a command does: which files it reads, what it prints, and how it exits. A command that is given
what it cannot use says so and exits with 2. A run that failed, and a document with errors, exit
with 1. A session breaks off without an exit if there is no file to read at all, if a home directory
is not known, if the clock gives ticks that cannot be compared, if the environment names a level of
notices that is none, or if the console does not take a text that is to be printed.
-/

namespace WorkflowWalk
namespace CommandLine

open Walk

/-! ## Exits -/

inductive Exit
  | success
  | failure
  | invalidInput
deriving DecidableEq, Repr

def Exit.code : Exit → Nat
  | .success => 0
  | .failure => 1
  | .invalidInput => 2

def Exit.ofSuccess (success : Bool) : Exit :=
  if success then .success else .failure

inductive Crash
  | noFile
  | noHome
  | clock (fault : Time.Instant.Fault)
  | verbosity (fault : Verbosity.Fault)
  | console (reason : String)
deriving DecidableEq, Repr

def Crash.message : Crash → String
  | .noFile => "expected str, bytes or os.PathLike object, not NoneType"
  | .noHome => "Could not determine home directory."
  | .clock fault => fault.message
  | .verbosity fault => fault.message
  | .console reason => reason

inductive Trouble
  | rejected (rejection : Rejection)
  | error (text : String)
  | crash (crash : Crash)

/-- Why a console does not take a text, if it does not. -/
abbrev Console := String → Option String

/-- What a session prints, and how it ends. The live texts come first; each is printed as soon as
it is known. -/
structure Reply where
  live : List String
  texts : List String
  ending : Except Crash Exit

namespace Reply

def printed (reply : Reply) : List String :=
  reply.live ++ reply.texts

/-- A reply as far as a console takes it. -/
def on (console : Console) (reply : Reply) : Reply :=
  let taken := fun text => (console text).isNone
  { live := reply.live.takeWhile taken
    texts := if reply.live.all taken then reply.texts.takeWhile taken else []
    ending :=
      match reply.printed.findSome? console with
      | some reason => .error (.console reason)
      | none => reply.ending }

def output (reply : Reply) : String :=
  CommandLine.printed reply.printed

def done (texts : List String) (success : Bool) : Reply :=
  ⟨[], texts, .ok (.ofSuccess success)⟩

def ofError (text : String) : Reply :=
  ⟨[], ["Error: " ++ text], .ok .invalidInput⟩

def ofTrouble : Trouble → Reply
  | .rejected (.limit fault) => ofError fault.message
  | .rejected rejection =>
      ⟨[], "Invalid workflow document:" :: rejection.errors.map ("- " ++ ·), .ok .invalidInput⟩
  | .error text => ofError text
  | .crash crash => ⟨[], [], .error crash⟩

def ofExcept : Except Trouble Reply → Reply
  | .ok reply => reply
  | .error trouble => .ofTrouble trouble

end Reply

/-! ## Surroundings -/

/-- What a session depends on besides its arguments. -/
structure Surroundings where
  environment : Environment
  files : Files
  clock : Clock
  console : Console

namespace Surroundings

def settings (surroundings : Surroundings) : Settings :=
  .ofEnvironment surroundings.environment

/-! ## Reading files -/

/-- What is said of a file that cannot be opened. A location with a zero character is no location
at all. -/
def openTrouble (what path : String) (fault : OpenFault) : Trouble :=
  match fault with
  | .zeroCharacter => .error fault.message
  | _ => .error ("Cannot read " ++ what ++ " '" ++ path ++ "': " ++ fault.message)

/-- Why a home directory is not known: a name with a zero character is no name of a user. -/
def homeTrouble (what path : String) (location : Location) : Trouble :=
  if (location.names.headD "").toList.contains '\x00' then openTrouble what path .zeroCharacter
  else .crash .noHome

def readText (surroundings : Surroundings) (what path : String) : Except Trouble String := do
  let location := Location.ofText path
  match location.expandHome? surroundings.environment with
  | none => throw (homeTrouble what path location)
  | some location =>
      let bytes ← (surroundings.files location).mapError (openTrouble what path)
      (decodeText bytes).mapError fun fault => .error fault.message

def parseObject (text what : String) : Except Trouble Fields :=
  match Json.read text with
  | .ok (.obj fields) => .ok fields
  | .ok _ => .error (.error (what ++ " must be a JSON object."))
  | .error (.integer fault) => .error (.error fault.message)
  | .error fault => .error (.error (what ++ " is not valid JSON: " ++ fault.message))

def readObject (surroundings : Surroundings) (what path : String) : Except Trouble Fields := do
  let text ← surroundings.readText what path
  parseObject text (what ++ " '" ++ path ++ "'")

/-! ## Running -/

/-- A document to run, and the context to run it with if there is no other. -/
structure Subject where
  document : Document
  context : Context

def templateSubject (surroundings : Surroundings) (id : String) : Except Trouble Subject :=
  match Template.find? id with
  | none => .error (.error (Template.unknownText id))
  | some template => do
      let document ← (template.load surroundings.settings.strictEdges).mapError .rejected
      return ⟨document, .ofFields template.firstContext⟩

def fileSubject (surroundings : Surroundings) : Option String → Except Trouble Subject
  | none => .error (.crash .noFile)
  | some path => do
      let payload ← surroundings.readObject "workflow file" path
      let document ←
        (Document.load surroundings.settings.strictEdges (.obj payload)).mapError .rejected
      return ⟨document, []⟩

/-- What is run. A template without a name counts as none. -/
def subject (surroundings : Surroundings) (options : RunOptions) : Except Trouble Subject :=
  match Diagnostic.given? options.template with
  | some id => surroundings.templateSubject id
  | none => surroundings.fileSubject options.file

def context (surroundings : Surroundings) (options : RunOptions) (usual : Context) :
    Except Trouble Context :=
  match options.context, options.contextFile with
  | some text, _ => .ofFields <$> parseObject text "--context"
  | none, some path => .ofFields <$> surroundings.readObject "context file" path
  | none, none => .ok usual

def setup (surroundings : Surroundings) (options : RunOptions) :
    Except Trouble (Setup Empty) := do
  let subject ← surroundings.subject options
  let context ← surroundings.context options subject.context
  let limit ←
    (Limit.check (options.maxSteps.getD surroundings.settings.maxSteps)).mapError fun fault =>
      .error fault.message
  return { document := subject.document, context, limit, clock := surroundings.clock,
           observer := silent }

def liveTexts (options : RunOptions) (setup : Setup Empty) : List String :=
  if options.live then setup.run.steps.map liveText else []

def traceReply (options : RunOptions) (trace : Trace) : Reply :=
  .done (if options.asJson then [trace.toJson.indented] else traceTexts trace) trace.success

def runReply (options : RunOptions) (setup : Setup Empty) : Reply :=
  let reply : Reply :=
    match setup.execute with
    | .ok trace => traceReply options trace
    | .error (.faulted fault) => .ofError fault.message
    | .error (.clock fault) => .ofTrouble (.crash (.clock fault))
  { reply with live := liveTexts options setup }

def run (surroundings : Surroundings) (options : RunOptions) : Except Trouble Reply :=
  runReply options <$> surroundings.setup options

/-! ## Other commands -/

def validate (surroundings : Surroundings) (path : String) (asJson : Bool) :
    Except Trouble Reply := do
  let payload ← surroundings.readObject "workflow file" path
  let verdict ← (Check.verdict (.obj payload)).mapError fun fault => .error fault.message
  return .done (if asJson then [(verdictJson verdict).indented] else verdictTexts verdict)
    verdict.ok

def analyze (surroundings : Surroundings) (path : String) (asJson : Bool) :
    Except Trouble Reply := do
  let payload ← surroundings.readObject "workflow file" path
  let document ← (Document.load false (.obj payload)).mapError .rejected
  let report := document.report Document.defaultPathLimit
  return .done (if asJson then [report.toJson.indented] else reportTexts report) true

def templates (shown : Option String) : Except Trouble Reply :=
  match Diagnostic.given? shown with
  | none => .ok (.done [templatesTable.text] true)
  | some id =>
      match Template.find? id with
      | some template => .ok (.done [(Json.obj template.workflow).indented] true)
      | none => .error (.error (Template.unknownText id))

def reply (surroundings : Surroundings) (command : Command) : Reply :=
  .ofExcept <|
    match command with
    | .run options => surroundings.run options
    | .validate path asJson => surroundings.validate path asJson
    | .analyze path asJson => surroundings.analyze path asJson
    | .templates shown => templates shown

def validateNotices (surroundings : Surroundings) (path : String) : List Notice :=
  match surroundings.readObject "workflow file" path with
  | .error _ => []
  | .ok payload =>
      match Check.verdict (.obj payload) with
      | .ok verdict => Notice.ofVerdict verdict
      | .error _ => []

def notices (surroundings : Surroundings) (command : Command) : List Notice :=
  match command with
  | .run options =>
      match surroundings.setup options with
      | .ok setup => Notice.ofRun setup
      | .error _ => []
  | .validate path _ => surroundings.validateNotices path
  | .analyze .. | .templates _ => []

/-! ## Sessions -/

def respond (surroundings : Surroundings) (arguments : List String) : Except NoCommand Reply :=
  (fun command => (surroundings.reply command).on surroundings.console) <$>
    Command.ofArguments arguments

/-- The reply to arguments when the level of notices is taken from the environment first. -/
def start (surroundings : Surroundings) (arguments : List String) : Except NoCommand Reply :=
  match Verbosity.choose surroundings.environment none with
  | .error fault => .ok (.ofTrouble (.crash (.verbosity fault)))
  | .ok _ => surroundings.respond arguments

end Surroundings

def Command.paths : Command → List String
  | .run options => options.file.toList ++ options.contextFile.toList
  | .validate path _ => [path]
  | .analyze path _ => [path]
  | .templates _ => []

end CommandLine
end WorkflowWalk
