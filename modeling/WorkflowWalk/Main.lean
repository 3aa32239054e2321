import Std.Time.DateTime.Timestamp
import WorkflowWalk.CommandLine.Session

/-!
# The program

Reads the environment, the files that the arguments name and the clock, and prints what the session
replies. All ticks of a run are the time at which the session began.
-/

namespace WorkflowWalk
namespace CommandLine

/-! ## Surroundings -/

def usedVariables : List String :=
  ["FLOWREPLAY_MAX_STEPS", "FLOWREPLAY_STRICT_EDGES", "FLOWREPLAY_STEP_DELAY_SECONDS", "HOME"] ++
    Verbosity.levelVariables

def readEnvironment : IO Environment :=
  usedVariables.filterMapM fun name => do
    return (← IO.getEnv name).map fun value => (name, value)

/-- Why the system could not open a file, by the number of its error, which may be given as a
negative one. -/
def openFault (number : UInt32) (reason : String) : OpenFault :=
  match min number (0 - number) with
  | 2 => .missing
  | 13 => .other "Permission denied"
  | 20 => .notDirectory
  | 21 => .directory
  | 36 => .nameTooLong
  | _ => .other reason

def openFaultOf : IO.Error → OpenFault
  | .noFileOrDirectory _ number reason => openFault number reason
  | .inappropriateType _ number reason => openFault number reason
  | .invalidArgument _ number reason => openFault number reason
  | .permissionDenied _ number reason => openFault number reason
  | .otherError number reason => openFault number reason
  | error => .other (toString error)

def readFile (location : Location) : IO (Except OpenFault (List UInt8)) := do
  if location.text.toList.contains '\x00' then
    return .error .zeroCharacter
  try
    let bytes ← IO.FS.readBinFile location.text
    return .ok bytes.toList
  catch error =>
    return .error (openFaultOf error)

def readFiles (environment : Environment) (command : Command) : IO Files := do
  let locations :=
    command.paths.filterMap fun path => (Location.ofText path).expandHome? environment
  let found ← locations.mapM fun location => return (location, ← readFile location)
  return fun location => (found.lookup location).getD (.error .missing)

def presentTick : IO String := do
  let time ← Std.Time.Timestamp.now
  let microseconds := time.toNanosecondsSinceUnixEpoch.val / 1000
  let epoch : Time.Instant := ⟨Time.Calendar.dayNumber ⟨1970, 1, 1⟩ * Time.day, some 0⟩
  return (epoch.later microseconds).text

/-! ## Printing -/

/-- The bytes of a text are printed, and half of a surrogate pair has none. -/
def standardOutput : Console := fun text =>
  match Text.plain? text with
  | .ok _ => none
  | .error halves => some halves.message

def pauseLength (delay : Binary64) : Nat :=
  ((delay.scale 1000).truncate?.getD 0).toNat

/-- Prints a reply, with a pause after each live text, and gives the code of the exit. -/
def printReply (settings : Settings) (reply : Reply) : IO UInt32 := do
  let output ← IO.getStdout
  for text in reply.live do
    output.putStr (printed [text])
    output.flush
    IO.sleep (pauseLength settings.stepDelay).toUInt32
  output.putStr (printed reply.texts)
  output.flush
  match reply.ending with
  | .ok exit => return exit.code.toUInt32
  | .error crash => do
      (← IO.getStderr).putStrLn crash.message
      return 1

def answer (arguments : List String) : IO UInt32 := do
  let environment ← readEnvironment
  let tick ← presentTick
  let files ← match Command.ofArguments arguments with
    | .ok command => readFiles environment command
    | .error _ => pure fun _ => .error .missing
  let surroundings : Surroundings :=
    { environment, files, clock := fun _ => tick, console := standardOutput }
  match surroundings.start arguments with
  | .ok reply => printReply surroundings.settings reply
  | .error .help => return 0
  | .error (.usage error) => do
      (← IO.getStderr).putStrLn error.message
      return 2

end CommandLine
end WorkflowWalk

def main (arguments : List String) : IO UInt32 :=
  WorkflowWalk.CommandLine.answer arguments
