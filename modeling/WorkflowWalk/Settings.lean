import WorkflowWalk.Number.Numeral
import WorkflowWalk.Text.LetterCase

/-!
# Settings

The limit of steps, whether edges have to be strict, and the pause after a step that is shown live.
They are read from the environment; what is missing, empty or not understood has its default.
-/

namespace WorkflowWalk

open Text

abbrev Environment := List (String × String)

def Environment.value? (environment : Environment) (name : String) : Option String :=
  (environment.lookup name).filter (· ≠ "")

structure Settings where
  maxSteps : Int
  strictEdges : Bool
  stepDelay : Binary64
deriving DecidableEq, Repr

namespace Settings

def defaultMaxSteps : Int := 100

def default : Settings :=
  { maxSteps := defaultMaxSteps, strictEdges := false, stepDelay := .finite false 0 }

/-! ## Values of variables -/

def readSwitch? (text : String) : Option Bool :=
  let word := lower (strip text)
  if ["1", "true", "yes", "on"].contains word then some true
  else if ["0", "false", "no", "off"].contains word then some false
  else none

/-- Reads a limit of steps; one below 1 is not understood. -/
def readMaxSteps? (text : String) : Option Int :=
  match Numeral.readInteger text with
  | .ok value => if value < 1 then none else some value
  | .error _ => none

/-- Reads a pause; one that is not above nought is nought. -/
def readDelay? (text : String) : Option Binary64 :=
  (Numeral.readFloat? text).map fun value =>
    if (Binary64.finite false 0).lt value then value else .finite false 0

/-! ## The environment -/

def ofEnvironment (environment : Environment) : Settings :=
  { maxSteps :=
      ((environment.value? "FLOWREPLAY_MAX_STEPS").bind readMaxSteps?).getD defaultMaxSteps
    strictEdges :=
      ((environment.value? "FLOWREPLAY_STRICT_EDGES").bind readSwitch?).getD default.strictEdges
    stepDelay :=
      ((environment.value? "FLOWREPLAY_STEP_DELAY_SECONDS").bind readDelay?).getD
        default.stepDelay }

end Settings
end WorkflowWalk
