import WorkflowWalk.Text.LetterCase

/-!
# Failures of walks

A walk that cannot go on fails for one of four reasons. A failure is recorded by its code, its
wording and the id it concerns, and a record can be turned back into an error of its kind.
-/

namespace WorkflowWalk
namespace Walk

/-! ## Kinds -/

inductive ErrorKind
  | noStartNode
  | nodeNotFound
  | cycleDetected
  | stepLimitExceeded
  | other
deriving DecidableEq, Repr

namespace ErrorKind

def code : ErrorKind → String
  | .noStartNode => "NO_START_NODE"
  | .nodeNotFound => "NODE_NOT_FOUND"
  | .cycleDetected => "CYCLE_DETECTED"
  | .stepLimitExceeded => "STEP_LIMIT_EXCEEDED"
  | .other => "EXECUTION_FAILED"

/-- The kinds of errors that walks fail with by themselves. -/
def fatal : List ErrorKind :=
  [.noStartNode, .nodeNotFound, .cycleDetected, .stepLimitExceeded]

/-- The kind that a code stands for; an unknown code stands for the unspecific kind. -/
def ofCode (code : String) : ErrorKind :=
  (fatal.find? (·.code = code)).getD .other

@[simp] theorem ofCode_code (kind : ErrorKind) :
    ofCode kind.code = kind := by
  cases kind <;> simp [ofCode, fatal, code]

end ErrorKind

/-! ## Records -/

structure ErrorRecord where
  code : String
  message : String
  nodeId : Option String
deriving DecidableEq, Repr

namespace ErrorRecord

def kind (error : ErrorRecord) : ErrorKind :=
  .ofCode error.code

def ending (error : ErrorRecord) : String :=
  Text.lower error.code

end ErrorRecord

/-! ## Failures -/

/-- Why a walk failed. An observer may make it fail with an error of its own. -/
inductive Failure
  | noStartNode
  | nodeNotFound (id : String)
  | cycleDetected (id : String)
  | stepLimitExceeded (id : String) (limit : Nat)
  | reported (error : ErrorRecord)
deriving DecidableEq, Repr

def notFoundText (id : String) : String :=
  "Node '" ++ id ++ "' was not found in the workflow."

namespace Failure

def record : Failure → ErrorRecord
  | .noStartNode =>
      ⟨ErrorKind.noStartNode.code, "No start node found (every node has an incoming edge).", none⟩
  | .nodeNotFound id => ⟨ErrorKind.nodeNotFound.code, notFoundText id, some id⟩
  | .cycleDetected id =>
      ⟨ErrorKind.cycleDetected.code, "Cycle detected at node '" ++ id ++ "'.", some id⟩
  | .stepLimitExceeded id limit =>
      ⟨ErrorKind.stepLimitExceeded.code,
        "Workflow exceeded maximum steps (" ++ toString limit ++ "). Possible infinite loop.",
        some id⟩
  | .reported error => error

end Failure
end Walk
end WorkflowWalk
