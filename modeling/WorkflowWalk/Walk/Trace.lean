import WorkflowWalk.Walk.Run
import WorkflowWalk.Walk.Summary

/-!
# Traces

The account of a run that was not broken off: its steps, the context, a summary, and the error if it
failed, which can be raised.
-/

namespace WorkflowWalk
namespace Walk

structure Trace where
  steps : List Step
  context : Context
  summary : Summary
  error : Option ErrorRecord
  limit : Option Nat

/-- Why there is no account of a run: a value without a text was met, the observer broke the run
off, or the first and the last tick cannot be compared. -/
inductive Abort (ε : Type)
  | faulted (fault : Numeral.Fault)
  | interrupted (error : ε)
  | clock (fault : Time.Instant.Fault)

namespace Trace

def success (trace : Trace) : Bool :=
  trace.error.isNone

def path (trace : Trace) : List String :=
  trace.steps.map (·.nodeId)

end Trace

/-- The error of an account when it is raised: of a kind of its own, and along with the account. -/
structure RaisedError where
  kind : ErrorKind
  message : String
  nodeId : Option String
  trace : Trace

def Trace.raiseError (trace : Trace) : Except RaisedError Unit :=
  match trace.error with
  | none => .ok ()
  | some error =>
      .error { kind := error.kind, message := error.message, nodeId := error.nodeId, trace }

namespace Ending

def name {ε : Type} : Ending ε → String
  | .completed => "completed"
  | .noMatchingBranch => "no_matching_branch"
  | .failed failure => failure.record.ending
  | .faulted .. => ""
  | .interrupted _ => ""

def error? {ε : Type} : Ending ε → Option ErrorRecord
  | .failed failure => some failure.record
  | _ => none

end Ending

namespace Run

variable {ε : Type}

def account (run : Run ε) (context : Context) (limit : Nat) : Except (Abort ε) Trace :=
  match Summary.ofSteps run.steps run.ending.name with
  | .ok summary => .ok ⟨run.steps, context, summary, run.ending.error?, some limit⟩
  | .error fault => .error (.clock fault)

def trace (run : Run ε) (context : Context) (limit : Nat) : Except (Abort ε) Trace :=
  match run.ending with
  | .faulted _ fault => .error (.faulted fault)
  | .interrupted error => .error (.interrupted error)
  | _ => run.account context limit

end Run

namespace Setup

variable {ε : Type}

def execute (setup : Setup ε) : Except (Abort ε) Trace :=
  setup.run.trace setup.context setup.limit

end Setup
end Walk
end WorkflowWalk
