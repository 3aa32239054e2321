import WorkflowWalk.Time.Iso8601
import WorkflowWalk.Walk.Step

/-!
# Summaries

What a list of steps amounts to: counts by kind, the path, the branches taken, and how long it took
by the clock. The time is left out when a tick is no point in time.
-/

namespace WorkflowWalk
namespace Walk

structure Summary where
  totalSteps : Nat
  kindCounts : List (String × Nat)
  executionPath : List String
  nodePath : List String
  branchesTaken : List (String × String)
  terminatedBy : String
  startTime : Option String
  endTime : Option String
  duration : Option Binary64

namespace Summary

/-- Adds one to the count of a kind; a kind that is new comes last. -/
def countIn (kind : String) : List (String × Nat) → List (String × Nat)
  | [] => [(kind, 1)]
  | (first, count) :: rest =>
      if first = kind then (first, count + 1) :: rest else (first, count) :: countIn kind rest

def countKinds (kinds : List String) : List (String × Nat) :=
  kinds.foldl (fun counts kind => countIn kind counts) []

def branchOf? (step : Step) : Option (String × String) :=
  step.branch.map fun branch => (step.nodeId, branch)

def duration? (start finish : Option String) : Except Time.Instant.Fault (Option Binary64) :=
  match start.bind Time.Iso8601.read?, finish.bind Time.Iso8601.read? with
  | some start, some finish =>
      (fun microseconds => some (Time.Instant.milliseconds microseconds)) <$>
        start.distance finish
  | _, _ => .ok none

def ofSteps (steps : List Step) (terminatedBy : String) : Except Time.Instant.Fault Summary :=
  let startTime := steps.head?.map (·.timestamp)
  let endTime := steps.getLast?.map (·.timestamp)
  (fun duration =>
    { totalSteps := steps.length
      kindCounts := countKinds (steps.map (·.kind))
      executionPath := steps.map (·.label)
      nodePath := steps.map (·.nodeId)
      branchesTaken := steps.filterMap branchOf?
      terminatedBy, startTime, endTime, duration }) <$> duration? startTime endTime

end Summary
end Walk
end WorkflowWalk
