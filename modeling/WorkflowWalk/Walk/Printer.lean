import WorkflowWalk.Walk.Trace

/-!
# Traces as values

The JSON values of steps, summaries and traces. What is absent from a step or an error has no key;
what is absent from a summary is null.
-/

namespace WorkflowWalk
namespace Walk

def optionalField (key : String) (text : Option String) : Fields :=
  (text.map fun value => (key, .str value)).toList

namespace ActionResult

def toJson (result : ActionResult) : Json :=
  .obj [
    ("actionType", .str result.item.type),
    ("title", .str result.item.title),
    ("value", .ofText? result.item.value),
    ("status", .str "completed"),
    ("timestamp", .str result.timestamp)]

end ActionResult

namespace Outcome

def branchJson (branch : Branch) : Json :=
  .obj [("name", .str branch.name), ("condition", .str branch.condition)]

def toJson : Outcome → Json
  | .level name type steps =>
      .obj [
        ("status", .str "completed"),
        ("nodeKind", .str Kind.level.name),
        ("levelName", .ofText? name),
        ("levelType", .ofText? type),
        ("stepsCompleted", .ofTexts steps)]
  | .condition branches =>
      .obj [
        ("status", .str "evaluated"),
        ("nodeKind", .str Kind.condition.name),
        ("branches", .arr (branches.map branchJson))]
  | .action results =>
      .obj [
        ("status", .str "completed"),
        ("nodeKind", .str Kind.action.name),
        ("actions", .arr (results.map ActionResult.toJson))]

end Outcome

namespace Step

def toJson (step : Step) : Json :=
  .obj ([
      ("stepIndex", .int step.index),
      ("nodeId", .str step.nodeId),
      ("nodeKind", .str step.kind),
      ("label", .str step.label),
      ("outcome", step.outcome.toJson),
      ("timestamp", .str step.timestamp)] ++
    optionalField "takenBranch" step.branch ++ optionalField "nextNodeId" step.next)

end Step

namespace Summary

def countsJson (counts : List (String × Nat)) : Json :=
  .obj (counts.map fun (kind, count) => (kind, .int count))

/-- The branches taken as a value: of two branches taken at one id the later one counts. -/
def branchesJson (branches : List (String × String)) : Json :=
  .obj (Fields.ofList (branches.map fun (id, branch) => (id, .str branch)))

def toJson (summary : Summary) : Json :=
  .obj [
    ("totalSteps", .int summary.totalSteps),
    ("nodeKindCount", countsJson summary.kindCounts),
    ("executionPath", .ofTexts summary.executionPath),
    ("nodePath", .ofTexts summary.nodePath),
    ("branchesTaken", branchesJson summary.branchesTaken),
    ("terminatedBy", .str summary.terminatedBy),
    ("startTime", .ofText? summary.startTime),
    ("endTime", .ofText? summary.endTime),
    ("durationMs", (summary.duration.map .float).getD .null)]

end Summary

namespace ErrorRecord

def toJson (error : ErrorRecord) : Json :=
  .obj ([("code", .str error.code), ("message", .str error.message)] ++
    optionalField "nodeId" error.nodeId)

end ErrorRecord

namespace Trace

def toJson (trace : Trace) : Json :=
  .obj ([
      ("success", .bool trace.success),
      ("stepCount", .int trace.steps.length),
      ("steps", .arr (trace.steps.map Step.toJson)),
      ("context", .obj trace.context.toFields),
      ("summary", trace.summary.toJson)] ++
    (trace.error.map fun error => ("error", error.toJson)).toList)

end Trace
end Walk
end WorkflowWalk
