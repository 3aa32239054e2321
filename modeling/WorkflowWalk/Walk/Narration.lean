import WorkflowWalk.Walk.Run

/-!
# Narrating runs

What is told about a run: how it starts, how each decision is come to, each step, and the end.
-/

namespace WorkflowWalk
namespace Notice

open Walk

def ofWalk (level : Level) (text : String) : Notice :=
  { topic := .walk, level, text }

/-- What is told first. A limit without a text is not told of. -/
def ofBeginning {ε : Type} (setup : Setup ε) : List Notice :=
  match Numeral.decimal? setup.limit with
  | .ok limit =>
      [ofWalk .info
        ("Starting workflow run (" ++ toString setup.document.nodes.length ++ " nodes, " ++
          toString setup.document.edges.length ++ " edges, max_steps=" ++ limit ++ ").")]
  | .error _ => []

def leading (step : Step) : String :=
  match step.next, step.branch with
  | none, _ => "Node '" ++ step.nodeId ++ "' is terminal."
  | some target, none => "Moving to '" ++ target ++ "'."
  | some target, some branch =>
      if branch = "" then "Moving to '" ++ target ++ "'."
      else "Taking branch '" ++ branch ++ "' to '" ++ target ++ "'."

def ofStep {ε : Type} (setup : Setup ε) (step : Step) : List Notice :=
  ((setup.document.node? step.nodeId).elim []
      (ofDecision setup.document setup.context)) ++
    [ofWalk .debug
        ("[Step " ++ toString step.index ++ "] " ++ step.label ++ " (" ++ step.kind ++ ")"),
      ofWalk .debug (leading step)]

def ofEnding {ε : Type} (setup : Setup ε) (count : Nat) : Ending ε → List Notice
  | .completed | .noMatchingBranch =>
      [ofWalk .info
        ("Workflow completed successfully in " ++ toString count ++ " step(s).")]
  | .failed failure =>
      [ofWalk .warning
        ("Workflow run failed after " ++ toString count ++ " step(s): " ++
          failure.record.message)]
  | .faulted node _ => ofDecision setup.document setup.context node
  | .interrupted _ => []

def ofRun {ε : Type} (setup : Setup ε) : List Notice :=
  let run := setup.run
  ofBeginning setup ++ ofStart setup.document ++ run.steps.flatMap (ofStep setup) ++
    ofEnding setup run.steps.length run.ending

end Notice
end WorkflowWalk
