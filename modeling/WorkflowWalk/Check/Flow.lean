import WorkflowWalk.Check.Finding
import WorkflowWalk.Flow.Cycle
import WorkflowWalk.Flow.Paths
import WorkflowWalk.Flow.Reachable

/-!
# Checking the flow

Findings about where walks can come: whether there is one start, which nodes no walk reaches, and
whether there is a cycle. Only edges that a walk could follow count.
-/

namespace WorkflowWalk

structure Flow where
  links : Links
  start : Option String
  candidates : List String
  reachable : List String
  cycle : Option (List String)
deriving DecidableEq, Repr

namespace Document

/-- The links that walks could follow, an entry for each node. -/
def followableLinks (document : Document) : Links :=
  document.nodes.map fun node => (node.id, document.followableTargets node)

def flow (document : Document) : Flow :=
  let links := document.followableLinks
  let candidates := document.startCandidates.map (·.id)
  { links, candidates
    start := candidates.head?
    reachable := candidates.head?.elim [] links.reachable
    cycle := links.findCycle document.nodeIds }

end Document

namespace Check

def startFindings (document : Document) (flow : Flow) : List Finding :=
  match document.nodes, flow.candidates with
  | [], _ => [.noNodes]
  | _ :: _, [] => [.noStart]
  | _ :: _, [_] => []
  | _ :: _, start :: candidates => [.manyStarts start (start :: candidates)]

def unreachableFindings (document : Document) (flow : Flow) : List Finding :=
  match flow.start with
  | none => []
  | some start =>
      (document.nodeIds.filter (!flow.reachable.contains ·)).map fun id => .unreachable id start

def flowFindings (document : Document) (flow : Flow) : List Finding :=
  startFindings document flow ++ unreachableFindings document flow ++
    (flow.cycle.map .cycle).toList

end Check
end WorkflowWalk
