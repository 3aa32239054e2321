import WorkflowWalk.Choice

/-!
# Steps

One step of a walk: the node, what became of it, the tick of the clock, and where the walk goes on.
Nothing is carried out. A level reports its steps as done, a condition its branches, and an action
what it would have set off, each item with a tick of its own.
-/

namespace WorkflowWalk
namespace Walk

/-- A clock: the text of each of its ticks. -/
abbrev Clock := Nat → String

structure ActionResult where
  item : ActionItem
  timestamp : String
deriving DecidableEq, Repr

inductive Outcome
  | level (name type : Option String) (steps : List String)
  | condition (branches : List Branch)
  | action (results : List ActionResult)
deriving DecidableEq, Repr

namespace Outcome

def timestamps : Outcome → List String
  | .action results => results.map ActionResult.timestamp
  | _ => []

/-- Stamps action items with the ticks from `tick` on. -/
def stamp (clock : Clock) (tick : Nat) : List ActionItem → List ActionResult
  | [] => []
  | item :: rest => ⟨item, clock tick⟩ :: stamp clock (tick + 1) rest

def ofBody (clock : Clock) (tick : Nat) : Body → Outcome
  | .level name type steps => .level name type steps
  | .condition branches => .condition branches
  | .action items => .action (stamp clock tick items)

end Outcome

structure Step where
  index : Nat
  nodeId : String
  kind : String
  label : String
  outcome : Outcome
  timestamp : String
  branch : Option String
  next : Option String
deriving DecidableEq, Repr

namespace Step

/-- The ticks that a step has taken: its own and those of its outcome. -/
def timestamps (step : Step) : List String :=
  step.timestamp :: step.outcome.timestamps

def make (clock : Clock) (tick index : Nat) (node : Node) (decision : Option Decision) : Step :=
  { index
    nodeId := node.id
    kind := node.kind.name
    label := node.title
    outcome := .ofBody clock (tick + 1) node.body
    timestamp := clock tick
    branch := decision.bind (·.branch)
    next := decision.map (·.target) }

end Step
end Walk
end WorkflowWalk
