import WorkflowWalk.Walk.Failure
import WorkflowWalk.Walk.Step

/-!
# Runs

A run walks from the start of a document, in turns of one step each. Before a step is made at an id,
three things are checked in this order: that the id has not been visited, that the limit of steps is
not reached, and that a node has the id. So a run ends after at most as many steps as there are
nodes, whatever the limit.

An observer is shown each step as soon as it is recorded. It may let the run go on, make it fail, or
break it off with an error that is none of the run's own.
-/

namespace WorkflowWalk
namespace Walk

/-! ## Observers -/

inductive Reaction (ε : Type)
  | proceed
  | fail (error : ErrorRecord)
  | interrupt (error : ε)

abbrev Observer (ε : Type) := Step → Reaction ε

def silent {ε : Type} : Observer ε :=
  fun _ => .proceed

/-! ## Turns -/

inductive Ending (ε : Type)
  | completed
  | noMatchingBranch
  | failed (failure : Failure)
  | faulted (node : Node) (fault : Numeral.Fault)
  | interrupted (error : ε)

structure Setup (ε : Type) where
  document : Document
  context : Context
  limit : Nat
  clock : Clock
  observer : Observer ε

/-- Where a run stands: `id` is what it looks at next, `visited` are the ids of the steps made so
far, the last one first, and `tick` is the next tick of the clock. -/
structure Position where
  visited : List String
  tick : Nat
  id : String
deriving DecidableEq, Repr

namespace Position

def start (id : String) : Position :=
  { visited := [], tick := 0, id }

def advance (position : Position) (step : Step) (target : String) : Position :=
  { visited := position.id :: position.visited
    tick := position.tick + step.timestamps.length
    id := target }

end Position

/-- What one turn of a run comes to: the run ends without a step, or it makes a step and then ends
or goes on. -/
inductive Turn (ε : Type)
  | halt (ending : Ending ε)
  | finish (step : Step) (ending : Ending ε)
  | proceed (step : Step) (next : Position)

namespace Setup

variable {ε : Type}

/-- How a run ends at a node that it cannot leave. -/
def restingEnd (setup : Setup ε) (node : Node) : Ending ε :=
  match node.branches?, setup.document.outgoing node.id with
  | some _, _ :: _ => .noMatchingBranch
  | _, _ => .completed

def stepAt (setup : Setup ε) (position : Position) (node : Node) (decision : Option Decision) :
    Step :=
  .make setup.clock position.tick (position.visited.length + 1) node decision

def leave (setup : Setup ε) (position : Position) (node : Node) (decision : Option Decision) :
    Turn ε :=
  let step := setup.stepAt position node decision
  match setup.observer step, decision with
  | .interrupt error, _ => .finish step (.interrupted error)
  | .fail error, _ => .finish step (.failed (.reported error))
  | .proceed, none => .finish step (setup.restingEnd node)
  | .proceed, some decision => .proceed step (position.advance step decision.target)

def turn (setup : Setup ε) (position : Position) : Turn ε :=
  if position.id ∈ position.visited then
    .halt (.failed (.cycleDetected position.id))
  else if setup.limit ≤ position.visited.length then
    .halt (.failed (.stepLimitExceeded position.id setup.limit))
  else
    match setup.document.node? position.id with
    | none => .halt (.failed (.nodeNotFound position.id))
    | some node =>
        match Decision.resolve setup.document setup.context node with
        | .error fault => .halt (.faulted node fault)
        | .ok decision => setup.leave position node decision

theorem leave_eq_proceed
    {setup : Setup ε} {position next : Position} {node : Node} {decision : Option Decision}
    {step : Step} (left : setup.leave position node decision = .proceed step next) :
    step = setup.stepAt position node decision ∧ setup.observer step = .proceed ∧
      ∃ taken, decision = some taken ∧ next = position.advance step taken.target := by
  unfold leave at left
  cases reaction : setup.observer (setup.stepAt position node decision) with
  | proceed =>
      cases decision with
      | none =>
          simp [reaction] at left
      | some taken =>
          simp only [reaction, Turn.proceed.injEq] at left
          obtain ⟨rfl, rfl⟩ := left
          exact ⟨rfl, reaction, taken, rfl, rfl⟩
  | fail error =>
      simp [reaction] at left
  | interrupt error =>
      simp [reaction] at left

/-- What holds when a run goes on after a step. -/
theorem turn_eq_proceed
    {setup : Setup ε} {position next : Position} {step : Step}
    (turned : setup.turn position = .proceed step next) :
    position.id ∉ position.visited ∧ position.visited.length < setup.limit ∧
      ∃ node decision, setup.document.node? position.id = some node ∧
        Decision.resolve setup.document setup.context node = .ok (some decision) ∧
        step = setup.stepAt position node (some decision) ∧ setup.observer step = .proceed ∧
        next = position.advance step decision.target := by
  unfold turn at turned
  split at turned
  · cases turned
  split at turned
  · cases turned
  rename_i fresh below
  split at turned
  · cases turned
  rename_i node found
  split at turned
  · cases turned
  rename_i decision resolved
  obtain ⟨made, proceeds, taken, rfl, rfl⟩ := leave_eq_proceed turned
  exact ⟨fresh, Nat.lt_of_not_le below, node, taken, found, resolved, made, proceeds, rfl⟩

theorem length_unvisited_lt_of_turn
    {setup : Setup ε} {position next : Position} {step : Step}
    (turned : setup.turn position = .proceed step next) :
    (setup.document.unvisited next.visited).length <
      (setup.document.unvisited position.visited).length := by
  obtain ⟨fresh, _, node, _, found, _, _, _, rfl⟩ := turn_eq_proceed turned
  exact setup.document.length_unvisited_cons_lt (Document.mem_nodeIds_of_node? found) fresh

end Setup

/-! ## Runs -/

structure Run (ε : Type) where
  steps : List Step
  ending : Ending ε

def Run.prepend {ε : Type} (step : Step) (run : Run ε) : Run ε :=
  ⟨step :: run.steps, run.ending⟩

namespace Setup

variable {ε : Type}

def walkFrom (setup : Setup ε) (position : Position) : Run ε :=
  match _turned : setup.turn position with
  | .halt ending => ⟨[], ending⟩
  | .finish step ending => ⟨[step], ending⟩
  | .proceed step next =>
      let rest := setup.walkFrom next
      ⟨step :: rest.steps, rest.ending⟩
termination_by (setup.document.unvisited position.visited).length
decreasing_by
  exact length_unvisited_lt_of_turn _turned

theorem walkFrom_of_halt
    {setup : Setup ε} {position : Position} {ending : Ending ε}
    (turned : setup.turn position = .halt ending) :
    setup.walkFrom position = ⟨[], ending⟩ := by
  rw [walkFrom]
  split <;> simp_all

theorem walkFrom_of_finish
    {setup : Setup ε} {position : Position} {step : Step} {ending : Ending ε}
    (turned : setup.turn position = .finish step ending) :
    setup.walkFrom position = ⟨[step], ending⟩ := by
  rw [walkFrom]
  split <;> simp_all

theorem walkFrom_of_proceed
    {setup : Setup ε} {position next : Position} {step : Step}
    (turned : setup.turn position = .proceed step next) :
    setup.walkFrom position =
      ⟨step :: (setup.walkFrom next).steps, (setup.walkFrom next).ending⟩ := by
  rw [walkFrom]
  split <;> simp_all

def run (setup : Setup ε) : Run ε :=
  match setup.document.start? with
  | none => ⟨[], .failed .noStartNode⟩
  | some node => setup.walkFrom (.start node.id)

end Setup
end Walk
end WorkflowWalk
