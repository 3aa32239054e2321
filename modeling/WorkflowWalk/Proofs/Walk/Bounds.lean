import WorkflowWalk.Proofs.Document.Graph
import WorkflowWalk.Proofs.Walk.Account

/-!
# Bounds on runs

A run makes steps at different nodes only, so the number of nodes bounds the number of its turns,
however large the limit of steps is.
-/

namespace WorkflowWalk
namespace Walk

variable {ε : Type}

/-!
## Counted turns
-/

/-- Walks on from a position, for a number of turns at most. There is no run if these are too
few. -/
def Setup.walkWithin (setup : Setup ε) : Nat → Position → Option (Run ε)
  | 0, _ => none
  | turns + 1, position =>
      match setup.turn position with
      | .halt ending => some ⟨[], ending⟩
      | .finish step ending => some ⟨[step], ending⟩
      | .proceed step next =>
          (setup.walkWithin turns next).map fun rest => ⟨step :: rest.steps, rest.ending⟩

def Setup.runWithin (setup : Setup ε) (turns : Nat) : Option (Run ε) :=
  match setup.document.start? with
  | none => some ⟨[], .failed .noStartNode⟩
  | some node => setup.walkWithin turns (.start node.id)

theorem Setup.walkWithin_of_unvisited_lt
    (setup : Setup ε) {turns : Nat} {position : Position}
    (enough : (setup.document.unvisited position.visited).length < turns) :
    setup.walkWithin turns position = some (setup.walkFrom position) := by
  induction turns generalizing position with
  | zero =>
      cases enough
  | succ turns ih =>
      rw [Setup.walkWithin]
      cases turned : setup.turn position with
      | halt ending =>
          rw [walkFrom_of_halt turned]
      | finish step ending =>
          rw [walkFrom_of_finish turned]
      | proceed step next =>
          have fewer := length_unvisited_lt_of_turn turned
          rw [walkFrom_of_proceed turned]
          show (setup.walkWithin turns next).map _ = _
          rw [ih (by omega)]
          rfl

theorem length_unvisited_nil_le (document : Document) :
    (document.unvisited []).length ≤ document.nodes.length := by
  calc
    (document.unvisited []).length ≤ document.nodeIds.length := List.length_filter_le ..
    _ = document.nodes.length := List.length_map ..

theorem Setup.runWithin_of_nodes (setup : Setup ε) :
    setup.runWithin (setup.document.nodes.length + 1) = some setup.run := by
  rw [Setup.runWithin, Setup.run]
  cases setup.document.start? with
  | none =>
      rfl
  | some node =>
      apply Setup.walkWithin_of_unvisited_lt
      exact Nat.lt_succ_of_le (length_unvisited_nil_le setup.document)

/-!
## The ids of the steps
-/

theorem Walks.not_mem_visited
    {setup : Setup ε} {position : Position} {run : Run ε} (walks : Walks setup position run)
    {step : Step} (member : step ∈ run.steps) :
    step.nodeId ∉ position.visited := by
  induction walks with
  | revisit | ceiling | unknown =>
      cases member
  | rest enters decided =>
      rw [List.mem_singleton.mp member]
      rw [Setup.nodeId_stepAt, enters.id_eq]
      exact enters.fresh
  | onward enters decided later ih =>
      rcases List.mem_cons.mp member with rfl | among
      · rw [Setup.nodeId_stepAt, enters.id_eq]
        exact enters.fresh
      · intro seen
        exact ih among (List.mem_cons_of_mem _ seen)

theorem Walks.nodup
    {setup : Setup ε} {position : Position} {run : Run ε} (walks : Walks setup position run) :
    (run.steps.map (·.nodeId)).Nodup := by
  induction walks with
  | revisit | ceiling | unknown =>
      exact List.nodup_nil
  | rest enters decided =>
      exact List.nodup_cons.mpr ⟨List.not_mem_nil, List.nodup_nil⟩
  | onward enters decided later ih =>
      rw [List.map_cons, List.nodup_cons]
      refine ⟨?_, ih⟩
      intro again
      rcases List.mem_map.mp again with ⟨step, among, same⟩
      apply later.not_mem_visited among
      rw [same, Setup.nodeId_stepAt, enters.id_eq]
      exact List.mem_cons_self

theorem Walks.mem_nodeIds
    {setup : Setup ε} {position : Position} {run : Run ε} (walks : Walks setup position run)
    {step : Step} (member : step ∈ run.steps) :
    step.nodeId ∈ setup.document.nodeIds := by
  induction walks with
  | revisit | ceiling | unknown =>
      cases member
  | rest enters decided =>
      rw [List.mem_singleton.mp member]
      exact List.mem_map_of_mem (Document.node?_mem enters.found)
  | onward enters decided later ih =>
      rcases List.mem_cons.mp member with rfl | among
      · exact List.mem_map_of_mem (Document.node?_mem enters.found)
      · exact ih among

/-!
## The number of the steps
-/

theorem Walks.length_le_limit
    {setup : Setup ε} {position : Position} {run : Run ε} (walks : Walks setup position run)
    (within : position.visited.length ≤ setup.limit) :
    position.visited.length + run.steps.length ≤ setup.limit := by
  induction walks with
  | revisit | ceiling | unknown =>
      exact within
  | rest enters decided =>
      exact enters.below
  | @onward position node decision run enters decided later ih =>
      have longer := ih enters.below
      rw [Position.advance, List.length_cons] at longer
      rw [List.length_cons]
      omega

theorem Walks.length_eq_limit
    {setup : Setup ε} {position : Position} {run : Run ε} (walks : Walks setup position run)
    (within : position.visited.length ≤ setup.limit) {error : ErrorRecord}
    (ends : run.ending.error? = some error) (code : error.code = "STEP_LIMIT_EXCEEDED") :
    position.visited.length + run.steps.length = setup.limit := by
  induction walks with
  | revisit | unknown =>
      cases ends
      simp [Failure.record, ErrorKind.code] at code
  | ceiling fresh reached =>
      exact Nat.le_antisymm within reached
  | @rest position node enters decided =>
      rw [Setup.restingEnd] at ends
      split at ends <;> cases ends
  | @onward position node decision run enters decided later ih =>
      have longer := ih enters.below ends
      rw [Position.advance, List.length_cons] at longer
      rw [List.length_cons]
      omega

/-!
## Bounds on whole runs
-/

namespace Setup

theorem Plain.nodup
    {setup : Setup ε} (plain : setup.Plain) :
    (setup.run.steps.map (·.nodeId)).Nodup := by
  rcases plain.run_cases with ⟨_, runs⟩ | ⟨node, _, walks⟩
  · rw [runs]
    exact List.nodup_nil
  · exact walks.nodup

theorem Plain.mem_nodeIds
    {setup : Setup ε} (plain : setup.Plain) {step : Step} (member : step ∈ setup.run.steps) :
    step.nodeId ∈ setup.document.nodeIds := by
  rcases plain.run_cases with ⟨_, runs⟩ | ⟨node, _, walks⟩
  · rw [runs] at member
    cases member
  · exact walks.mem_nodeIds member

theorem Plain.length_le_limit
    {setup : Setup ε} (plain : setup.Plain) :
    setup.run.steps.length ≤ setup.limit := by
  rcases plain.run_cases with ⟨_, runs⟩ | ⟨node, _, walks⟩
  · rw [runs]
    exact Nat.zero_le _
  · simpa [Position.start] using walks.length_le_limit (Nat.zero_le _)

theorem Plain.length_le_nodes
    {setup : Setup ε} (plain : setup.Plain) :
    setup.run.steps.length ≤ setup.document.nodes.length := by
  have within : (setup.run.steps.map (·.nodeId)).length ≤ setup.document.nodeIds.length := by
    apply plain.nodup.length_le_of_subset
    intro id member
    rcases List.mem_map.mp member with ⟨step, inSteps, rfl⟩
    exact plain.mem_nodeIds inSteps
  simpa [Document.nodeIds] using within

theorem Plain.length_eq_limit
    {setup : Setup ε} (plain : setup.Plain) {error : ErrorRecord}
    (ends : setup.run.ending.error? = some error) (code : error.code = "STEP_LIMIT_EXCEEDED") :
    setup.run.steps.length = setup.limit := by
  rcases plain.run_cases with ⟨_, runs⟩ | ⟨node, _, walks⟩
  · rw [runs] at ends
    cases ends
    simp [Failure.record, ErrorKind.code] at code
  · simpa [Position.start] using walks.length_eq_limit (Nat.zero_le _) ends code

end Setup

/-- The loop of a run ends within one turn more than there are nodes. Its steps are made at
different nodes, no more than the limit and no more than there are nodes, and it fails at the limit
only after as many steps as the limit allows. -/
theorem execute_bounded_by_nodes
    {setup : Setup ε} (plain : setup.Plain) :
    setup.runWithin (setup.document.nodes.length + 1) = some setup.run ∧
    setup.Yields fun trace =>
      trace.steps.length ≤ min setup.limit setup.document.nodes.length ∧
        (trace.steps.map (·.nodeId)).Nodup ∧
        (∀ step ∈ trace.steps, step.nodeId ∈ setup.document.nodeIds) ∧
        (trace.FailsWith "STEP_LIMIT_EXCEEDED" →
          setup.limit ≤ setup.document.nodes.length ∧ trace.steps.length = setup.limit) := by
  refine ⟨setup.runWithin_of_nodes, ?_⟩
  apply plain.yields
  intro trace tells
  rw [tells.steps]
  refine ⟨Nat.le_min.mpr ⟨plain.length_le_limit, plain.length_le_nodes⟩, plain.nodup,
    fun step member => plain.mem_nodeIds member, ?_⟩
  rintro ⟨error, failed, code⟩
  rw [tells.error] at failed
  have full := plain.length_eq_limit failed code
  exact ⟨full ▸ plain.length_le_nodes, full⟩

theorem execute_bounded_by_nodes_crossing :
    crossing.Plain ∧ crossing.runWithin 4 = some crossing.run ∧
    crossing.Yields fun trace =>
      trace.steps.length ≤ 3 ∧ (trace.steps.map (·.nodeId)).Nodup ∧
        (∀ step ∈ trace.steps, step.nodeId ∈ ["check", "done", "stop"]) ∧
        (trace.FailsWith "STEP_LIMIT_EXCEEDED" → 3 ≤ 3 ∧ trace.steps.length = 3) :=
  ⟨crossing_plain, execute_bounded_by_nodes crossing_plain⟩

end Walk
end WorkflowWalk
