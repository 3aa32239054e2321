import WorkflowWalk.Proofs.Check.Flow
import WorkflowWalk.Proofs.Document.Outline
import WorkflowWalk.Proofs.Walk.Bounds

/-!
# Runs that come to a cycle

A level or an action on a cycle is left along the cycle. A condition may have other edges, and it
may be that none of its branches matches. So a run that comes to a cycle comes round it, or it
leaves it at a condition.
-/

namespace WorkflowWalk
namespace Walk

variable {ε : Type}

/-- At a step a run leaves the ids of a list: at a condition among them it goes on to none of
them. -/
def Step.Leaves (step : Step) (ids : List String) : Prop :=
  step.nodeId ∈ ids ∧ step.kind = Kind.condition.name ∧ ∀ id, step.next = some id → id ∉ ids

/-!
## Nodes of a cycle
-/

section Nodes

variable {document : Document} {ids : List String} {id : String}

theorem exists_node_of_cycle
    (cycle : document.followableLinks.IsCycle ids) (member : id ∈ ids) :
    ∃ node, document.node? id = some node := by
  rcases cycle.exists_next member with ⟨_, _, ⟨targets, entry, _⟩, _⟩
  rw [Document.targets?_followableLinks, Option.map_eq_some_iff] at entry
  rcases entry with ⟨node, found, _⟩
  exact ⟨node, found⟩

theorem exists_decision_of_cycle
    (cycle : document.followableLinks.IsCycle ids) (member : id ∈ ids) {node : Node}
    (found : document.node? id = some node) (plain : node.branches? = none) {context : Context}
    {decision : Option Decision} (decided : Decision.resolve document context node = .ok decision) :
    ∃ taken, decision = some taken ∧ taken.target ∈ ids := by
  rcases cycle.exists_next member with ⟨target, among, ⟨targets, entry, leads⟩, _⟩
  rw [Document.targets?_followableLinks, found, Option.map_some, Option.some.injEq] at entry
  rw [← entry, Document.followableTargets, Document.followable, plain] at leads
  rw [Decision.resolve, plain] at decided
  cases leaving : document.outgoing node.id with
  | nil =>
      rw [leaving] at leads
      cases leads
  | cons first rest =>
      rw [leaving] at leads decided
      cases decided
      refine ⟨_, rfl, ?_⟩
      rw [List.mem_singleton.mp leads] at among
      exact among

end Nodes

/-!
## Runs on a cycle
-/

/-- A run leaves the ids of a list, or it ends at one of them that it has visited, or at its limit
of steps. -/
def Run.StaysOrLeaves (run : Run ε) (ids : List String) : Prop :=
  (∃ step ∈ run.steps, step.Leaves ids) ∨
    (∃ id ∈ ids, run.ending = .failed (.cycleDetected id)) ∨
    ∃ id limit, run.ending = .failed (.stepLimitExceeded id limit)

theorem Run.StaysOrLeaves.prepend
    {run : Run ε} {ids : List String} (later : run.StaysOrLeaves ids) (step : Step) :
    (run.prepend step).StaysOrLeaves ids := by
  rcases later with ⟨last, member, leaves⟩ | ends
  · exact Or.inl ⟨last, List.mem_cons_of_mem _ member, leaves⟩
  · exact Or.inr ends

theorem Setup.Enters.leaves
    {setup : Setup ε} {position : Position} {node : Node} (enters : setup.Enters position node)
    {ids : List String} (inside : position.id ∈ ids) {branches : List Branch}
    (held : node.branches? = some branches) {decision : Option Decision}
    (off : ∀ taken, decision = some taken → taken.target ∉ ids) :
    (setup.stepAt position node decision).Leaves ids := by
  have kind : node.kind = .condition := Node.kind_eq_condition_iff.mpr ⟨branches, held⟩
  refine ⟨?_, congrArg Kind.name kind, ?_⟩
  · rw [Setup.nodeId_stepAt, enters.id_eq]
    exact inside
  · intro id next
    rcases Option.map_eq_some_iff.mp next with ⟨taken, same, rfl⟩
    exact off taken same

theorem Walks.staysOrLeaves
    {setup : Setup ε} {position : Position} {run : Run ε} (walks : Walks setup position run)
    {ids : List String} (cycle : setup.document.followableLinks.IsCycle ids)
    (inside : position.id ∈ ids) :
    run.StaysOrLeaves ids := by
  -- The run stays on the cycle until it leaves it at a condition.
  induction walks with
  | revisit =>
      exact Or.inr (Or.inl ⟨_, inside, rfl⟩)
  | ceiling =>
      exact Or.inr (Or.inr ⟨_, _, rfl⟩)
  | unknown _ _ absent =>
      rcases exists_node_of_cycle cycle inside with ⟨node, found⟩
      rw [absent] at found
      cases found
  | @rest position node enters decided =>
      cases held : node.branches? with
      | none =>
          rcases exists_decision_of_cycle cycle inside enters.found held decided with
            ⟨_, taken, _⟩
          cases taken
      | some branches =>
          refine Or.inl ⟨_, List.mem_cons_self, enters.leaves inside held ?_⟩
          intro taken none
          cases none
  | @onward position node decision run enters decided later ih =>
      by_cases stays : decision.target ∈ ids
      · exact (ih stays).prepend _
      cases held : node.branches? with
      | none =>
          rcases exists_decision_of_cycle cycle inside enters.found held decided with
            ⟨_, taken, onCycle⟩
          cases taken
          exact absurd onCycle stays
      | some branches =>
          refine Or.inl ⟨_, List.mem_cons_self, enters.leaves inside held ?_⟩
          intro taken same
          cases same
          exact stays

theorem Walks.staysOrLeaves_of_visit
    {setup : Setup ε} {position : Position} {run : Run ε} (walks : Walks setup position run)
    {ids : List String} (cycle : setup.document.followableLinks.IsCycle ids) {step : Step}
    (member : step ∈ run.steps) (inside : step.nodeId ∈ ids) :
    run.StaysOrLeaves ids := by
  induction walks with
  | revisit | ceiling | unknown =>
      cases member
  | @rest position node enters decided =>
      rw [List.mem_singleton.mp member, Setup.nodeId_stepAt, enters.id_eq] at inside
      exact (Walks.rest enters decided).staysOrLeaves cycle inside
  | @onward position node decision run enters decided later ih =>
      rcases List.mem_cons.mp member with rfl | among
      · rw [Setup.nodeId_stepAt, enters.id_eq] at inside
        exact (Walks.onward enters decided later).staysOrLeaves cycle inside
      · exact (ih among).prepend _

/-!
## Trying again

A condition on a cycle: as long as someone wants to try again, a level leads back to it.
-/

def retryLoop : Document where
  nodes := [
    ⟨"begin", "", .level none none [], [], by decide⟩,
    ⟨"ask", "", .condition [⟨"again", "again equals yes"⟩], [], by decide⟩,
    ⟨"retry", "", .level none none [], [], by decide⟩,
    ⟨"finish", "", .action [], [], by decide⟩]
  edges := [
    ⟨"r1", "begin", "ask", none, by decide, by decide, by decide⟩,
    ⟨"r2", "ask", "retry", some "branch-0", by decide, by decide, by decide⟩,
    ⟨"r3", "retry", "ask", none, by decide, by decide, by decide⟩,
    ⟨"r4", "ask", "finish", some "else", by decide, by decide, by decide⟩]
  distinct := by decide

def retryRun : Setup Empty where
  document := retryLoop
  context := []
  limit := 5
  clock := fun _ => "2024-01-01T00:00:00+00:00"
  observer := silent

theorem retryRun_plain : retryRun.Plain where
  quiet _ := rfl
  writable := Context.writable_nil
  positive := by decide

theorem retryLoop_reported :
    .cycle ["ask", "retry", "ask"] ∈ Check.flowFindings retryLoop retryLoop.flow := by
  rw [Check.cycle_mem_flowFindings]
  show Links.findCycle
    [("begin", ["ask"]), ("ask", ["retry", "finish"]), ("retry", ["ask"]), ("finish", [])]
    ["begin", "ask", "retry", "finish"] = _
  cbv

theorem retryRun_walks :
    retryRun.run.steps.map (·.nodeId) = ["begin", "ask", "finish"] ∧
      retryRun.run.ending = .completed := by
  have quiet := retryRun_plain.quiet
  have begins : retryRun.Enters (.start "begin") ⟨"begin", "", .level none none [], [], by decide⟩ :=
    ⟨by decide, by decide, rfl⟩
  have asks : retryRun.Enters ⟨["begin"], 1, "ask"⟩
      ⟨"ask", "", .condition [⟨"again", "again equals yes"⟩], [], by decide⟩ :=
    ⟨by decide, by decide, rfl⟩
  have ends : retryRun.Enters ⟨["ask", "begin"], 2, "finish"⟩ ⟨"finish", "", .action [], [], by decide⟩ :=
    ⟨by decide, by decide, rfl⟩
  have refused : Condition.holds (Condition.parse? "again equals yes") [] = .ok false := by
    have parsed : Condition.parse? "again equals yes" = some ⟨"again", .equals, "yes"⟩ := rfl
    rw [parsed]
    rfl
  have other : Decision.amongBranches (retryLoop.outgoing "ask") [] 0
      [⟨"again", "again equals yes"⟩] =
        .ok (some ⟨⟨"r4", "ask", "finish", some "else", by decide, by decide, by decide⟩,
          some "else", none⟩) := by
    rw [Decision.amongBranches, refused]
    rfl
  have first : retryRun.walkFrom (.start "begin") =
      .prepend _ (retryRun.walkFrom ⟨["begin"], 1, "ask"⟩) :=
    Setup.walkFrom_of_onward quiet begins rfl
  have second : retryRun.walkFrom ⟨["begin"], 1, "ask"⟩ =
      .prepend _ (retryRun.walkFrom ⟨["ask", "begin"], 2, "finish"⟩) :=
    Setup.walkFrom_of_onward quiet asks other
  have third := Setup.walkFrom_of_rest quiet ends rfl
  have starts : retryRun.run = retryRun.walkFrom (.start "begin") := rfl
  rw [starts, first, second, third]
  exact ⟨rfl, rfl⟩

theorem retryRun_trace :
    ∃ trace, retryRun.execute = .ok trace ∧ trace.path = ["begin", "ask", "finish"] ∧
      trace.error = none := by
  have told := (retryRun_plain.yields fun trace tells => tells).exists_trace
    (Clock.uniform_const _)
  rcases told with ⟨trace, executed, tells⟩
  rcases retryRun_walks with ⟨ids, ends⟩
  refine ⟨trace, executed, ?_, ?_⟩
  · rw [Trace.path, tells.steps, ids]
  · rw [tells.error, ends]
    rfl

/-!
## Accounts of runs
-/

theorem Setup.Plain.staysOrLeaves
    {setup : Setup ε} (plain : setup.Plain) {ids : List String}
    (cycle : setup.document.followableLinks.IsCycle ids) {id : String}
    (visited : id ∈ setup.run.steps.map (·.nodeId)) (inside : id ∈ ids) :
    setup.run.StaysOrLeaves ids := by
  rcases List.mem_map.mp visited with ⟨step, member, rfl⟩
  rcases plain.run_cases with ⟨_, runs⟩ | ⟨start, _, walks⟩
  · rw [runs] at member
    cases member
  · exact walks.staysOrLeaves_of_visit cycle member inside

/-- A run that visits a node of the cycle that is reported fails because it comes round a cycle, at
a node of that cycle, unless it leaves the cycle at a condition. -/
theorem execute_round_or_off_cycle
    {setup : Setup ε} (plain : setup.Plain) {cycle : List String}
    (reported : .cycle cycle ∈ Check.flowFindings setup.document setup.document.flow)
    (enough : setup.document.nodes.length < setup.limit) :
    setup.Yields fun trace =>
      (∃ id ∈ trace.path, id ∈ cycle) →
        (trace.FailsWith "CYCLE_DETECTED" ∧ ∃ id ∈ cycle, trace.failedAt? = some id) ∨
          ∃ step ∈ trace.steps, step.Leaves cycle := by
  have closed := Document.isCycle_of_flow (Check.cycle_mem_flowFindings.mp reported)
  apply plain.yields
  rintro trace tells ⟨id, visited, inside⟩
  rw [Trace.path, tells.steps] at visited
  rcases plain.staysOrLeaves closed visited inside with
    leaves | ⟨back, onCycle, ends⟩ | ⟨last, limit, ends⟩
  · rw [tells.steps]
    exact Or.inr leaves
  · have failed : trace.error = some (Failure.record (.cycleDetected back)) := by
      rw [tells.error, ends]
      rfl
    refine Or.inl ⟨⟨_, failed, rfl⟩, back, onCycle, ?_⟩
    rw [Trace.failedAt?, failed]
    rfl
  · have fails : setup.run.ending.error? =
        some (Failure.record (.stepLimitExceeded last limit)) := by
      rw [ends]
      rfl
    have full := plain.length_eq_limit fails rfl
    have few := plain.length_le_nodes
    omega

theorem execute_round_or_off_cycle_retry :
    retryRun.Plain ∧
      .cycle ["ask", "retry", "ask"] ∈ Check.flowFindings retryLoop retryLoop.flow ∧
      retryLoop.nodes.length < retryRun.limit ∧
      ∃ trace, retryRun.execute = .ok trace ∧
        ∃ step ∈ trace.steps, step.Leaves ["ask", "retry", "ask"] := by
  refine ⟨retryRun_plain, retryLoop_reported, by decide, ?_⟩
  rcases (execute_round_or_off_cycle retryRun_plain retryLoop_reported (by decide)).exists_trace
    (Clock.uniform_const _) with ⟨trace, executed, round⟩
  rcases retryRun_trace with ⟨_, same, path, succeeds⟩
  cases executed.symm.trans same
  have visits : ∃ id ∈ trace.path, id ∈ ["ask", "retry", "ask"] := by
    refine ⟨"ask", ?_, List.mem_cons_self⟩
    rw [path]
    decide
  refine ⟨trace, executed, ?_⟩
  rcases round visits with ⟨⟨error, failed, _⟩, _⟩ | leaves
  · rw [succeeds] at failed
    cases failed
  · exact leaves

/-- The run visits a node of the cycle that is reported, and it succeeds, although the finding says
that such runs fail. -/
theorem execute_off_cycle :
    retryRun.Plain ∧
      .cycle ["ask", "retry", "ask"] ∈ Check.flowFindings retryLoop retryLoop.flow ∧
      (Finding.cycle ["ask", "retry", "ask"]).diagnostic.hint =
        some "Runs that reach this cycle fail with CYCLE_DETECTED." ∧
      retryLoop.nodes.length < retryRun.limit ∧
      ∃ trace, retryRun.execute = .ok trace ∧ "ask" ∈ trace.path ∧
        ¬trace.FailsWith "CYCLE_DETECTED" ∧ trace.success = true := by
  refine ⟨retryRun_plain, retryLoop_reported, rfl, by decide, ?_⟩
  rcases retryRun_trace with ⟨trace, executed, path, succeeds⟩
  refine ⟨trace, executed, ?_, ?_, ?_⟩
  · rw [path]
    decide
  · rintro ⟨error, failed, _⟩
    rw [succeeds] at failed
    cases failed
  · rw [Trace.success, succeeds]
    rfl

end Walk
end WorkflowWalk
