import WorkflowWalk.Proofs.Check.Hash
import WorkflowWalk.Proofs.Check.Verdict
import WorkflowWalk.Proofs.Walk.Account

/-!
# Runs of sound documents

A document with a sound verdict can be run in any context: a run never lacks its start and never
comes to an id that no node has. If there is no cycle, a run with as many steps as there are nodes
comes to an end, and if every condition has an edge for the other case, that end is a node that no
edge leaves.
-/

namespace WorkflowWalk
namespace Walk

variable {ε : Type}

/-!
## Trails

Where every edge leads to a node, a run stands at a node at any time, and from each id that it has
visited links lead to that node.
-/

def Closed (document : Document) : Prop :=
  ∀ edge ∈ document.edges, edge.target ∈ document.nodeIds

structure Setup.Trail (setup : Setup ε) (position : Position) : Prop where
  known : position.id ∈ setup.document.nodeIds
  visited : ∀ id ∈ position.visited, id ∈ setup.document.nodeIds
  distinct : position.visited.Nodup
  leads : ∀ id ∈ position.visited,
    Relation.TransGen setup.document.followableLinks.LeadsWithin id position.id

theorem Setup.Trail.start
    {setup : Setup ε} {start : Node} (starts : setup.document.start? = some start) :
    setup.Trail (.start start.id) where
  known := List.mem_map_of_mem (Document.mem_of_start? starts)
  visited _ member := by cases member
  distinct := List.nodup_nil
  leads _ member := by cases member

theorem Setup.Trail.leadsWithin
    {setup : Setup ε} (closed : Closed setup.document) {position : Position} {node : Node}
    {decision : Decision} (enters : setup.Enters position node)
    (decided : Decision.resolve setup.document setup.context node = .ok (some decision)) :
    setup.document.followableLinks.LeadsWithin position.id decision.target := by
  constructor
  · refine ⟨setup.document.followableTargets node, ?_, ?_⟩
    · rw [Document.targets?_followableLinks, enters.found]
      rfl
    · exact Decision.target_mem_followableTargets decided
  · rw [Document.sources_followableLinks]
    exact closed _ (Document.mem_edges_of_mem_followable (Decision.edge_mem_followable decided))

theorem Setup.Trail.advance
    {setup : Setup ε} {position : Position} (trail : setup.Trail position)
    (closed : Closed setup.document) {node : Node} {decision : Decision}
    (enters : setup.Enters position node)
    (decided : Decision.resolve setup.document setup.context node = .ok (some decision))
    (step : Step) :
    setup.Trail (position.advance step decision.target) := by
  have last := Setup.Trail.leadsWithin closed enters decided
  constructor
  · rw [← Document.sources_followableLinks]
    exact last.2
  · intro id member
    rcases List.mem_cons.mp member with rfl | earlier
    · exact trail.known
    · exact trail.visited id earlier
  · exact List.nodup_cons.mpr ⟨enters.fresh, trail.distinct⟩
  · intro id member
    rcases List.mem_cons.mp member with rfl | earlier
    · exact .single last
    · exact (trail.leads id earlier).tail last

theorem Setup.Trail.length_visited_lt
    {setup : Setup ε} {position : Position} (trail : setup.Trail position)
    (fresh : position.id ∉ position.visited) :
    position.visited.length < setup.document.nodes.length := by
  have distinct : (position.id :: position.visited).Nodup :=
    List.nodup_cons.mpr ⟨fresh, trail.distinct⟩
  have within : (position.id :: position.visited).length ≤ setup.document.nodeIds.length := by
    apply distinct.length_le_of_subset
    intro id member
    rcases List.mem_cons.mp member with rfl | earlier
    · exact trail.known
    · exact trail.visited id earlier
  rw [Document.nodeIds, List.length_map] at within
  exact within

/-!
## How runs along trails end
-/

/-- A run that fails has come round a cycle, or may not make a step at every node. -/
theorem Walks.failure_of_trail
    {setup : Setup ε} {position : Position} {run : Run ε} (walks : Walks setup position run)
    (closed : Closed setup.document) (trail : setup.Trail position)
    {error : ErrorRecord} (fails : run.ending.error? = some error) :
    (error.code = "CYCLE_DETECTED" ∧ ¬setup.document.followableLinks.Acyclic) ∨
      (error.code = "STEP_LIMIT_EXCEEDED" ∧ setup.limit < setup.document.nodes.length) := by
  induction walks with
  | @revisit position seen =>
      cases fails
      refine Or.inl ⟨rfl, ?_⟩
      intro acyclic
      exact acyclic position.id (trail.leads position.id seen)
  | @ceiling position fresh reached =>
      cases fails
      exact Or.inr ⟨rfl, Nat.lt_of_le_of_lt reached (trail.length_visited_lt fresh)⟩
  | unknown _ _ absent =>
      exact absurd trail.known (Document.node?_eq_none_iff.mp absent)
  | rest =>
      rw [Setup.error?_restingEnd] at fails
      cases fails
  | onward enters decided later ih =>
      exact ih (trail.advance closed enters decided _) fails

theorem Walks.rests
    {setup : Setup ε} {position : Position} {run : Run ε} (walks : Walks setup position run)
    (succeeds : run.ending.error? = none) :
    ∃ node ∈ setup.document.nodes,
      (run.steps.map (·.nodeId)).getLast? = some node.id ∧
        Decision.resolve setup.document setup.context node = .ok none ∧
        run.ending = setup.restingEnd node := by
  induction walks with
  | revisit | ceiling | unknown =>
      cases succeeds
  | @rest position node enters decided =>
      exact ⟨node, Document.node?_mem enters.found, rfl, decided, rfl⟩
  | onward enters decided later ih =>
      rcases ih succeeds with ⟨node, member, last, decidedThere, ends⟩
      refine ⟨node, member, ?_, decidedThere, ends⟩
      rw [List.map_cons, List.getLast?_cons, last]
      rfl

theorem Setup.outgoing_of_undecided
    {setup : Setup ε} {node : Node} (member : node ∈ setup.document.nodes)
    (otherwise : ∀ node ∈ setup.document.nodes, ∀ branches, node.branches? = some branches →
      ∃ edge, Document.tagged? (setup.document.outgoing node.id) BranchTag.otherwise = some edge)
    (undecided : Decision.resolve setup.document setup.context node = .ok none) :
    node.kind ≠ .condition ∧ setup.document.outgoing node.id = [] ∧
      setup.restingEnd node = .completed := by
  cases held : node.branches? with
  | some branches =>
      rcases otherwise node member branches held with ⟨edge, tagged⟩
      rw [Decision.tagged?_otherwise_of_resolve held undecided] at tagged
      cases tagged
  | none =>
      refine ⟨?_, Decision.outgoing_eq_nil_of_resolve held undecided, ?_⟩
      · intro condition
        unfold Node.kind at condition
        unfold Node.branches? at held
        split at held
        · cases held
        · rename_i other
          split at condition
          · cases condition
          · rename_i branches body
            exact other branches body
          · cases condition
      · unfold Setup.restingEnd
        rw [held]

/-!
## Accounts of runs from the start

Each of the following is what one more thing that is known of a document says about its plain runs.
-/

namespace Setup.Plain

variable {setup : Setup ε} {start : Node}

theorem failure_of_closed
    (plain : setup.Plain) (closed : Closed setup.document)
    (starts : setup.document.start? = some start) {trace : Trace} (tells : trace.Tells setup.run)
    {code : String} (fails : trace.FailsWith code) :
    (code = "CYCLE_DETECTED" ∧ ¬setup.document.followableLinks.Acyclic) ∨
      (code = "STEP_LIMIT_EXCEEDED" ∧ setup.limit < setup.document.nodes.length) := by
  rcases fails with ⟨error, failed, rfl⟩
  rw [tells.error] at failed
  rcases plain.run_cases with ⟨startless, _⟩ | ⟨node, first, walks⟩
  · rw [starts] at startless
    cases startless
  · exact walks.failure_of_trail closed (.start first) failed

theorem yields_of_closed
    (plain : setup.Plain) (closed : Closed setup.document)
    (starts : setup.document.start? = some start) :
    setup.Yields fun trace =>
      ¬trace.FailsWith "NO_START_NODE" ∧ ¬trace.FailsWith "NODE_NOT_FOUND" := by
  apply plain.yields
  intro trace tells
  constructor
  · intro fails
    rcases plain.failure_of_closed closed starts tells fails with ⟨other, _⟩ | ⟨other, _⟩
    · simp at other
    · simp at other
  · intro fails
    rcases plain.failure_of_closed closed starts tells fails with ⟨other, _⟩ | ⟨other, _⟩
    · simp at other
    · simp at other

theorem yields_of_acyclic
    (plain : setup.Plain) (closed : Closed setup.document)
    (starts : setup.document.start? = some start)
    (acyclic : setup.document.followableLinks.Acyclic) :
    setup.Yields fun trace => ¬trace.FailsWith "CYCLE_DETECTED" := by
  apply plain.yields
  intro trace tells fails
  rcases plain.failure_of_closed closed starts tells fails with ⟨_, cyclic⟩ | ⟨other, _⟩
  · exact cyclic acyclic
  · simp at other

theorem succeeds_of_acyclic
    (plain : setup.Plain) (closed : Closed setup.document)
    (starts : setup.document.start? = some start)
    (acyclic : setup.document.followableLinks.Acyclic)
    (enough : setup.document.nodes.length ≤ setup.limit) {trace : Trace}
    (tells : trace.Tells setup.run) :
    trace.error = none := by
  cases failed : trace.error with
  | none =>
      rfl
  | some error =>
      rcases plain.failure_of_closed closed starts tells ⟨error, failed, rfl⟩ with
        ⟨_, cyclic⟩ | ⟨_, few⟩
      · exact absurd acyclic cyclic
      · exact absurd enough (Nat.not_le_of_lt few)

theorem yields_success
    (plain : setup.Plain) (closed : Closed setup.document)
    (starts : setup.document.start? = some start)
    (acyclic : setup.document.followableLinks.Acyclic)
    (enough : setup.document.nodes.length ≤ setup.limit) :
    setup.Yields fun trace => trace.success = true := by
  apply plain.yields
  intro trace tells
  rw [Trace.success, plain.succeeds_of_acyclic closed starts acyclic enough tells]
  rfl

theorem yields_completion
    (plain : setup.Plain) (closed : Closed setup.document)
    (starts : setup.document.start? = some start)
    (acyclic : setup.document.followableLinks.Acyclic)
    (enough : setup.document.nodes.length ≤ setup.limit)
    (otherwise : ∀ node ∈ setup.document.nodes, ∀ branches, node.branches? = some branches →
      ∃ edge,
        Document.tagged? (setup.document.outgoing node.id) BranchTag.otherwise = some edge) :
    setup.Yields fun trace =>
      trace.summary.terminatedBy = "completed" ∧
        ∃ node ∈ setup.document.nodes, trace.path.getLast? = some node.id ∧
          node.kind ≠ .condition ∧ setup.document.outgoing node.id = [] := by
  apply plain.yields
  intro trace tells
  have succeeds := plain.succeeds_of_acyclic closed starts acyclic enough tells
  rw [tells.error] at succeeds
  rcases plain.run_cases with ⟨startless, _⟩ | ⟨_, _, walks⟩
  · rw [starts] at startless
    cases startless
  · rcases walks.rests succeeds with ⟨node, member, last, undecided, ends⟩
    rcases Setup.outgoing_of_undecided member otherwise undecided with ⟨kind, leaving, completed⟩
    constructor
    · rw [tells.terminatedBy, ends, completed]
      rfl
    · refine ⟨node, member, ?_, kind, leaving⟩
      rw [Trace.path, tells.steps]
      exact last

end Setup.Plain

/-- A value with a sound verdict is taken in as a document, strict or not, and its plain runs do not
lack a start or a node. Without a cycle they come to an end if the limit allows as many steps as
there are nodes. If conditions have edges for the other case too, that end is complete. -/
theorem execute_of_sound_verdict
    {value : Json} {verdict : Verdict} (judged : Check.verdict value = .ok verdict)
    (sound : verdict.ok = true) :
    ∃ document, verdict.graph? = some document ∧
      (∀ strict, Document.load strict value = .ok document) ∧
      ∀ {ε : Type} (setup : Setup ε), setup.Plain → setup.document = document →
        (setup.Yields fun trace =>
          ¬trace.FailsWith "NO_START_NODE" ∧ ¬trace.FailsWith "NODE_NOT_FOUND") ∧
        (¬verdict.Reports "CFG_LOOP_DETECTED" →
          (setup.Yields fun trace => ¬trace.FailsWith "CYCLE_DETECTED") ∧
          (document.nodes.length ≤ setup.limit →
            (setup.Yields fun trace => trace.success = true) ∧
            (¬verdict.Reports "CONDITION_NO_ELSE" →
              setup.Yields fun trace =>
                trace.summary.terminatedBy = "completed" ∧
                  ∃ node ∈ document.nodes, trace.path.getLast? = some node.id ∧
                    node.kind ≠ .condition ∧ document.outgoing node.id = []))) := by
  rcases Check.exists_document_of_ok judged sound with
    ⟨payload, notes, document, rfl, read, judges⟩
  have ends : ∀ edge ∈ document.edges,
      edge.source ∈ document.nodeIds ∧ edge.target ∈ document.nodeIds :=
    fun edge member => judges.closed sound member
  have closed : Closed document := fun edge member => (ends edge member).2
  rcases judges.exists_start sound with ⟨start, starts⟩
  refine ⟨document, ?_, ?_, ?_⟩
  · rw [Verdict.graph?, if_pos sound]
    exact judges.held
  · intro strict
    rw [Document.load, Document.ofInput, read]
    exact Document.checkStrict_of_closed ends strict
  rintro ε setup plain rfl
  refine ⟨plain.yields_of_closed closed starts, ?_⟩
  intro loopless
  have acyclic := judges.acyclic loopless
  refine ⟨plain.yields_of_acyclic closed starts acyclic, ?_⟩
  intro enough
  refine ⟨plain.yields_success closed starts acyclic enough, ?_⟩
  intro complete
  apply plain.yields_completion closed starts acyclic enough
  intro node member branches held
  exact judges.exists_otherwise complete member held

theorem exists_verdict_crossroads :
    ∃ verdict, Check.verdict crossroads.payload = .ok verdict ∧
      verdict.document = some crossroads ∧
      ∀ finding ∈ verdict.findings, ∃ id start, finding = .unreachable id start := by
  have formed : Canonical.normalize? (crossroads.toFields .saved) =
      .ok (crossroads.toFields .saved, []) := rfl
  have read : Document.ofFields (crossroads.toFields .saved) = .ok crossroads := rfl
  have checked : Check.edgeFindings crossroads = .ok [] := rfl
  have writable : crossroads.payload.writable = true := by decide +kernel
  have whole : crossroads.payload.whole = true := by decide +kernel
  rcases Check.exists_hash writable whole with ⟨text, hashed⟩
  rcases Check.exists_judges formed read checked hashed with ⟨verdict, judged, judges⟩
  refine ⟨verdict, judged, judges.held, ?_⟩
  have cycle : crossroads.flow.cycle = none := by
    show Links.findCycle [("check", ["done", "stop"]), ("done", []), ("stop", [])]
      ["check", "done", "stop"] = none
    cbv
  have oneStart : Check.startFindings crossroads crossroads.flow = [] := rfl
  rcases judges.found with ⟨edges, same, found⟩
  rw [checked, Except.ok.injEq] at same
  rw [found, ← same, Check.flowFindings, cycle, oneStart]
  intro finding member
  have aboutReach : finding ∈ Check.unreachableFindings crossroads crossroads.flow := by
    simpa using member
  rcases Check.mem_unreachableFindings aboutReach with ⟨id, start, is, _⟩
  exact ⟨id, start, is⟩

theorem execute_of_sound_verdict_crossing :
    ∃ verdict, Check.verdict crossroads.payload = .ok verdict ∧ verdict.ok = true ∧
      crossing.Yields fun trace =>
        trace.summary.terminatedBy = "completed" ∧
          ∃ node ∈ crossroads.nodes, trace.path.getLast? = some node.id ∧
            node.kind ≠ .condition ∧ crossroads.outgoing node.id = [] := by
  rcases exists_verdict_crossroads with ⟨verdict, judged, held, found⟩
  have sound : verdict.ok = true := by
    rw [Verdict.ok, Verdict.errors, Verdict.diagnostics, List.isEmpty_iff, List.filter_eq_nil_iff]
    intro diagnostic member
    rcases List.mem_map.mp member with ⟨finding, among, rfl⟩
    rcases found finding among with ⟨id, start, rfl⟩
    simp [Finding.diagnostic]
  have silent : ∀ code, code ≠ "CFG_UNREACHABLE_NODE" → ¬verdict.Reports code := by
    rintro code other ⟨diagnostic, member, rfl⟩
    rcases List.mem_map.mp member with ⟨finding, among, rfl⟩
    rcases found finding among with ⟨id, start, rfl⟩
    exact other rfl
  rcases execute_of_sound_verdict judged sound with ⟨document, graph, _, runs⟩
  have same : document = crossroads := by
    rw [Verdict.graph?, if_pos sound, held, Option.some.injEq] at graph
    exact graph.symm
  subst same
  rcases runs crossing crossing_plain rfl with ⟨_, loopless⟩
  rcases loopless (silent _ (by decide)) with ⟨_, enough⟩
  rcases enough (by decide) with ⟨_, complete⟩
  exact ⟨verdict, judged, sound, complete (silent _ (by decide))⟩

end Walk
end WorkflowWalk
