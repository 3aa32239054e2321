import WorkflowWalk.Flow.Report
import WorkflowWalk.Proofs.Check.Flow
import WorkflowWalk.Proofs.Flow.Paths
import WorkflowWalk.Proofs.Walk.Account

/-!
# What can be said of runs beforehand

The flow and the paths of a document are found without a context. Whatever the context is, a plain
run comes only to ids that count as reachable, and it walks along one of the paths.
-/

namespace WorkflowWalk
namespace Walk

variable {ε : Type}

/-!
## Runs come only to reachable ids
-/

theorem Setup.Enters.leads
    {setup : Setup ε} {position : Position} {node : Node} {decision : Decision}
    (enters : setup.Enters position node)
    (decided : Decision.resolve setup.document setup.context node = .ok (some decision)) :
    setup.document.followableLinks.Leads position.id decision.target :=
  Document.leads_followableLinks.mpr
    ⟨node, enters.found, Decision.target_mem_followableTargets decided⟩

theorem Walks.reaches
    {setup : Setup ε} {position : Position} {run : Run ε} (walks : Walks setup position run)
    {start : String} (reached : setup.document.followableLinks.Reaches start position.id)
    {step : Step} (member : step ∈ run.steps) :
    setup.document.followableLinks.Reaches start step.nodeId := by
  induction walks with
  | revisit | ceiling | unknown =>
      cases member
  | rest enters decided =>
      rw [List.mem_singleton.mp member, Setup.nodeId_stepAt, enters.id_eq]
      exact reached
  | onward enters decided later ih =>
      rcases List.mem_cons.mp member with rfl | among
      · rw [Setup.nodeId_stepAt, enters.id_eq]
        exact reached
      · exact ih (reached.tail (enters.leads decided)) among

theorem Walks.reaches_failure
    {setup : Setup ε} {position : Position} {run : Run ε} (walks : Walks setup position run)
    {start : String} (reached : setup.document.followableLinks.Reaches start position.id)
    {id : String} (concerns : run.ending.error?.bind (·.nodeId) = some id) :
    setup.document.followableLinks.Reaches start id := by
  induction walks with
  | revisit | ceiling | unknown =>
      cases concerns
      exact reached
  | rest =>
      rw [Setup.error?_restingEnd] at concerns
      cases concerns
  | onward enters decided later ih =>
      exact ih (reached.tail (enters.leads decided)) concerns

/-!
## Runs walk along paths

A run takes the same turns as one of the paths, but it may stop before the path is at its end: at
the limit of steps, or at a condition of which another branch could be followed.
-/

def Run.ids (run : Run ε) : List String :=
  run.steps.map (·.nodeId)

/-- The path that a run over some ids has come to the end of, if it has. -/
def Ending.path? (ids : List String) : Ending ε → Option Path
  | .completed => some ⟨ids, false⟩
  | .failed (.nodeNotFound id) => some ⟨ids ++ [id], false⟩
  | .failed (.cycleDetected id) => some ⟨ids ++ [id], true⟩
  | _ => none

theorem Setup.followableTargets_of_completed
    {setup : Setup ε} {node : Node}
    (decided : Decision.resolve setup.document setup.context node = .ok none)
    (completed : setup.restingEnd node = .completed) :
    setup.document.followableTargets node = [] := by
  apply Document.followableTargets_eq_nil_of_outgoing
  cases held : node.branches? with
  | none =>
      exact Decision.outgoing_eq_nil_of_resolve held decided
  | some branches =>
      cases leaving : setup.document.outgoing node.id with
      | nil =>
          rfl
      | cons first rest =>
          simp [Setup.restingEnd, held, leaving] at completed

/-- A run that comes after some ids goes along a path, to its end if the run has come to one. -/
def Run.Along (run : Run ε) (before : List String) (path : Path) : Prop :=
  before ++ run.ids <+: path.nodeIds ∧
    ∀ whole, run.ending.path? (before ++ run.ids) = some whole → whole = path

theorem Setup.Enters.along_rest
    {setup : Setup ε} {position : Position} {node : Node} (enters : setup.Enters position node)
    (decided : Decision.resolve setup.document setup.context node = .ok none) :
    ∃ path, setup.document.Extends position.visited position.id path ∧
      Run.Along ⟨[setup.stepAt position node none], setup.restingEnd node⟩
        position.visited.reverse path := by
  have here : position.visited.reverse ++ Run.ids ⟨[setup.stepAt position node none],
      setup.restingEnd node⟩ = (position.id :: position.visited).reverse := by
    rw [List.reverse_cons, ← enters.id_eq]
    rfl
  unfold Run.Along
  rw [here]
  cases ends : setup.restingEnd node with
  | completed =>
      have sink := Setup.followableTargets_of_completed decided ends
      refine ⟨_, .rest enters.fresh enters.found sink, List.prefix_rfl, ?_⟩
      intro whole closed
      cases closed
      rfl
  | noMatchingBranch =>
      rcases setup.document.exists_extends position.visited position.id with ⟨path, extension⟩
      refine ⟨path, extension, extension.isPrefix, ?_⟩
      intro whole closed
      cases closed
  | failed | faulted | interrupted =>
      rw [Setup.restingEnd] at ends
      split at ends <;> cases ends

theorem Walks.along
    {setup : Setup ε} {position : Position} {run : Run ε} (walks : Walks setup position run) :
    ∃ path, setup.document.Extends position.visited position.id path ∧
      run.Along position.visited.reverse path := by
  induction walks with
  | @revisit position seen =>
      refine ⟨_, .revisit seen, ?_, ?_⟩
      · simp [Run.ids]
      · intro whole closed
        simpa [Run.ids, Ending.path?] using closed.symm
  | @ceiling position fresh reached =>
      rcases setup.document.exists_extends position.visited position.id with ⟨path, extension⟩
      refine ⟨path, extension, ?_, ?_⟩
      · have begins := extension.isPrefix
        rw [List.reverse_cons] at begins
        rw [Run.ids, List.map_nil, List.append_nil]
        exact (List.prefix_append _ _).trans begins
      · intro whole closed
        cases closed
  | @unknown position fresh below absent =>
      refine ⟨_, .unknown fresh absent, ?_, ?_⟩
      · simp [Run.ids]
      · intro whole closed
        simpa [Run.ids, Ending.path?] using closed.symm
  | rest enters decided =>
      exact enters.along_rest decided
  | @onward position node decision run enters decided later ih =>
      have further : position.visited.reverse ++ Run.ids ⟨setup.stepAt position node
          (some decision) :: run.steps, run.ending⟩ =
            (position.id :: position.visited).reverse ++ run.ids := by
        rw [List.reverse_cons, List.append_assoc, ← enters.id_eq]
        rfl
      rcases ih with ⟨path, extension, begins, closes⟩
      have leads := Decision.target_mem_followableTargets decided
      refine ⟨path, .onward enters.fresh enters.found leads extension, ?_⟩
      unfold Run.Along
      rw [further]
      exact ⟨begins, closes⟩

/-!
## Accounts of runs
-/

structure Trace.ListedIn (trace : Trace) (paths : List Path) : Prop where
  completed : trace.summary.terminatedBy = "completed" → ⟨trace.path, false⟩ ∈ paths
  unknown : trace.FailsWith "NODE_NOT_FOUND" →
    ∃ id, trace.failedAt? = some id ∧ ⟨trace.path ++ [id], false⟩ ∈ paths
  repeated : trace.FailsWith "CYCLE_DETECTED" →
    ∃ id, trace.failedAt? = some id ∧ ⟨trace.path ++ [id], true⟩ ∈ paths
  stopped : trace.summary.terminatedBy = "no_matching_branch" →
    ∃ path ∈ paths, trace.path <+: path.nodeIds

structure Trace.CoveredBy (trace : Trace) (document : Document) : Prop where
  start : document.flow.start = trace.path.head?
  reported : ∀ limit, (document.report limit).start = trace.path.head?
  startless : document.flow.start = none ↔ trace.FailsWith "NO_START_NODE"
  pathless : document.flow.start = none → ∀ limit, document.paths limit none = ([], false)
  visited : ∀ id ∈ trace.path, id ∈ document.flow.reachable
  failed : trace.FailsWith "CYCLE_DETECTED" ∨ trace.FailsWith "NODE_NOT_FOUND" →
    ∃ id, trace.failedAt? = some id ∧ id ∈ document.flow.reachable
  unreachable : ∀ finding ∈ Check.flowFindings document document.flow,
    finding.diagnostic.code = "CFG_UNREACHABLE_NODE" →
      ∀ id, finding.diagnostic.nodeId = some id → id ∉ trace.path
  listed : ∀ limit, (document.paths limit none).2 = false →
    trace.ListedIn (document.paths limit none).1

theorem Walks.code_ne_noStartNode
    {setup : Setup ε} {position : Position} {run : Run ε} (walks : Walks setup position run)
    {error : ErrorRecord} (fails : run.ending.error? = some error) :
    error.code ≠ "NO_START_NODE" := by
  induction walks with
  | revisit | ceiling | unknown =>
      cases fails
      simp [Failure.record, ErrorKind.code]
  | rest =>
      rw [Setup.error?_restingEnd] at fails
      cases fails
  | onward _ _ _ ih =>
      exact ih fails

theorem Walks.listedIn
    {setup : Setup ε} {start : Node} {run : Run ε}
    (walks : Walks setup (.start start.id) run) (own : run.ending.OfItself)
    {trace : Trace} (tells : trace.Tells run) :
    trace.ListedIn (setup.document.allPaths start.id) := by
  rcases walks.along with ⟨along, extension, begins, closes⟩
  have listed : along ∈ setup.document.allPaths start.id := Document.mem_extensions.mpr extension
  have whole : (Position.start start.id).visited.reverse ++ run.ids = trace.path :=
    congrArg (List.map Step.nodeId) tells.steps.symm
  rw [whole] at begins closes
  constructor
  · intro called
    rw [tells.terminatedBy] at called
    rw [own.eq_completed called] at closes
    rw [closes _ rfl]
    exact listed
  · intro fails
    rcases tells.failed_at own .nodeNotFound nofun fails with ⟨id, _, ends, ⟨⟩, concerns⟩
    refine ⟨id, concerns, ?_⟩
    rw [ends] at closes
    rw [closes _ rfl]
    exact listed
  · intro fails
    rcases tells.failed_at own .cycleDetected nofun fails with ⟨id, _, ends, ⟨⟩, concerns⟩
    refine ⟨id, concerns, ?_⟩
    rw [ends] at closes
    rw [closes _ rfl]
    exact listed
  · intro _
    exact ⟨along, listed, begins⟩

theorem Walks.coveredBy
    {setup : Setup ε} {start : Node} {run : Run ε}
    (walks : Walks setup (.start start.id) run) (enters : setup.Enters (.start start.id) start)
    (starts : setup.document.start? = some start) (own : run.ending.OfItself)
    {trace : Trace} (tells : trace.Tells run) :
    trace.CoveredBy setup.document := by
  have first : setup.document.flow.start = some start.id := by
    rw [Document.flow_start, starts]
    rfl
  have head : trace.path.head? = some start.id := by
    rw [Trace.path, tells.steps]
    exact walks.head?_path enters
  have visited : ∀ id ∈ trace.path, id ∈ setup.document.flow.reachable := by
    intro id member
    rw [Trace.path, tells.steps] at member
    rcases List.mem_map.mp member with ⟨step, made, rfl⟩
    exact (Document.mem_flow_reachable starts).mpr (walks.reaches .refl made)
  constructor
  · rw [first, head]
  · intro limit
    rw [head, ← first, Document.flow_start]
    rfl
  · rw [first]
    constructor
    · intro absent
      cases absent
    · rintro ⟨error, failed, code⟩
      rw [tells.error] at failed
      exact absurd code (walks.code_ne_noStartNode failed)
  · intro absent
    rw [first] at absent
    cases absent
  · exact visited
  · intro fails
    have concerned : ∃ id, trace.failedAt? = some id := by
      rcases fails with repeated | unknown
      · rcases tells.failed_at own .cycleDetected nofun repeated with ⟨id, _, _, _, concerns⟩
        exact ⟨id, concerns⟩
      · rcases tells.failed_at own .nodeNotFound nofun unknown with ⟨id, _, _, _, concerns⟩
        exact ⟨id, concerns⟩
    rcases concerned with ⟨id, concerns⟩
    refine ⟨id, concerns, ?_⟩
    rw [Trace.failedAt?, tells.error] at concerns
    exact (Document.mem_flow_reachable starts).mpr (walks.reaches_failure .refl concerns)
  · intro finding member code id reported among
    exact Check.not_mem_reachable_of_reported member code reported (visited id among)
  · intro limit whole
    rw [Document.paths_of_start? starts] at whole ⊢
    rw [Document.pathsFrom_eq_allPaths whole]
    exact walks.listedIn own tells

theorem Trace.coveredBy_of_startless
    {document : Document} (startless : document.start? = none) {trace : Trace}
    (tells : trace.Tells (⟨[], .failed .noStartNode⟩ : Run ε)) :
    trace.CoveredBy document := by
  have absent : document.flow.start = none := by
    rw [Document.flow_start, startless]
    rfl
  have nowhere : trace.path = [] := by
    rw [Trace.path, tells.steps]
    rfl
  have failure : trace.error = some (Failure.record .noStartNode) := tells.error
  have only : ∀ code, trace.FailsWith code → code = "NO_START_NODE" := by
    rintro code ⟨error, failed, rfl⟩
    rw [failure] at failed
    cases failed
    rfl
  constructor
  · rw [absent, nowhere]
    rfl
  · intro limit
    rw [nowhere, List.head?_nil, ← absent, Document.flow_start]
    rfl
  · exact iff_of_true absent ⟨_, failure, rfl⟩
  · intro _ limit
    exact Document.paths_of_startless startless limit
  · intro id member
    rw [nowhere] at member
    cases member
  · rintro (fails | fails)
    · exact absurd (only _ fails) (by decide)
    · exact absurd (only _ fails) (by decide)
  · intro finding _ _ id _ member
    rw [nowhere] at member
    cases member
  · intro limit _
    constructor
    · intro called
      rw [tells.terminatedBy] at called
      exact absurd called (ErrorKind.lower_code .noStartNode).1
    · intro fails
      exact absurd (only _ fails) (by decide)
    · intro fails
      exact absurd (only _ fails) (by decide)
    · intro called
      rw [tells.terminatedBy] at called
      exact absurd called (ErrorKind.lower_code .noStartNode).2

/-- Whatever the context, a plain run is covered by what is found out about the document. -/
theorem execute_covered
    {setup : Setup ε} (plain : setup.Plain) :
    (∃ enough, ∀ limit, enough ≤ limit → (setup.document.paths limit none).2 = false) ∧
      setup.Yields fun trace => trace.CoveredBy setup.document := by
  refine ⟨Document.exists_enough_paths setup.document, ?_⟩
  apply plain.yields
  intro trace tells
  rcases plain.run_cases with ⟨startless, runs⟩ | ⟨start, starts, walks⟩
  · rw [runs] at tells
    exact Trace.coveredBy_of_startless startless tells
  · exact walks.coveredBy (plain.enters_start starts) starts plain.ofItself tells

theorem execute_covered_crossing :
    crossing.Plain ∧ (∃ enough, ∀ limit, enough ≤ limit → (crossroads.paths limit none).2 = false) ∧
      crossing.Yields fun trace => trace.CoveredBy crossroads :=
  ⟨crossing_plain, execute_covered crossing_plain⟩

end Walk
end WorkflowWalk
