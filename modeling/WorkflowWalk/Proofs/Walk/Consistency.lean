import WorkflowWalk.Proofs.Document.Outline
import WorkflowWalk.Proofs.Walk.Bounds
import WorkflowWalk.Proofs.Walk.Coverage
import WorkflowWalk.Proofs.Walk.Faults
import WorkflowWalk.Proofs.Walk.Soundness
import WorkflowWalk.Proofs.Walk.Summary

/-!
# Consistent accounts

An account is put together from the steps of a run, from how the run ended, and from a summary of
the steps. The three parts agree: the steps form one row, the end is told by the last of them, and
the summary repeats what the steps say. That no branch is lost among those taken is so because no
node is visited twice.
-/

namespace WorkflowWalk
namespace Walk

variable {ε : Type}

/-!
## Steps in a row
-/

def Step.LeadsTo (step after : Step) : Prop :=
  step.next = some after.nodeId

theorem Walks.nodeId_of_head?
    {setup : Setup ε} {position : Position} {run : Run ε} (walks : Walks setup position run)
    {step : Step} (first : run.steps.head? = some step) :
    step.nodeId = position.id := by
  cases walks with
  | revisit | ceiling | unknown =>
      cases first
  | rest enters | onward enters =>
      cases first
      exact enters.id_eq

theorem Walks.isChain
    {setup : Setup ε} {position : Position} {run : Run ε} (walks : Walks setup position run) :
    run.steps.IsChain Step.LeadsTo := by
  induction walks with
  | revisit | ceiling | unknown =>
      exact List.isChain_nil
  | rest =>
      exact List.isChain_singleton _
  | onward enters decided later ih =>
      refine List.isChain_cons.mpr ⟨?_, ih⟩
      intro after first
      rw [Step.LeadsTo, later.nodeId_of_head? first]
      rfl

theorem Walks.index
    {setup : Setup ε} {position : Position} {run : Run ε} (walks : Walks setup position run) :
    run.steps.map (·.index) = List.range' (position.visited.length + 1) run.steps.length := by
  induction walks with
  | revisit | ceiling | unknown =>
      rfl
  | rest =>
      rfl
  | onward enters decided later ih =>
      rw [List.map_cons, ih, List.length_cons, List.range'_succ]
      rfl

/-!
## The last step and the end
-/

/-- A failure concerns the id that the last step leads to. Where no step is made, it concerns the id
at which the run stands. -/
theorem Walks.concerns
    {setup : Setup ε} {position : Position} {run : Run ε} (walks : Walks setup position run) :
    run.ending.error?.bind (·.nodeId) = run.steps.getLast?.elim (some position.id) (·.next) := by
  induction walks with
  | revisit | ceiling | unknown =>
      rfl
  | rest =>
      rw [Setup.error?_restingEnd]
      rfl
  | onward enters decided later ih =>
      rw [ih, List.getLast?_cons]
      cases (Run.steps _).getLast? <;> rfl

theorem Walks.exists_id_of_fails
    {setup : Setup ε} {position : Position} {run : Run ε} (walks : Walks setup position run)
    {error : ErrorRecord} (fails : run.ending.error? = some error) :
    ∃ id, error.nodeId = some id := by
  induction walks with
  | revisit | ceiling | unknown =>
      cases fails
      exact ⟨_, rfl⟩
  | rest =>
      rw [Setup.error?_restingEnd] at fails
      cases fails
  | onward _ _ _ ih =>
      exact ih fails

theorem Walks.error?_eq_none_iff
    {setup : Setup ε} {position : Position} {run : Run ε} (walks : Walks setup position run)
    {last : Step} (isLast : run.steps.getLast? = some last) :
    run.ending.error? = none ↔ last.next = none := by
  have concerns := walks.concerns
  rw [isLast, Option.elim_some] at concerns
  rw [← concerns]
  cases fails : run.ending.error? with
  | none =>
      exact iff_of_true rfl rfl
  | some error =>
      rcases walks.exists_id_of_fails fails with ⟨id, concerned⟩
      simp [concerned]

theorem Setup.name_restingEnd (setup : Setup ε) (node : Node) :
    (setup.restingEnd node).name =
      if node.kind = .condition ∧ setup.document.outgoing node.id ≠ [] then "no_matching_branch"
      else "completed" := by
  have condition : node.kind = .condition ↔ node.branches?.isSome = true := by
    rw [Option.isSome_iff_exists, Node.kind_eq_condition_iff]
  have leaves : setup.document.outgoing node.id ≠ [] ↔
      (setup.document.outgoing node.id).isEmpty = false :=
    List.isEmpty_eq_false_iff.symm
  rw [Setup.restingEnd_eq]
  simp only [condition, leaves]
  split <;> rfl

theorem Ending.name_of_error?
    {ending : Ending ε} {error : ErrorRecord} (fails : ending.error? = some error) :
    ending.name = Text.lower error.code := by
  cases ending with
  | failed failure =>
      cases fails
      rfl
  | completed | noMatchingBranch | faulted | interrupted =>
      cases fails

/-!
## Accounts tell of runs
-/

theorem Run.tells_of_trace
    {run : Run ε} {context : Context} {limit : Nat} {trace : Trace}
    (told : run.trace context limit = .ok trace) :
    trace.Tells run ∧ ∀ node fault, run.ending ≠ .faulted node fault := by
  unfold Run.trace at told
  split at told
  · cases told
  · cases told
  · rename_i unfaulted _
    unfold Run.account at told
    cases summed : Summary.ofSteps run.steps run.ending.name with
    | ok summary =>
        rw [summed] at told
        cases told
        exact ⟨⟨rfl, rfl, summed⟩, fun node fault ends => unfaulted node fault ends⟩
    | error fault =>
        rw [summed] at told
        cases told

/-- An account of a run that nobody stops tells of a run that keeps to the rules, or of one without
a start. -/
theorem Setup.cases_of_execute
    {setup : Setup ε} (quiet : ∀ step, setup.observer step = .proceed) {trace : Trace}
    (executed : setup.execute = .ok trace) :
    trace.Tells setup.run ∧
      (setup.run = ⟨[], .failed .noStartNode⟩ ∨
        ∃ node, setup.document.start? = some node ∧ Walks setup (.start node.id) setup.run) := by
  rcases Run.tells_of_trace executed with ⟨tells, unfaulted⟩
  refine ⟨tells, ?_⟩
  rcases Setup.run_cases_of_quiet quiet with ⟨_, runs⟩ | ⟨node, starts, walks | falters⟩
  · exact Or.inl runs
  · exact Or.inr ⟨node, starts, walks⟩
  · rcases falters.exists_fault with ⟨there, fault, ends, _⟩
    exact absurd ends (unfaulted there fault)

/-!
## Consistency
-/

structure Trace.InRow (trace : Trace) : Prop where
  numbered : trace.steps.map (·.index) = List.range' 1 trace.steps.length
  linked : trace.steps.IsChain Step.LeadsTo

structure Trace.EndsWithLast (trace : Trace) (document : Document) : Prop where
  startless : trace.steps = [] ↔ trace.FailsWith "NO_START_NODE"
  success : ∀ last, trace.steps.getLast? = some last → (trace.success = true ↔ last.next = none)
  concerned : ∀ last, trace.steps.getLast? = some last → trace.failedAt? = last.next
  rested : trace.success = true →
    ∃ node, document.node? node.id = some node ∧ trace.path.getLast? = some node.id ∧
      trace.summary.terminatedBy =
        if node.kind = .condition ∧ document.outgoing node.id ≠ [] then "no_matching_branch"
        else "completed"

/-- A failure that an account tells of ends it under the failure's name, and what is raised is an
error of a kind that has its code. -/
structure Trace.Raises (trace : Trace) (error : ErrorRecord) : Prop where
  failed : trace.success = false
  called : trace.summary.terminatedBy = Text.lower error.code
  raised : ∃ raised, trace.raiseError = .error raised ∧ raised.kind ∈ ErrorKind.fatal ∧
    raised.kind.code = error.code ∧ raised.message = error.message ∧
    raised.nodeId = error.nodeId ∧ raised.trace = trace

structure Summary.Mirrors (summary : Summary) (steps : List Step) : Prop where
  total : summary.totalSteps = steps.length
  nodes : summary.nodePath = steps.map (·.nodeId)
  labels : summary.executionPath = steps.map (·.label)
  counts : summary.kindCounts = (steps.map (·.kind)).eraseDups.map fun kind =>
    (kind, (steps.map (·.kind)).count kind)
  counted : (summary.kindCounts.map Prod.snd).sum = summary.totalSteps
  branches : Summary.branchesJson summary.branchesTaken =
    .obj (steps.filterMap fun step => step.branch.map fun branch => (step.nodeId, .str branch))
  apart : ((steps.filter (·.branch.isSome)).map (·.nodeId)).Nodup

structure Trace.Consistent (trace : Trace) (document : Document) : Prop where
  row : trace.InRow
  ends : trace.EndsWithLast document
  quiet : trace.success = true → trace.raiseError = .ok ()
  raised : ∀ error, trace.error = some error → trace.Raises error
  mirrored : trace.summary.Mirrors trace.steps

theorem Summary.mirrors_of_ofSteps
    {steps : List Step} {name : String} {summary : Summary}
    (summed : Summary.ofSteps steps name = .ok summary)
    (distinct : (steps.map (·.nodeId)).Nodup) :
    summary.Mirrors steps := by
  rcases ok_of_map summed with ⟨duration, _, rfl⟩
  constructor
  case total | nodes | labels =>
    rfl
  case counts =>
    exact countKinds_eq _
  case counted =>
    show ((countKinds (steps.map (·.kind))).map Prod.snd).sum = steps.length
    rw [sum_countKinds, List.length_map]
  case branches =>
    show branchesJson (steps.filterMap branchOf?) = _
    rw [branchesJson_of_nodup distinct, List.map_filterMap]
    simp only [branchOf?, Option.map_map, Function.comp_def]
  case apart =>
    exact distinct.sublist (List.filter_sublist.map _)

theorem Trace.Tells.raises
    {trace : Trace} {run : Run ε} (tells : trace.Tells run) (own : run.ending.OfItself)
    {error : ErrorRecord} (failed : trace.error = some error) :
    trace.Raises error := by
  have fails : run.ending.error? = some error := by
    rw [← tells.error, failed]
  rcases own.error?_cases with succeeds | ⟨kind, fatal, other, found, code⟩
  · rw [fails] at succeeds
    cases succeeds
  · rw [fails] at found
    cases found
    have raised : error.kind = kind := by
      rw [ErrorRecord.kind, code, ErrorKind.ofCode_code]
    constructor
    case failed =>
      rw [Trace.success, failed]
      rfl
    case called =>
      rw [tells.terminatedBy, Ending.name_of_error? fails]
    case raised =>
      rw [Trace.raiseError, failed]
      refine ⟨_, rfl, ?_, ?_, rfl, rfl, rfl⟩
      · rw [raised]
        exact fatal
      · rw [raised, code]

theorem Trace.raiseError_of_success
    {trace : Trace} (succeeds : trace.success = true) :
    trace.raiseError = .ok () := by
  rw [Trace.success, Option.isNone_iff_eq_none] at succeeds
  rw [Trace.raiseError, succeeds]

theorem Trace.Tells.endsWithLast_of_startless
    {trace : Trace} (tells : trace.Tells (⟨[], .failed .noStartNode⟩ : Run ε))
    (document : Document) :
    trace.EndsWithLast document := by
  have failed : trace.error = some (Failure.record .noStartNode) := tells.error
  constructor
  · exact iff_of_true tells.steps ⟨_, failed, rfl⟩
  · intro last isLast
    rw [tells.steps] at isLast
    cases isLast
  · intro last isLast
    rw [tells.steps] at isLast
    cases isLast
  · intro succeeds
    rw [Trace.success, failed] at succeeds
    cases succeeds

theorem Walks.endsWithLast
    {setup : Setup ε} {position : Position} {run : Run ε} (walks : Walks setup position run)
    (stepped : run.steps ≠ []) {trace : Trace} (tells : trace.Tells run) :
    trace.EndsWithLast setup.document := by
  constructor
  · rw [tells.steps]
    refine iff_of_false stepped ?_
    rintro ⟨error, failed, code⟩
    rw [tells.error] at failed
    exact walks.code_ne_noStartNode failed code
  · intro last isLast
    rw [tells.steps] at isLast
    rw [Trace.success, Option.isNone_iff_eq_none, tells.error, walks.error?_eq_none_iff isLast]
  · intro last isLast
    rw [tells.steps] at isLast
    rw [Trace.failedAt?, tells.error, walks.concerns, isLast]
    rfl
  · intro succeeds
    rw [Trace.success, Option.isNone_iff_eq_none, tells.error] at succeeds
    rcases walks.rests succeeds with ⟨node, member, isLast, _, ends⟩
    refine ⟨node, Document.node?_of_mem member, ?_, ?_⟩
    · rw [Trace.path, tells.steps, isLast]
    · rw [tells.terminatedBy, ends, Setup.name_restingEnd]

/-- Every account of a run that nobody stops is consistent. -/
theorem execute_consistent
    {setup : Setup ε} (quiet : ∀ step, setup.observer step = .proceed)
    (positive : 1 ≤ setup.limit) {trace : Trace} (executed : setup.execute = .ok trace) :
    trace.Consistent setup.document := by
  rcases Setup.cases_of_execute quiet executed with ⟨tells, runs | ⟨start, starts, walks⟩⟩
  · rw [runs] at tells
    have noSteps : trace.steps = [] := tells.steps
    constructor
    · constructor
      · rw [noSteps]
        rfl
      · rw [noSteps]
        exact List.isChain_nil
    · exact tells.endsWithLast_of_startless setup.document
    · exact Trace.raiseError_of_success
    · intro error failed
      exact tells.raises trivial failed
    · rw [noSteps]
      exact Summary.mirrors_of_ofSteps tells.summed List.nodup_nil
  · have enters : setup.Enters (.start start.id) start :=
      ⟨List.not_mem_nil, positive, Document.node?_of_start? starts⟩
    have stepped : setup.run.steps ≠ [] := by
      intro none
      have first := walks.head?_path enters
      rw [none] at first
      cases first
    constructor
    · constructor
      · rw [tells.steps]
        exact walks.index
      · rw [tells.steps]
        exact walks.isChain
    · exact walks.endsWithLast stepped tells
    · exact Trace.raiseError_of_success
    · intro error failed
      exact tells.raises walks.ofItself failed
    · rw [tells.steps]
      exact Summary.mirrors_of_ofSteps tells.summed walks.nodup

theorem execute_consistent_crossing :
    1 ≤ crossing.limit ∧
      ∃ trace, crossing.execute = .ok trace ∧ trace.Consistent crossroads := by
  have told : crossing.Yields fun _ => True := crossing_plain.yields fun _ _ => trivial
  rcases told.exists_trace (Clock.uniform_const _) with ⟨trace, executed, _⟩
  exact ⟨by decide, trace, executed, execute_consistent (fun _ => rfl) (by decide) executed⟩

end Walk
end WorkflowWalk
