import WorkflowWalk.Proofs.Walk.Rules

/-!
# Accounts of plain runs

A plain run is never broken off, so there is an account of it unless its first and its last tick
cannot be compared. That is so only for a clock that gives some of its times with their distance
from universal time and some without.
-/

namespace WorkflowWalk
namespace Walk

variable {ε : Type}

/-!
## Clocks
-/

/-- Either all ticks of a clock that are points in time say how far they are from universal time, or
none of them does. -/
def Clock.Uniform (clock : Clock) : Prop :=
  ∃ fixed : Bool, ∀ tick instant,
    Time.Iso8601.read? (clock tick) = some instant → instant.offset.isSome = fixed

theorem Clock.uniform_const (text : String) :
    Clock.Uniform fun _ => text := by
  cases read : Time.Iso8601.read? text with
  | none =>
      refine ⟨true, ?_⟩
      intro _ instant found
      rw [read] at found
      cases found
  | some instant =>
      refine ⟨instant.offset.isSome, ?_⟩
      intro _ other found
      rw [read] at found
      cases found
      rfl

theorem Clock.Uniform.duration?
    {clock : Clock} (uniform : clock.Uniform) (first last : Nat) :
    ∃ time, Summary.duration? (some (clock first)) (some (clock last)) = .ok time := by
  rcases uniform with ⟨fixed, same⟩
  rw [Summary.duration?, Option.bind_some, Option.bind_some]
  cases started : Time.Iso8601.read? (clock first) with
  | none =>
      exact ⟨none, rfl⟩
  | some start =>
      cases finished : Time.Iso8601.read? (clock last) with
      | none =>
          exact ⟨none, rfl⟩
      | some finish =>
          have agree : start.offset.isSome = finish.offset.isSome := by
            rw [same first start started, same last finish finished]
          rcases start with ⟨startClock, startOffset⟩
          rcases finish with ⟨finishClock, finishOffset⟩
          cases startOffset <;> cases finishOffset
          · exact ⟨_, rfl⟩
          · cases agree
          · cases agree
          · exact ⟨_, rfl⟩

/-!
## Steps take their ticks from the clock
-/

theorem Walks.timestamp
    {setup : Setup ε} {position : Position} {run : Run ε} (walks : Walks setup position run)
    {step : Step} (member : step ∈ run.steps) :
    ∃ tick, step.timestamp = setup.clock tick := by
  induction walks with
  | revisit | ceiling | unknown =>
      cases member
  | @rest position node enters decided =>
      rw [List.mem_singleton] at member
      exact ⟨position.tick, by rw [member]; rfl⟩
  | @onward position node decision run enters decided later ih =>
      rcases List.mem_cons.mp member with rfl | among
      · exact ⟨position.tick, rfl⟩
      · exact ih among

theorem Setup.Plain.timestamp
    {setup : Setup ε} (plain : setup.Plain) {step : Step} (member : step ∈ setup.run.steps) :
    ∃ tick, step.timestamp = setup.clock tick := by
  rcases plain.run_cases with ⟨_, runs⟩ | ⟨node, _, walks⟩
  · rw [runs] at member
    cases member
  · exact walks.timestamp member

theorem exists_summary_of_ticks
    {clock : Clock} (uniform : clock.Uniform) {steps : List Step}
    (ticked : ∀ step ∈ steps, ∃ tick, step.timestamp = clock tick) (terminatedBy : String) :
    ∃ summary, Summary.ofSteps steps terminatedBy = .ok summary := by
  have timed :
      ∃ time, Summary.duration? (steps.head?.map (·.timestamp))
        (steps.getLast?.map (·.timestamp)) = .ok time := by
    cases steps with
    | nil =>
        exact ⟨none, rfl⟩
    | cons step rest =>
        have isLast := List.getLast_mem (List.cons_ne_nil step rest)
        rcases ticked step List.mem_cons_self with ⟨first, firstTick⟩
        rcases ticked _ isLast with ⟨last, lastTick⟩
        rw [List.head?_cons, List.getLast?_eq_some_getLast (List.cons_ne_nil _ _), Option.map_some,
          Option.map_some, firstTick, lastTick]
        exact uniform.duration? first last
  rcases timed with ⟨time, timed⟩
  exact ⟨_, by rw [Summary.ofSteps, timed]; rfl⟩

theorem Setup.Plain.summary
    {setup : Setup ε} (plain : setup.Plain) (uniform : setup.clock.Uniform)
    (terminatedBy : String) :
    ∃ summary, Summary.ofSteps setup.run.steps terminatedBy = .ok summary :=
  exists_summary_of_ticks uniform (fun _ member => plain.timestamp member) terminatedBy

/-!
## Accounts
-/

/-- The account of a run has a property. There is always an account, unless the clock is one whose
ticks cannot be compared with each other. -/
def Setup.Yields (setup : Setup ε) (holds : Trace → Prop) : Prop :=
  match setup.execute with
  | .ok trace => holds trace
  | .error (.clock _) => ¬setup.clock.Uniform
  | .error _ => False

/-- A run ended by itself: it came to an end or failed, and nobody made it fail or broke it off. -/
def Ending.OfItself : Ending ε → Prop
  | .failed (.reported _) | .faulted .. | .interrupted _ => False
  | _ => True

theorem Run.trace_eq_account
    {run : Run ε} (own : run.ending.OfItself) (context : Context) (limit : Nat) :
    run.trace context limit = run.account context limit := by
  rw [Run.trace]
  split
  · rename_i ends
    rw [ends] at own
    cases own
  · rename_i ends
    rw [ends] at own
    cases own
  · rfl

theorem Walks.ofItself
    {setup : Setup ε} {position : Position} {run : Run ε} (walks : Walks setup position run) :
    run.ending.OfItself := by
  induction walks with
  | revisit | ceiling | unknown =>
      trivial
  | rest =>
      rw [Setup.restingEnd]
      split <;> trivial
  | onward _ _ _ ih =>
      exact ih

theorem Setup.Plain.ofItself
    {setup : Setup ε} (plain : setup.Plain) :
    setup.run.ending.OfItself := by
  rcases plain.run_cases with ⟨_, runs⟩ | ⟨node, _, walks⟩
  · rw [runs]
    trivial
  · exact walks.ofItself

/-!
## What endings are called

A failure is called by its code in lower case, which is never what an end is called.
-/

theorem ErrorKind.code_injective :
    Function.Injective ErrorKind.code :=
  Function.LeftInverse.injective ErrorKind.ofCode_code

theorem ErrorKind.lower_code (kind : ErrorKind) :
    Text.lower kind.code ≠ "completed" ∧ Text.lower kind.code ≠ "no_matching_branch" := by
  cases kind <;> decide

theorem Ending.OfItself.error_code
    {ending : Ending ε} (own : ending.OfItself) {failure : Failure}
    (fails : ending = .failed failure) :
    ∃ kind : ErrorKind, failure.record.code = kind.code := by
  subst fails
  cases failure with
  | noStartNode =>
      exact ⟨.noStartNode, rfl⟩
  | nodeNotFound =>
      exact ⟨.nodeNotFound, rfl⟩
  | cycleDetected =>
      exact ⟨.cycleDetected, rfl⟩
  | stepLimitExceeded =>
      exact ⟨.stepLimitExceeded, rfl⟩
  | reported =>
      exact own.elim

theorem Ending.OfItself.eq_completed
    {ending : Ending ε} (own : ending.OfItself) (called : ending.name = "completed") :
    ending = .completed := by
  cases ending with
  | completed =>
      rfl
  | noMatchingBranch =>
      simp [Ending.name] at called
  | failed failure =>
      rcases own.error_code rfl with ⟨kind, code⟩
      rw [Ending.name, ErrorRecord.ending, code] at called
      exact absurd called kind.lower_code.1
  | faulted | interrupted =>
      exact own.elim

theorem Setup.error?_restingEnd (setup : Setup ε) (node : Node) :
    (setup.restingEnd node).error? = none := by
  rw [Setup.restingEnd]
  split <;> rfl

/-!
## From runs to accounts
-/

theorem Summary.terminatedBy_of_ofSteps
    {steps : List Step} {name : String} {summary : Summary}
    (summed : Summary.ofSteps steps name = .ok summary) :
    summary.terminatedBy = name := by
  rw [Summary.ofSteps] at summed
  cases timed : Summary.duration? (steps.head?.map (·.timestamp))
      (steps.getLast?.map (·.timestamp)) with
  | ok duration =>
      simp only [timed] at summed
      cases summed
      rfl
  | error fault =>
      simp only [timed] at summed
      cases summed

def Trace.FailsWith (trace : Trace) (code : String) : Prop :=
  ∃ error, trace.error = some error ∧ error.code = code

def Trace.failedAt? (trace : Trace) : Option String :=
  trace.error.bind (·.nodeId)

structure Trace.Tells (trace : Trace) (run : Run ε) : Prop where
  steps : trace.steps = run.steps
  error : trace.error = run.ending.error?
  summed : Summary.ofSteps run.steps run.ending.name = .ok trace.summary

theorem Trace.Tells.terminatedBy
    {trace : Trace} {run : Run ε} (tells : trace.Tells run) :
    trace.summary.terminatedBy = run.ending.name :=
  Summary.terminatedBy_of_ofSteps tells.summed

theorem Trace.Tells.failure
    {trace : Trace} {run : Run ε} (tells : trace.Tells run) {code : String}
    (fails : trace.FailsWith code) :
    ∃ failure, run.ending = .failed failure ∧ failure.record.code = code ∧
      trace.failedAt? = failure.record.nodeId := by
  rcases fails with ⟨error, failed, rfl⟩
  unfold Trace.failedAt?
  rw [tells.error] at failed ⊢
  rw [failed]
  cases ends : run.ending with
  | failed failure =>
      rw [ends] at failed
      cases failed
      exact ⟨failure, rfl, rfl, rfl⟩
  | completed | noMatchingBranch | faulted | interrupted =>
      rw [ends] at failed
      cases failed

inductive Failure.At : ErrorKind → String → Failure → Prop
  | unknown (id : String) : At .nodeNotFound id (.nodeNotFound id)
  | repeated (id : String) : At .cycleDetected id (.cycleDetected id)
  | stopped (id : String) (limit : Nat) : At .stepLimitExceeded id (.stepLimitExceeded id limit)

/-- What an account calls a failure tells which failure the run has ended with. -/
theorem Trace.Tells.failed_at
    {trace : Trace} {run : Run ε} (tells : trace.Tells run) (own : run.ending.OfItself)
    (kind : ErrorKind) (placed : kind ≠ .noStartNode) (fails : trace.FailsWith kind.code) :
    ∃ id failure, run.ending = .failed failure ∧ failure.At kind id ∧
      trace.failedAt? = some id := by
  rcases tells.failure fails with ⟨failure, ends, code, concerns⟩
  cases failure with
  | noStartNode =>
      have same : ErrorKind.noStartNode = kind := ErrorKind.code_injective code
      exact absurd same.symm placed
  | nodeNotFound id =>
      obtain rfl : ErrorKind.nodeNotFound = kind := ErrorKind.code_injective code
      exact ⟨id, _, ends, .unknown id, concerns⟩
  | cycleDetected id =>
      obtain rfl : ErrorKind.cycleDetected = kind := ErrorKind.code_injective code
      exact ⟨id, _, ends, .repeated id, concerns⟩
  | stepLimitExceeded id limit =>
      obtain rfl : ErrorKind.stepLimitExceeded = kind := ErrorKind.code_injective code
      exact ⟨id, _, ends, .stopped id limit, concerns⟩
  | reported =>
      rw [ends] at own
      exact own.elim

theorem Setup.Plain.yields
    {setup : Setup ε} (plain : setup.Plain) {holds : Trace → Prop}
    (told : ∀ trace : Trace, trace.Tells setup.run → holds trace) :
    setup.Yields holds := by
  unfold Setup.Yields Setup.execute
  rw [Run.trace_eq_account plain.ofItself, Run.account]
  cases summed : Summary.ofSteps setup.run.steps setup.run.ending.name with
  | ok summary =>
      exact told _ ⟨rfl, rfl, summed⟩
  | error fault =>
      intro uniform
      rcases plain.summary uniform setup.run.ending.name with ⟨summary, made⟩
      rw [summed] at made
      cases made

theorem Setup.Yields.exists_trace
    {setup : Setup ε} {holds : Trace → Prop} (yields : setup.Yields holds)
    (uniform : setup.clock.Uniform) :
    ∃ trace, setup.execute = .ok trace ∧ holds trace := by
  unfold Setup.Yields at yields
  cases executed : setup.execute with
  | ok trace =>
      rw [executed] at yields
      exact ⟨trace, rfl, yields⟩
  | error abort =>
      rw [executed] at yields
      cases abort with
      | clock =>
          exact absurd uniform yields
      | faulted | interrupted =>
          exact yields.elim

theorem Setup.Yields.imp
    {setup : Setup ε} {holds also : Trace → Prop} (yields : setup.Yields holds)
    (implied : ∀ trace, setup.execute = .ok trace → holds trace → also trace) :
    setup.Yields also := by
  unfold Setup.Yields at yields ⊢
  cases executed : setup.execute with
  | ok trace =>
      rw [executed] at yields
      exact implied trace executed yields
  | error abort =>
      rw [executed] at yields
      cases abort with
      | clock =>
          exact yields
      | faulted | interrupted =>
          exact yields.elim

end Walk
end WorkflowWalk
