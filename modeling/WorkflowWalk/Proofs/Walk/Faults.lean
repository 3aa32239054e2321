import WorkflowWalk.Proofs.Check.Agreement
import WorkflowWalk.Proofs.Condition.Overflow
import WorkflowWalk.Proofs.Walk.Account

/-!
# Faults of runs

What becomes of a run that nobody stops, in a context with integers of any size. There is an account
of it, and the account tells of no failure but the four that runs know, unless the run comes to a
condition that asks for the text of an integer beyond the limit of digits. Such a run is broken off
without an account.
-/

namespace WorkflowWalk
namespace Walk

variable {ε : Type}

/-!
## Runs that nobody stops
-/

theorem Setup.ending_of_quiet
    {setup : Setup ε} (quiet : ∀ step, setup.observer step = .proceed) :
    setup.run.ending.OfItself ∨
      ∃ node ∈ setup.document.nodes, Decision.OverflowsAt setup.context node ∧
        setup.run.ending = .faulted node .tooLongToWrite := by
  rcases Setup.run_cases_of_quiet quiet with ⟨_, runs⟩ | ⟨start, _, walks | falters⟩
  · rw [runs]
    exact Or.inl trivial
  · exact Or.inl walks.ofItself
  · rcases falters.exists_fault with ⟨node, fault, ends, among, failed⟩
    rcases Decision.overflowsAt_of_resolve failed with ⟨isLimit, overflows⟩
    rw [isLimit] at ends
    exact Or.inr ⟨node, among, overflows, ends⟩

theorem Falters.timestamp
    {setup : Setup ε} {position : Position} {run : Run ε} (falters : Falters setup position run)
    {step : Step} (member : step ∈ run.steps) :
    ∃ tick, step.timestamp = setup.clock tick := by
  induction falters with
  | here =>
      cases member
  | @onward position node decision run enters decided later ih =>
      rcases List.mem_cons.mp member with rfl | among
      · exact ⟨position.tick, rfl⟩
      · exact ih among

theorem Setup.timestamp_of_quiet
    {setup : Setup ε} (quiet : ∀ step, setup.observer step = .proceed) {step : Step}
    (member : step ∈ setup.run.steps) :
    ∃ tick, step.timestamp = setup.clock tick := by
  rcases Setup.run_cases_of_quiet quiet with ⟨_, runs⟩ | ⟨start, _, walks | falters⟩
  · rw [runs] at member
    cases member
  · exact walks.timestamp member
  · exact falters.timestamp member

theorem Ending.OfItself.error?_cases
    {ending : Ending ε} (own : ending.OfItself) :
    ending.error? = none ∨
      ∃ kind ∈ ErrorKind.fatal, ∃ error, ending.error? = some error ∧ error.code = kind.code := by
  cases ending with
  | completed | noMatchingBranch =>
      exact Or.inl rfl
  | failed failure =>
      cases failure with
      | noStartNode =>
          exact Or.inr ⟨.noStartNode, by decide, _, rfl, rfl⟩
      | nodeNotFound =>
          exact Or.inr ⟨.nodeNotFound, by decide, _, rfl, rfl⟩
      | cycleDetected =>
          exact Or.inr ⟨.cycleDetected, by decide, _, rfl, rfl⟩
      | stepLimitExceeded =>
          exact Or.inr ⟨.stepLimitExceeded, by decide, _, rfl, rfl⟩
      | reported =>
          exact own.elim
  | faulted | interrupted =>
      exact own.elim

/-- By a uniform clock there is an account of a run that nobody stops, unless it comes to a node
that overflows. -/
theorem Setup.execute_of_quiet
    {setup : Setup ε} (quiet : ∀ step, setup.observer step = .proceed)
    (uniform : setup.clock.Uniform) :
    (∃ trace, setup.execute = .ok trace ∧
      (trace.success = true ∨ ∃ kind ∈ ErrorKind.fatal, trace.FailsWith kind.code)) ∨
    (setup.execute = .error (.faulted .tooLongToWrite) ∧
      ∃ node ∈ setup.document.nodes, Decision.OverflowsAt setup.context node) := by
  rcases Setup.ending_of_quiet quiet with own | ⟨node, among, overflows, ends⟩
  · rcases exists_summary_of_ticks uniform (fun _ member => Setup.timestamp_of_quiet quiet member)
      setup.run.ending.name with ⟨summary, summed⟩
    refine Or.inl ⟨⟨setup.run.steps, setup.context, summary, setup.run.ending.error?,
      some setup.limit⟩, ?_, ?_⟩
    · rw [Setup.execute, Run.trace_eq_account own, Run.account, summed]
    · rcases own.error?_cases with succeeds | ⟨kind, fatal, error, fails, code⟩
      · refine Or.inl ?_
        rw [Trace.success, succeeds]
        rfl
      · exact Or.inr ⟨kind, fatal, error, fails, code⟩
  · refine Or.inr ⟨?_, node, among, overflows⟩
    rw [Setup.execute, Run.trace, ends]

theorem Setup.execute_of_start_fault
    {setup : Setup ε} {node : Node} {fault : Numeral.Fault} (positive : 1 ≤ setup.limit)
    (starts : setup.document.start? = some node)
    (failed : Decision.resolve setup.document setup.context node = .error fault) :
    setup.execute = .error (.faulted fault) := by
  have enters : setup.Enters (.start node.id) node :=
    ⟨List.not_mem_nil, positive, Document.node?_of_start? starts⟩
  rw [Setup.execute, Setup.run, starts]
  simp only [walkFrom_of_halt (Setup.turn_of_fault enters failed)]
  rfl

/-!
## Requests
-/

theorem Limit.check_of_positive
    {steps : Int} (positive : 1 ≤ steps) :
    Limit.check steps = .ok steps.toNat :=
  if_pos positive

theorem Limit.ofJson_int
    (settings : Settings) {steps : Int} (positive : 1 ≤ steps) :
    Limit.ofJson settings (.int steps) = .ok steps.toNat :=
  check_of_positive positive

theorem Context.ofJson_obj (fields : Fields) :
    Context.ofJson (.obj fields) = .ok (.ofFields fields) := by
  cases fields <;> rfl

theorem Request.setup_withValue
    {request : Request ε} {payload : Json} {document : Document} {fields : Fields} {steps : Int}
    (accepted : Document.ofJson payload = .ok document)
    (lenient : request.settings.strictEdges = false)
    (limited : request.limit = .int steps) (positive : 1 ≤ steps)
    (object : request.context = .obj fields) :
    (request.withValue payload).setup =
      .ok ⟨document, .ofFields fields, steps.toNat, request.clock, request.observer⟩ := by
  have loaded : Document.load request.settings.strictEdges payload = .ok document := by
    cases payload with
    | obj inner =>
        rw [Document.load_of_ofFields accepted, lenient]
        rfl
    | _ =>
        cases accepted
  unfold Request.setup Request.withValue Request.withDocument
  simp only [limited, object, Limit.ofJson_int _ positive, loaded, Context.ofJson_obj]
  rfl

/-- The run of a document that is taken in, in a context that is an object, is begun. By a uniform
clock there is an account of it, unless it comes to a node that overflows. A text is evaluated
exactly if it does not overflow. -/
theorem account_unless_overflow
    {request : Request ε} {payload : Json} {document : Document} {fields : Fields} {steps : Int}
    (accepted : Document.ofJson payload = .ok document)
    (lenient : request.settings.strictEdges = false)
    (limited : request.limit = .int steps) (positive : 1 ≤ steps)
    (object : request.context = .obj fields) (uniform : request.clock.Uniform)
    (quiet : ∀ step, request.observer step = .proceed) :
    ((∃ trace, (request.withValue payload).account = .ok (.ok trace) ∧
        (trace.success = true ∨ ∃ kind ∈ ErrorKind.fatal, trace.FailsWith kind.code)) ∨
      ((request.withValue payload).account = .ok (.error (.faulted .tooLongToWrite)) ∧
        ∃ node ∈ document.nodes, Decision.OverflowsAt (.ofFields fields) node)) ∧
    ∀ text, (∃ held, Condition.holds (Condition.parse? text) (.ofFields fields) = .ok held) ↔
      ¬Condition.TextOverflows text (.ofFields fields) := by
  constructor
  · unfold Request.account
    rw [Request.setup_withValue accepted lenient limited positive object]
    rcases @Setup.execute_of_quiet ε ⟨document, .ofFields fields, steps.toNat, request.clock,
      request.observer⟩ quiet uniform with ⟨trace, executed, tells⟩ | ⟨broken, overflows⟩
    · exact Or.inl ⟨trace, congrArg Except.ok executed, tells⟩
    · exact Or.inr ⟨congrArg Except.ok broken, overflows⟩
  · intro text
    cases held : Condition.holds (Condition.parse? text) (.ofFields fields) with
    | ok result =>
        refine ⟨fun _ overflows => ?_, fun _ => ⟨result, rfl⟩⟩
        have failed := Condition.holds_eq_error_iff.mpr ⟨overflows, rfl⟩
        rw [held] at failed
        cases failed
    | error fault =>
        have overflows := (Condition.holds_eq_error_iff.mp held).1
        refine ⟨?_, fun fits => absurd overflows fits⟩
        rintro ⟨result, evaluated⟩
        cases evaluated

/-!
## Integers beyond the limit
-/

theorem not_writable_of_large
    {n : Nat} (large : Numeral.unwritable ≤ n) :
    (Json.int n).writable = false := by
  rw [Json.writable, Numeral.writable, Int.natAbs_natCast]
  exact decide_eq_false (Nat.not_lt.mpr large)

def crossingValue (condition : String) : Json :=
  .obj [
    ("nodes", .arr [
      .obj [("id", .str "check"), ("kind", .str "condition"),
        ("data", .obj [("branches", .arr [
          .obj [("name", .str "adult"), ("condition", .str condition)]])])],
      .obj [("id", .str "done"), ("kind", .str "action"), ("data", .obj [])],
      .obj [("id", .str "stop"), ("kind", .str "level"), ("data", .obj [])]]),
    ("edges", .arr [
      .obj [("id", .str "e1"), ("source", .str "check"), ("target", .str "done"),
        ("branchTag", .str "branch-0")],
      .obj [("id", .str "e2"), ("source", .str "check"), ("target", .str "stop"),
        ("branchTag", .str "else")]])]

/-- The least integer without a text, in place of an age. -/
def endlessAge : Fields :=
  [("age", .int Numeral.unwritable)]

def crossingRequest (context : Fields) : Request Empty where
  settings := .default
  limit := .int 3
  document := .ok crossroads
  context := .obj context
  clock := fun _ => "2024-01-01T00:00:00+00:00"
  observer := silent

theorem account_unless_overflow_endless :
    Document.ofJson (crossingValue "age >= 18") = .ok crossroads ∧
      ∃ trace, ((crossingRequest endlessAge).withValue (crossingValue "age >= 18")).account =
          .ok (.ok trace) ∧
        (trace.success = true ∨ ∃ kind ∈ ErrorKind.fatal, trace.FailsWith kind.code) := by
  have accepted : Document.ofJson (crossingValue "age >= 18") = .ok crossroads := rfl
  have parsed : Condition.parse? "age >= 18" = some ⟨"age", .atLeast, "18"⟩ := rfl
  have limited : (crossingRequest endlessAge).limit = .int 3 := rfl
  rcases (account_unless_overflow accepted rfl limited (by decide) rfl (Clock.uniform_const _)
    (fun _ => rfl)).1 with told | ⟨_, node, among, overflows⟩
  · exact ⟨accepted, told⟩
  · rcases overflows with ⟨branches, held, branch, member, condition, spelt, overflows⟩
    have only : branch.condition = "age >= 18" := by
      simp only [crossroads, List.mem_cons, List.not_mem_nil, or_false] at among
      rcases among with rfl | rfl | rfl
      · cases held
        rw [List.mem_singleton.mp member]
      · cases held
      · cases held
    rw [only, parsed] at spelt
    cases spelt
    cases overflows.textual

/-- A document is taken in, but its run is broken off: an integer of 4301 digits is compared with a
number as a text. -/
theorem account_overflows :
    ∃ document, Document.ofJson (crossingValue "age == 18") = .ok document ∧
      ((crossingRequest endlessAge).withValue (crossingValue "age == 18")).account =
        .ok (.error (.faulted .tooLongToWrite)) ∧
      Condition.holds (Condition.parse? "age == 18") (.ofFields endlessAge) =
        .error .tooLongToWrite := by
  have tooLong : (Json.int Numeral.unwritable).writable = false :=
    not_writable_of_large (Nat.le_refl _)
  have failed : Condition.holds (Condition.parse? "age == 18") (.ofFields endlessAge) =
      .error .tooLongToWrite :=
    Condition.holds_eq_error_iff.mpr
      ⟨⟨⟨"age", .same, "18"⟩, rfl, rfl, _, rfl, tooLong⟩, rfl⟩
  refine ⟨_, rfl, ?_, failed⟩
  unfold Request.account
  have limited : (crossingRequest endlessAge).limit = .int 3 := rfl
  rw [Request.setup_withValue rfl rfl limited (by decide) rfl]
  refine congrArg Except.ok (Setup.execute_of_start_fault (by decide) rfl ?_)
  show Decision.amongBranches _ _ 0 [⟨"adult", "age == 18"⟩] = _
  rw [Decision.amongBranches, failed]
  rfl

end Walk
end WorkflowWalk
