import WorkflowWalk.Proofs.Walk.Bounds

/-!
# The limit only cuts runs

The limit of steps has no say in which steps a run makes, only in how many. A plain run under a
higher limit is the same run, or it goes on where the lower limit has stopped the other one.
-/

namespace WorkflowWalk
namespace Walk

variable {ε : Type}

def Setup.withLimit (setup : Setup ε) (limit : Nat) : Setup ε :=
  { setup with limit }

theorem Setup.Plain.withLimit
    {setup : Setup ε} (plain : setup.Plain) {limit : Nat} (positive : 1 ≤ limit) :
    (setup.withLimit limit).Plain :=
  ⟨plain.quiet, plain.writable, positive⟩

theorem Setup.Enters.withLimit
    {setup : Setup ε} {position : Position} {node : Node} (enters : setup.Enters position node)
    {limit : Nat} (within : setup.limit ≤ limit) :
    (setup.withLimit limit).Enters position node :=
  ⟨enters.fresh, Nat.lt_of_lt_of_le enters.below within, enters.found⟩

/-!
## Runs that are stopped by the limit
-/

def Ending.AtLimit : Ending ε → Prop
  | .failed (.stepLimitExceeded ..) => True
  | _ => False

def Run.goingOn (run later : Run ε) : Run ε :=
  ⟨run.steps ++ later.steps, later.ending⟩

/-- A run from a position was stopped by the limit ahead of another position, and under a further
limit it goes on from there. -/
structure Run.StoppedAhead (run : Run ε) (setup : Setup ε) (limit : Nat)
    (position ahead : Position) : Prop where
  ending : run.ending = .failed (.stepLimitExceeded ahead.id setup.limit)
  fresh : ahead.id ∉ ahead.visited
  reached : ahead.visited.length = setup.limit
  made : position.visited.length + run.steps.length = setup.limit
  resumed : (setup.withLimit limit).walkFrom position =
    run.goingOn ((setup.withLimit limit).walkFrom ahead)

theorem Run.StoppedAhead.length_eq
    {run : Run ε} {setup : Setup ε} {limit : Nat} {start : String} {ahead : Position}
    (stopped : run.StoppedAhead setup limit (.start start) ahead) :
    run.steps.length = setup.limit := by
  have made := stopped.made
  rw [Position.start, List.length_nil, Nat.zero_add] at made
  exact made

theorem Walks.same_or_stoppedAhead
    {setup : Setup ε} (quiet : ∀ step, setup.observer step = .proceed) {limit : Nat}
    (below : setup.limit ≤ limit) {position : Position} {run : Run ε}
    (walks : Walks setup position run) (within : position.visited.length ≤ setup.limit) :
    ((setup.withLimit limit).walkFrom position = run ∧ ¬run.ending.AtLimit) ∨
      ∃ ahead, run.StoppedAhead setup limit position ahead := by
  have still : ∀ step, (setup.withLimit limit).observer step = .proceed := quiet
  induction walks with
  | @revisit position seen =>
      exact Or.inl ⟨Setup.walkFrom_of_halt (Setup.turn_of_revisit seen), not_false⟩
  | @ceiling position fresh reached =>
      have full : position.visited.length = setup.limit := Nat.le_antisymm within reached
      exact Or.inr ⟨position, rfl, fresh, full, full, rfl⟩
  | @unknown position fresh room absent =>
      have further : position.visited.length < limit := Nat.lt_of_lt_of_le room below
      exact Or.inl ⟨Setup.walkFrom_of_halt (Setup.turn_of_unknown fresh further absent), not_false⟩
  | @rest position node enters decided =>
      refine Or.inl ⟨Setup.walkFrom_of_rest still (enters.withLimit below) decided, ?_⟩
      show ¬(setup.restingEnd node).AtLimit
      rw [Setup.restingEnd]
      split <;> exact not_false
  | @onward position node decision run enters decided later ih =>
      have walked := Setup.walkFrom_of_onward still (enters.withLimit below) decided
      rcases ih enters.below with ⟨same, own⟩ | ⟨ahead, stopped⟩
      · exact Or.inl ⟨walked.trans (congrArg (Run.prepend _) same), own⟩
      · refine Or.inr ⟨ahead, stopped.ending, stopped.fresh, stopped.reached, ?_, ?_⟩
        · rw [← stopped.made]
          simp only [List.length_cons, Position.advance]
          omega
        · exact walked.trans (congrArg (Run.prepend _) stopped.resumed)

theorem Setup.Plain.walkFrom_of_fresh
    {setup : Setup ε} (plain : setup.Plain) {position : Position}
    (fresh : position.id ∉ position.visited) (below : position.visited.length < setup.limit) :
    ((setup.walkFrom position).steps.map (·.nodeId)).head? = some position.id ∨
      setup.walkFrom position = ⟨[], .failed (.nodeNotFound position.id)⟩ := by
  cases found : setup.document.node? position.id with
  | none =>
      exact Or.inr (Setup.walkFrom_of_halt (Setup.turn_of_unknown fresh below found))
  | some node =>
      have enters : setup.Enters position node := ⟨fresh, below, found⟩
      have first := (plain.walks position).head?_path enters
      exact Or.inl (enters.id_eq ▸ first)

/-!
## Whole runs
-/

namespace Setup.Plain

variable {setup : Setup ε} {limit : Nat}

theorem run_same_or_stopped
    (plain : setup.Plain) (within : setup.limit ≤ limit) :
    ((setup.withLimit limit).run = setup.run ∧ ¬setup.run.ending.AtLimit) ∨
      ∃ start ahead, setup.run.StoppedAhead setup limit (.start start) ahead ∧
        (setup.withLimit limit).run = (setup.withLimit limit).walkFrom (.start start) := by
  rcases plain.run_cases with ⟨startless, runs⟩ | ⟨node, starts, walks⟩
  · have same : (setup.withLimit limit).run = ⟨[], .failed .noStartNode⟩ := by
      rw [Setup.run, show (setup.withLimit limit).document = setup.document from rfl, startless]
    rw [runs, same]
    exact Or.inl ⟨rfl, not_false⟩
  · have longer :
        (setup.withLimit limit).run = (setup.withLimit limit).walkFrom (.start node.id) := by
      rw [Setup.run, show (setup.withLimit limit).document = setup.document from rfl, starts]
    rcases walks.same_or_stoppedAhead plain.quiet within (Nat.zero_le _) with
      ⟨same, own⟩ | ⟨ahead, stopped⟩
    · exact Or.inl ⟨longer.trans same, own⟩
    · exact Or.inr ⟨node.id, ahead, stopped, longer⟩

theorem steps_eq_take
    (plain : setup.Plain) (within : setup.limit ≤ limit) :
    setup.run.steps = (setup.withLimit limit).run.steps.take setup.limit := by
  rcases plain.run_same_or_stopped within with ⟨same, _⟩ | ⟨start, ahead, stopped, longer⟩
  · rw [same]
    exact (List.take_of_length_le plain.length_le_limit).symm
  · rw [longer, stopped.resumed, ← stopped.length_eq]
    exact List.take_left.symm

/-- Where the limit has stopped a run, a further limit lets it make a step or shows it that there is
no node. -/
theorem beyond_limit
    (plain : setup.Plain) (further : setup.limit < limit) {id : String} {reached : Nat}
    (ends : setup.run.ending = .failed (.stepLimitExceeded id reached)) :
    ((setup.withLimit limit).run.steps[setup.limit]?).map (·.nodeId) = some id ∨
      (setup.withLimit limit).run = ⟨setup.run.steps, .failed (.nodeNotFound id)⟩ := by
  have within : setup.limit ≤ limit := Nat.le_of_lt further
  rcases plain.run_same_or_stopped within with ⟨_, own⟩ | ⟨start, ahead, stopped, longer⟩
  · rw [ends] at own
    exact absurd trivial own
  · have here : ahead.id = id := by
      have twice := stopped.ending.symm.trans ends
      cases twice
      rfl
    have full := stopped.length_eq
    have below : ahead.visited.length < (setup.withLimit limit).limit :=
      stopped.reached ▸ further
    have plainToo := plain.withLimit (Nat.le_trans plain.positive within)
    rw [← here, longer, stopped.resumed]
    rcases plainToo.walkFrom_of_fresh stopped.fresh below with first | unknown
    · refine Or.inl ?_
      rw [Run.goingOn, List.getElem?_append_right (Nat.le_of_eq full), full, Nat.sub_self,
        ← List.head?_eq_getElem?, ← List.head?_map]
      exact first
    · refine Or.inr ?_
      rw [unknown, Run.goingOn, List.append_nil]

end Setup.Plain

/-!
## Accounts under two limits
-/

theorem Run.account_withLimit
    {run : Run ε} {context : Context} {limit : Nat} {trace : Trace}
    (told : run.account context limit = .ok trace) (other : Nat) :
    run.account context other = .ok { trace with limit := some other } := by
  unfold Run.account at told ⊢
  cases summed : Summary.ofSteps run.steps run.ending.name with
  | ok summary =>
      rw [summed] at told
      cases told
      rfl
  | error fault =>
      rw [summed] at told
      cases told

theorem Setup.Plain.execute_withLimit
    {setup : Setup ε} (plain : setup.Plain) {limit : Nat}
    (same : (setup.withLimit limit).run = setup.run) {trace : Trace}
    (executed : setup.execute = .ok trace) :
    (setup.withLimit limit).execute = .ok { trace with limit := some limit } := by
  rw [Setup.execute, Run.trace_eq_account plain.ofItself] at executed
  rw [Setup.execute, same, Run.trace_eq_account plain.ofItself]
  exact Run.account_withLimit executed limit

theorem Trace.Tells.atLimit
    {trace : Trace} {run : Run ε} (tells : trace.Tells run) (stopped : run.ending.AtLimit) :
    trace.FailsWith "STEP_LIMIT_EXCEEDED" := by
  rw [Trace.FailsWith, tells.error]
  cases ends : run.ending with
  | failed failure =>
      rw [ends] at stopped
      cases failure with
      | stepLimitExceeded id limit =>
          exact ⟨_, rfl, rfl⟩
      | noStartNode | nodeNotFound | cycleDetected | reported =>
          exact stopped.elim
  | completed | noMatchingBranch | faulted | interrupted =>
      rw [ends] at stopped
      exact stopped.elim

/-- Under a further limit a run makes the same steps first. If the limit did not stop it, there is
nothing to be added. If it did, in front of an id, then the run makes its next step there, or it
fails there for want of a node. -/
theorem execute_cut_by_limit
    {setup : Setup ε} (plain : setup.Plain) {limit : Nat} (within : setup.limit ≤ limit) :
    setup.Yields fun trace =>
      (¬trace.FailsWith "STEP_LIMIT_EXCEEDED" →
        (setup.withLimit limit).execute = .ok { trace with limit := some limit }) ∧
      (setup.withLimit limit).Yields fun longer =>
        trace.steps = longer.steps.take (min setup.limit longer.steps.length) ∧
        (trace.FailsWith "STEP_LIMIT_EXCEEDED" → setup.limit < limit →
          ∃ id, trace.failedAt? = some id ∧
            ((longer.steps[setup.limit]?).map (·.nodeId) = some id ∨
              longer.steps = trace.steps ∧ longer.FailsWith "NODE_NOT_FOUND" ∧
                longer.failedAt? = some id)) := by
  have told : setup.Yields fun trace => trace.Tells setup.run := plain.yields fun _ tells => tells
  apply told.imp
  intro trace executed tells
  constructor
  · intro own
    rcases plain.run_same_or_stopped within with ⟨same, _⟩ | ⟨start, ahead, stopped, _⟩
    · exact plain.execute_withLimit same executed
    · refine absurd (tells.atLimit ?_) own
      rw [stopped.ending]
      trivial
  · apply (plain.withLimit (Nat.le_trans plain.positive within)).yields
    intro longer tellsMore
    constructor
    · rw [tells.steps, tellsMore.steps, plain.steps_eq_take within, List.take_eq_take_min]
    · intro fails further
      rcases tells.failed_at plain.ofItself .stepLimitExceeded nofun fails with
        ⟨id, _, ends, ⟨_, reached⟩, concerns⟩
      refine ⟨id, concerns, ?_⟩
      rcases plain.beyond_limit further ends with first | unknown
      · refine Or.inl ?_
        rw [tellsMore.steps]
        exact first
      · have failed := tellsMore.error
        rw [unknown] at failed
        refine Or.inr ⟨?_, ⟨_, failed, rfl⟩, ?_⟩
        · rw [tellsMore.steps, unknown, tells.steps]
        · rw [Trace.failedAt?, failed]
          rfl

theorem crossing_stopped :
    (crossing.withLimit 1).run.ending = .failed (.stepLimitExceeded "done" 1) := by
  cases found : crossroads.node? "check" with
  | none =>
      cases found
  | some node =>
      have enters : (crossing.withLimit 1).Enters (.start "check") node :=
        ⟨List.not_mem_nil, Nat.zero_lt_one, found⟩
      rcases crossing_decides found with ⟨decision, leads, decided⟩
      have walked : (crossing.withLimit 1).run = (crossing.withLimit 1).walkFrom (.start "check") :=
        rfl
      have onward := Setup.walkFrom_of_onward (fun _ => rfl) enters decided
      rw [leads] at onward
      have fresh : "done" ∉ ["check"] := by
        decide
      rw [walked, onward]
      exact congrArg Run.ending
        (Setup.walkFrom_of_halt (Setup.turn_of_ceiling fresh (Nat.le_refl 1)))

theorem execute_cut_by_limit_crossing :
    (crossing.withLimit 1).Plain ∧ (crossing.withLimit 1).limit ≤ 3 ∧
      (crossing.withLimit 1).run.ending = .failed (.stepLimitExceeded "done" 1) ∧
      (crossing.withLimit 1).Yields fun trace =>
        (¬trace.FailsWith "STEP_LIMIT_EXCEEDED" →
          ((crossing.withLimit 1).withLimit 3).execute = .ok { trace with limit := some 3 }) ∧
        ((crossing.withLimit 1).withLimit 3).Yields fun longer =>
          trace.steps = longer.steps.take (min 1 longer.steps.length) ∧
          (trace.FailsWith "STEP_LIMIT_EXCEEDED" → 1 < 3 →
            ∃ id, trace.failedAt? = some id ∧
              ((longer.steps[1]?).map (·.nodeId) = some id ∨
                longer.steps = trace.steps ∧ longer.FailsWith "NODE_NOT_FOUND" ∧
                  longer.failedAt? = some id)) := by
  have plain : (crossing.withLimit 1).Plain := crossing_plain.withLimit (Nat.le_refl 1)
  have within : (crossing.withLimit 1).limit ≤ 3 := by
    decide
  exact ⟨plain, within, crossing_stopped, execute_cut_by_limit plain within⟩

end Walk
end WorkflowWalk
