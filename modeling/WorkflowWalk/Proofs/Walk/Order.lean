import WorkflowWalk.Proofs.Flow.Before
import WorkflowWalk.Proofs.Walk.Consistency

/-!
# The order of steps

Whatever a run depends on, each of its steps is made at an id that comes before those of all later
steps, and before the id at which the run comes round or finds no node. For a run goes on along
edges only.
-/

namespace WorkflowWalk

open Document

theorem Decision.joins
    {document : Document} {context : Context} {node : Node} {decision : Decision}
    (decided : resolve document context node = .ok (some decision)) :
    document.Joins node.id decision.target := by
  have leaving := mem_outgoing_of_mem_followable (edge_mem_followable decided)
  rcases List.mem_filter.mp leaving with ⟨member, source⟩
  exact ⟨decision.edge, member, of_decide_eq_true source, rfl⟩

namespace Walk

variable {ε : Type}

/-!
## One turn
-/

def Ending.stuckAt? : Ending ε → Option String
  | .failed (.cycleDetected id) => some id
  | .failed (.nodeNotFound id) => some id
  | _ => none

namespace Setup

theorem stuckAt?_restingEnd (setup : Setup ε) (node : Node) :
    (setup.restingEnd node).stuckAt? = none := by
  rw [restingEnd]
  split <;> rfl

theorem stuckAt?_of_leave
    {setup : Setup ε} {position : Position} {node : Node} {decision : Option Decision}
    {step : Step} {ending : Ending ε}
    (left : setup.leave position node decision = .finish step ending) :
    step.nodeId = node.id ∧ ending.stuckAt? = none := by
  unfold leave at left
  simp only at left
  split at left
  · cases left
    exact ⟨rfl, rfl⟩
  · cases left
    exact ⟨rfl, rfl⟩
  · cases left
    exact ⟨rfl, setup.stuckAt?_restingEnd node⟩
  · cases left

theorem stuckAt?_of_halt
    {setup : Setup ε} {position : Position} {ending : Ending ε}
    (turned : setup.turn position = .halt ending) {id : String}
    (stuck : ending.stuckAt? = some id) :
    id = position.id := by
  unfold turn at turned
  split at turned
  · cases turned
    exact (Option.some.inj stuck).symm
  split at turned
  · cases turned
    cases stuck
  split at turned
  · cases turned
    exact (Option.some.inj stuck).symm
  split at turned
  · cases turned
    cases stuck
  · unfold leave at turned
    simp only at turned
    split at turned <;> cases turned

theorem nodeId_of_finish
    {setup : Setup ε} {position : Position} {step : Step} {ending : Ending ε}
    (turned : setup.turn position = .finish step ending) :
    step.nodeId = position.id ∧ ending.stuckAt? = none := by
  rcases exists_leave_of_finish turned with ⟨node, decision, found, left⟩
  rw [← node?_eq_some_id found]
  exact stuckAt?_of_leave left

theorem joins_of_proceed
    {setup : Setup ε} {position next : Position} {step : Step}
    (turned : setup.turn position = .proceed step next) :
    step.nodeId = position.id ∧ setup.document.Joins position.id next.id := by
  rcases turn_eq_proceed turned with ⟨_, _, node, decision, found, decided, rfl, _, rfl⟩
  rw [← node?_eq_some_id found]
  exact ⟨rfl, Decision.joins decided⟩

end Setup

/-!
## Whole runs
-/

/-- All that a run comes to lies behind an id, each step before the later ones and before the id
where the run is stuck. -/
structure Run.GoesOnFrom (run : Run ε) (document : Document) (origin : String) : Prop where
  reached : ∀ step ∈ run.steps, document.Before origin step.nodeId
  ordered : run.steps.Pairwise fun earlier later => document.Before earlier.nodeId later.nodeId
  stuck : ∀ id, run.ending.stuckAt? = some id →
    document.Before origin id ∧ ∀ step ∈ run.steps, document.Before step.nodeId id

theorem Run.GoesOnFrom.prepend
    {run : Run ε} {document : Document} {origin next : String}
    (goesOn : run.GoesOnFrom document next) {step : Step} (here : step.nodeId = origin)
    (joins : document.Joins origin next) :
    Run.GoesOnFrom ⟨step :: run.steps, run.ending⟩ document origin where
  reached := by
    intro other member
    rcases List.mem_cons.mp member with rfl | later
    · exact here ▸ .refl
    · exact .head joins (goesOn.reached other later)
  ordered := by
    refine List.pairwise_cons.mpr ⟨?_, goesOn.ordered⟩
    intro other later
    exact here ▸ .head joins (goesOn.reached other later)
  stuck := by
    intro id stuck
    rcases goesOn.stuck id stuck with ⟨ahead, before⟩
    refine ⟨.head joins ahead, ?_⟩
    intro other member
    rcases List.mem_cons.mp member with rfl | later
    · exact here ▸ .head joins ahead
    · exact before other later

theorem Setup.goesOnFrom (setup : Setup ε) (position : Position) :
    (setup.walkFrom position).GoesOnFrom setup.document position.id := by
  -- With every step there are fewer ids left that have not been visited.
  induction left : (setup.document.unvisited position.visited).length using Nat.strongRecOn
    generalizing position with
  | ind size ih =>
      cases turned : setup.turn position with
      | halt ending =>
          rw [walkFrom_of_halt turned]
          refine ⟨fun _ none => absurd none List.not_mem_nil, List.Pairwise.nil, ?_⟩
          intro id stuck
          rw [stuckAt?_of_halt turned stuck]
          exact ⟨.refl, fun _ none => absurd none List.not_mem_nil⟩
      | finish step ending =>
          rcases nodeId_of_finish turned with ⟨here, free⟩
          rw [walkFrom_of_finish turned]
          refine ⟨?_, List.pairwise_singleton .., ?_⟩
          · intro other member
            rw [List.mem_singleton.mp member, here]
            exact .refl
          · intro id stuck
            rw [free] at stuck
            cases stuck
      | proceed step next =>
          have fewer := length_unvisited_lt_of_turn turned
          rw [left] at fewer
          rcases joins_of_proceed turned with ⟨here, joins⟩
          rw [walkFrom_of_proceed turned]
          exact (ih _ fewer next rfl).prepend here joins

theorem Run.GoesOnFrom.startless (document : Document) (origin : String) :
    Run.GoesOnFrom (⟨[], .failed .noStartNode⟩ : Run ε) document origin where
  reached := fun _ none => absurd none List.not_mem_nil
  ordered := List.Pairwise.nil
  stuck := by
    intro id stuck
    cases stuck

theorem Setup.exists_goesOnFrom (setup : Setup ε) :
    ∃ origin, setup.run.GoesOnFrom setup.document origin := by
  rw [run]
  cases setup.document.start? with
  | none =>
      exact ⟨"", .startless setup.document ""⟩
  | some node =>
      exact ⟨node.id, setup.goesOnFrom (.start node.id)⟩

theorem Setup.ordered_run (setup : Setup ε) :
    (setup.run.steps.map (·.nodeId)).Pairwise setup.document.Before := by
  rcases setup.exists_goesOnFrom with ⟨_, goesOn⟩
  exact List.pairwise_map.mpr goesOn.ordered

theorem Setup.before_of_stuck
    (setup : Setup ε) {id : String} (stuck : setup.run.ending.stuckAt? = some id) :
    ∀ met ∈ setup.run.steps.map (·.nodeId), setup.document.Before met id := by
  intro met member
  rcases setup.exists_goesOnFrom with ⟨_, goesOn⟩
  rcases List.mem_map.mp member with ⟨step, among, rfl⟩
  exact (goesOn.stuck id stuck).2 step among

theorem Trace.Tells.stuckAt?
    {trace : Trace} {run : Run ε} (tells : trace.Tells run) (own : run.ending.OfItself)
    (fails : trace.FailsWith "CYCLE_DETECTED" ∨ trace.FailsWith "NODE_NOT_FOUND") :
    ∃ id, trace.failedAt? = some id ∧ run.ending.stuckAt? = some id := by
  rcases fails with repeated | unknown
  · rcases tells.failed_at own .cycleDetected nofun repeated with ⟨id, _, ends, ⟨⟩, concerns⟩
    exact ⟨id, concerns, by rw [ends, Ending.stuckAt?]⟩
  · rcases tells.failed_at own .nodeNotFound nofun unknown with ⟨id, _, ends, ⟨⟩, concerns⟩
    exact ⟨id, concerns, by rw [ends, Ending.stuckAt?]⟩

/-!
## The answer for runs
-/

/-- The answer whether an id is before another one tells whether edges lead from the one to the
other. Every id is before itself, and what is before an id is before all that this is before. The
ids of a run are before those that come later in it, and before the one at which it comes round or
finds no node, if nobody makes it fail. -/
theorem isBefore_decides (document : Document) :
    (∀ first second,
      document.seekWithin second (document.edges.length + 2) [] [first] =
          some (document.isBefore first second) ∧
        (document.isBefore first second = true ↔ document.Before first second)) ∧
    (∀ id, document.isBefore id id = true) ∧
    (∀ first second third, document.isBefore first second = true →
      document.isBefore second third = true → document.isBefore first third = true) ∧
    ∀ {ε : Type} (setup : Setup ε), setup.document = document →
      (setup.run.steps.map (·.nodeId)).Pairwise
          (fun earlier later => document.isBefore earlier later = true) ∧
        ∀ trace, setup.execute = .ok trace →
          trace.path = setup.run.steps.map (·.nodeId) ∧
          (setup.run.ending.OfItself →
            trace.FailsWith "CYCLE_DETECTED" ∨ trace.FailsWith "NODE_NOT_FOUND" →
            ∃ id, trace.failedAt? = some id ∧
              ∀ met ∈ trace.path, document.isBefore met id = true) := by
  simp only [isBefore_iff]
  refine ⟨fun first second => ⟨document.seekWithin_edges first second, trivial⟩, fun _ => .refl,
    fun _ _ _ => .trans, ?_⟩
  intro ε setup same
  subst same
  refine ⟨setup.ordered_run, ?_⟩
  intro trace executed
  rcases Run.tells_of_trace executed with ⟨tells, _⟩
  have steps : trace.path = setup.run.steps.map (·.nodeId) := by
    rw [Trace.path, tells.steps]
  refine ⟨steps, ?_⟩
  intro own fails
  rcases tells.stuckAt? own fails with ⟨id, concerns, stuck⟩
  exact ⟨id, concerns, steps ▸ setup.before_of_stuck stuck⟩

def pier : Document where
  nodes := [⟨"pier", "", .level none none [], [], by decide⟩]
  edges := [⟨"planks", "pier", "sea", none, by decide, by decide, by decide⟩]
  distinct := by decide

def pierRun : Setup Empty where
  document := pier
  context := []
  limit := 2
  clock := fun _ => "2024-01-01T00:00:00+00:00"
  observer := silent

theorem pierRun_plain : pierRun.Plain where
  quiet _ := rfl
  writable := Context.writable_nil
  positive := by decide

theorem pierRun_walks :
    pierRun.run.steps.map (·.nodeId) = ["pier"] ∧
      pierRun.run.ending = .failed (.nodeNotFound "sea") := by
  have quiet := pierRun_plain.quiet
  have enters : pierRun.Enters (.start "pier") ⟨"pier", "", .level none none [], [], by decide⟩ :=
    ⟨by decide, by decide, rfl⟩
  have first : pierRun.walkFrom (.start "pier") =
      .prepend _ (pierRun.walkFrom ⟨["pier"], 1, "sea"⟩) :=
    Setup.walkFrom_of_onward quiet enters rfl
  have second : pierRun.walkFrom ⟨["pier"], 1, "sea"⟩ = ⟨[], .failed (.nodeNotFound "sea")⟩ :=
    Setup.walkFrom_of_halt (Setup.turn_of_unknown (by decide) (by decide) rfl)
  have starts : pierRun.run = pierRun.walkFrom (.start "pier") := rfl
  rw [starts, first, second]
  exact ⟨rfl, rfl⟩

theorem isBefore_decides_pier :
    ∃ trace, pierRun.execute = .ok trace ∧ trace.path = ["pier"] ∧
      trace.FailsWith "NODE_NOT_FOUND" ∧ trace.failedAt? = some "sea" ∧
      pier.isBefore "pier" "sea" = true := by
  rcases (pierRun_plain.yields fun trace tells => tells).exists_trace (Clock.uniform_const _) with
    ⟨trace, executed, tells⟩
  rcases pierRun_walks with ⟨ids, ends⟩
  have path : trace.path = ["pier"] := by
    rw [Trace.path, tells.steps, ids]
  have failed : trace.error = some (Failure.record (.nodeNotFound "sea")) := by
    rw [tells.error, ends]
    rfl
  have fails : trace.FailsWith "NODE_NOT_FOUND" := ⟨_, failed, rfl⟩
  have concerns : trace.failedAt? = some "sea" := by
    rw [Trace.failedAt?, failed]
    rfl
  rcases isBefore_decides pier with ⟨_, _, _, runs⟩
  rcases ((runs pierRun rfl).2 trace executed).2 pierRun_plain.ofItself (Or.inr fails) with
    ⟨id, there, before⟩
  cases concerns.symm.trans there
  refine ⟨trace, executed, path, fails, concerns, before "pier" ?_⟩
  rw [path]
  exact List.mem_cons_self

end Walk
end WorkflowWalk
