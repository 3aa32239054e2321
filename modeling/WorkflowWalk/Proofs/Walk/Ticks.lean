import WorkflowWalk.Proofs.Walk.Watched

/-!
# The ticks of a run

A run reads its clock when it makes a step, and once more for each item of an action. It does not
read it for any of its checks. So the ticks of an account, taken step by step, are the first ticks
of the clock: none is left out and none is taken twice, however the run has ended.
-/

namespace WorkflowWalk

def Node.itemCount (node : Node) : Nat :=
  match node.body with
  | .action items => items.length
  | _ => 0

namespace Walk

variable {σ ε : Type}

/-!
## The ticks of a step
-/

theorem Outcome.timestamps_stamp (clock : Clock) (tick : Nat) (items : List ActionItem) :
    (stamp clock tick items).map ActionResult.timestamp =
      (List.range' tick items.length).map clock := by
  induction items generalizing tick with
  | nil =>
      rfl
  | cons item rest ih =>
      rw [stamp, List.map_cons, ih, List.length_cons, List.range'_succ, List.map_cons]

theorem Outcome.timestamps_ofBody (clock : Clock) (tick : Nat) (node : Node) :
    (ofBody clock tick node.body).timestamps =
      (List.range' tick node.itemCount).map clock := by
  unfold Node.itemCount
  cases node.body with
  | level | condition =>
      rfl
  | action items =>
      exact timestamps_stamp clock tick items

theorem Step.timestamps_make
    (clock : Clock) (tick index : Nat) (node : Node) (decision : Option Decision) :
    (make clock tick index node decision).timestamps =
      (List.range' tick (node.itemCount + 1)).map clock := by
  rw [List.range'_succ, List.map_cons, ← Outcome.timestamps_ofBody]
  rfl

theorem Step.length_timestamps_make
    (clock : Clock) (tick index : Nat) (node : Node) (decision : Option Decision) :
    (make clock tick index node decision).timestamps.length = node.itemCount + 1 := by
  rw [timestamps_make, List.length_map, List.length_range']

/-!
## Clocks that agree

That a run does not read a tick is said by another clock, which shows something else there: the run
is the same.
-/

def Clock.Agrees (clock other : Clock) (tick count : Nat) : Prop :=
  ∀ later, tick ≤ later → later < tick + count → other later = clock later

theorem Clock.Agrees.mono
    {clock other : Clock} {tick count first part : Nat} (agrees : clock.Agrees other tick count)
    (starts : tick ≤ first) (ends : first + part ≤ tick + count) :
    clock.Agrees other first part := by
  intro later above below
  exact agrees later (Nat.le_trans starts above) (Nat.lt_of_lt_of_le below ends)

theorem Outcome.stamp_of_agrees
    {clock other : Clock} {tick : Nat} {items : List ActionItem}
    (agrees : clock.Agrees other tick items.length) :
    stamp other tick items = stamp clock tick items := by
  induction items generalizing tick with
  | nil =>
      rfl
  | cons item rest ih =>
      rw [List.length_cons] at agrees
      have here : other tick = clock tick := agrees tick (Nat.le_refl _) (by omega)
      rw [stamp, stamp, here, ih (agrees.mono (by omega) (by omega))]

theorem Step.make_of_agrees
    {clock other : Clock} {tick : Nat} {node : Node}
    (agrees : clock.Agrees other tick (node.itemCount + 1)) (index : Nat)
    (decision : Option Decision) :
    make other tick index node decision = make clock tick index node decision := by
  have here : other tick = clock tick := agrees tick (Nat.le_refl _) (by omega)
  have later : Outcome.ofBody other (tick + 1) node.body =
      Outcome.ofBody clock (tick + 1) node.body := by
    unfold Node.itemCount at agrees
    cases body : node.body with
    | level | condition =>
        rfl
    | action items =>
        rw [body] at agrees
        exact congrArg Outcome.action
          (Outcome.stamp_of_agrees (agrees.mono (by omega) (by simp only; omega)))
  unfold make
  rw [here, later]

/-!
## One turn
-/

def Turn.ticks : Turn ε → Nat
  | .halt _ => 0
  | .finish step _ => step.timestamps.length
  | .proceed step _ => step.timestamps.length

namespace Setup

def withClock (setup : Setup ε) (clock : Clock) : Setup ε :=
  { setup with clock }

theorem ticks_leave
    (setup : Setup ε) (position : Position) (node : Node) (decision : Option Decision) :
    (setup.leave position node decision).ticks = node.itemCount + 1 := by
  rw [← Step.length_timestamps_make setup.clock position.tick (position.visited.length + 1) node
    decision]
  unfold leave
  simp only
  split <;> rfl

theorem leave_withClock
    {setup : Setup ε} {other : Clock} {position : Position} {node : Node}
    {decision : Option Decision}
    (agrees : setup.clock.Agrees other position.tick
      (setup.leave position node decision).ticks) :
    (setup.withClock other).leave position node decision =
      setup.leave position node decision := by
  rw [ticks_leave] at agrees
  have same : (setup.withClock other).stepAt position node decision =
      setup.stepAt position node decision :=
    Step.make_of_agrees agrees _ _
  unfold leave
  rw [same]
  rfl

/-- A turn reads no other ticks than those of its step. -/
theorem turn_withClock
    {setup : Setup ε} {other : Clock} {position : Position} {turn : Turn ε}
    (turned : setup.turn position = turn)
    (agrees : setup.clock.Agrees other position.tick turn.ticks) :
    (setup.withClock other).turn position = turn := by
  subst turned
  apply turn_of_same_checks setup (setup.withClock other) rfl rfl rfl id fun _ => rfl
  intro node decision turned
  rw [turned] at agrees
  exact leave_withClock agrees

theorem stepAt_of_finish
    {setup : Setup ε} {position : Position} {step : Step} {ending : Ending ε}
    (turned : setup.turn position = .finish step ending) :
    ∃ node decision, setup.document.node? position.id = some node ∧
      step = setup.stepAt position node decision := by
  rcases exists_leave_of_finish turned with ⟨node, decision, found, left⟩
  refine ⟨node, decision, found, ?_⟩
  unfold leave at left
  simp only at left
  split at left <;> cases left <;> rfl

end Setup

/-!
## Whole runs
-/

/-- Steps that are made at nodes of a document, one after the other from a tick on. -/
inductive Setup.Makes (setup : Setup ε) : Nat → List Node → List Step → Prop
  | none {tick : Nat} :
      Makes setup tick [] []
  | step {tick index : Nat} {node : Node} {decision : Option Decision} {nodes : List Node}
      {steps : List Step} (member : node ∈ setup.document.nodes)
      (later : Makes setup (tick + (node.itemCount + 1)) nodes steps) :
      Makes setup tick (node :: nodes)
        (.make setup.clock tick index node decision :: steps)

namespace Setup

theorem exists_makes_watchFrom
    (setup : Setup ε) (callback : Callback σ ε) (state : σ) (position : Position) :
    ∃ nodes,
      setup.Makes position.tick nodes (setup.watchFrom callback state position).run.steps := by
  fun_induction setup.watchFrom callback state position with
  | case1 state position ending turned =>
      exact ⟨[], .none⟩
  | case2 state position step ending turned =>
      rcases stepAt_of_finish turned with ⟨node, decision, found, rfl⟩
      exact ⟨[node], .step (Document.node?_mem found) .none⟩
  | case3 state position step next turned rest ih =>
      rcases turn_eq_proceed turned with ⟨_, _, node, decision, found, _, rfl, _, rfl⟩
      rcases ih with ⟨nodes, later⟩
      refine ⟨node :: nodes, .step (Document.node?_mem found) ?_⟩
      rw [← Step.length_timestamps_make]
      exact later

theorem watchFrom_withClock
    {setup : Setup ε} {other : Clock} {callback : Callback σ ε} {state : σ} {position : Position}
    (agrees : setup.clock.Agrees other position.tick
      ((setup.watchFrom callback state position).run.steps.flatMap Step.timestamps).length) :
    (setup.withClock other).watchFrom callback state position =
      setup.watchFrom callback state position := by
  fun_induction setup.watchFrom callback state position with
  | case1 state position ending turned =>
      exact watchFrom_of_halt (turn_withClock turned agrees)
  | case2 state position step ending turned =>
      apply watchFrom_of_finish
      apply turn_withClock turned
      exact agrees.mono (Nat.le_refl _) (by simp [Turn.ticks])
  | case3 state position step next turned rest ih =>
      rcases turn_eq_proceed turned with ⟨_, _, _, decision, _, _, _, _, advances⟩
      have onward : next.tick = position.tick + step.timestamps.length := by
        rw [advances]
        rfl
      have takes : ((rest.run.prepend step).steps.flatMap Step.timestamps).length =
          step.timestamps.length + (rest.run.steps.flatMap Step.timestamps).length := by
        rw [Run.prepend, List.flatMap_cons, List.length_append]
      rw [takes] at agrees
      have here : ((setup.withClock other).observedBy (callback.reaction state)).turn position =
          .proceed step next :=
        turn_withClock turned (agrees.mono (Nat.le_refl _) (by simp [Turn.ticks]))
      have beyond : setup.clock.Agrees other next.tick
          (rest.run.steps.flatMap Step.timestamps).length :=
        agrees.mono (by omega) (by omega)
      rw [watchFrom_of_proceed here, ih beyond]

theorem exists_makes_watch
    (setup : Setup ε) (callback : Callback σ ε) (state : σ) :
    ∃ nodes, setup.Makes 0 nodes (setup.watch callback state).run.steps := by
  rw [watch]
  cases setup.document.start? with
  | none =>
      exact ⟨[], .none⟩
  | some node =>
      exact setup.exists_makes_watchFrom callback state (.start node.id)

theorem watch_withClock
    {setup : Setup ε} {other : Clock} {callback : Callback σ ε} {state : σ}
    (agrees : setup.clock.Agrees other 0
      ((setup.watch callback state).run.steps.flatMap Step.timestamps).length) :
    (setup.withClock other).watch callback state = setup.watch callback state := by
  have starts : (setup.withClock other).document.start? = setup.document.start? := rfl
  rw [watch, starts]
  rw [watch] at agrees ⊢
  cases start : setup.document.start? with
  | none =>
      rfl
  | some node =>
      rw [start] at agrees
      exact watchFrom_withClock agrees

end Setup

namespace Setup.Makes

variable {setup : Setup ε} {tick : Nat} {nodes : List Node} {steps : List Step}

theorem subset (makes : setup.Makes tick nodes steps) :
    nodes ⊆ setup.document.nodes := by
  induction makes with
  | none =>
      exact List.nil_subset _
  | step member later ih =>
      exact List.cons_subset.mpr ⟨member, ih⟩

theorem map_id (makes : setup.Makes tick nodes steps) :
    nodes.map (·.id) = steps.map (·.nodeId) := by
  induction makes with
  | none =>
      rfl
  | step member later ih =>
      rw [List.map_cons, List.map_cons, ih]
      rfl

theorem timestamps (makes : setup.Makes tick nodes steps) :
    steps.flatMap Step.timestamps =
      (List.range' tick (steps.length + (nodes.map (·.itemCount)).sum)).map setup.clock := by
  induction makes with
  | none =>
      rfl
  | @step tick index node decision nodes steps member later ih =>
      have count : (steps.length + 1) + (node.itemCount + (nodes.map (·.itemCount)).sum) =
          (node.itemCount + 1) + (steps.length + (nodes.map (·.itemCount)).sum) := by
        omega
      rw [List.flatMap_cons, ih, Step.timestamps_make, ← List.map_append, List.range'_append_1,
        List.length_cons, List.map_cons, List.sum_cons, count]

end Setup.Makes

/-!
## Accounts
-/

theorem Summary.times_of_ofSteps
    {steps : List Step} {name : String} {summary : Summary}
    (summed : ofSteps steps name = .ok summary) :
    summary.startTime = steps.head?.map (·.timestamp) ∧
      summary.endTime = steps.getLast?.map (·.timestamp) := by
  rcases ok_of_map summed with ⟨duration, _, rfl⟩
  exact ⟨rfl, rfl⟩

theorem Step.timestamp_of_listed
    {clock : Clock} {total : Nat} {earlier later : List Step} {step : Step}
    (listed : (earlier ++ step :: later).flatMap timestamps = (List.range total).map clock) :
    step.timestamp = clock (earlier.flatMap timestamps).length := by
  have here : ((List.range total).map clock)[(earlier.flatMap timestamps).length]? =
      some step.timestamp := by
    rw [← listed, List.flatMap_append, List.getElem?_append_right (Nat.le_refl _), Nat.sub_self,
      List.flatMap_cons]
    rfl
  rcases List.getElem?_eq_some_iff.mp here with ⟨_, shows⟩
  rw [List.getElem_map, List.getElem_range] at shows
  exact shows.symm

/-- Whoever watches a run, its own observer or another callback, and however it ends: its account
takes the first ticks of the clock, in their order and each once, one for each step and for an
action one more for each item. So the ticks are in any order that the clock is in, the summary tells
the tick of the first step and that of the last one, and the account is the same with every clock
that shows the same for these ticks: no other one has been read. -/
theorem executeWith_takes_ticks
    {setup : Setup ε} {callback : Callback σ ε} {state : σ} {trace : Trace}
    (told : setup.executeWith callback state = .ok trace) :
    ∃ visited ⊆ setup.document.nodes, visited.map (·.id) = trace.path ∧
      ∃ total, total = trace.steps.length + (visited.map (·.itemCount)).sum ∧
        trace.steps.flatMap Step.timestamps = (List.range total).map setup.clock ∧
        (∀ earlier step later, trace.steps = earlier ++ step :: later →
          step.timestamp = setup.clock (earlier.flatMap Step.timestamps).length) ∧
        (∀ order : String → String → Prop,
          (∀ earlier later, earlier < later → order (setup.clock earlier) (setup.clock later)) →
            (trace.steps.flatMap Step.timestamps).Pairwise order) ∧
        trace.summary.startTime = trace.steps.head?.map (·.timestamp) ∧
        trace.summary.endTime = trace.steps.getLast?.map (·.timestamp) ∧
        ∀ other : Clock, (∀ tick < total, other tick = setup.clock tick) →
          (setup.withClock other).executeWith callback state = .ok trace := by
  rcases Run.tells_of_trace told with ⟨tells, _⟩
  rcases setup.exists_makes_watch callback state with ⟨visited, makes⟩
  rw [← tells.steps] at makes
  have listed := makes.timestamps
  rw [← List.range_eq_range'] at listed
  refine ⟨visited, makes.subset, makes.map_id, _, rfl, listed, ?_, ?_, ?_⟩
  · intro earlier step later split
    rw [split] at listed
    exact Step.timestamp_of_listed listed
  · intro order ordered
    rw [listed, List.pairwise_map]
    exact List.pairwise_lt_range.imp (ordered _ _)
  · rcases Summary.times_of_ofSteps tells.summed with ⟨starts, ends⟩
    rw [← tells.steps] at starts ends
    refine ⟨starts, ends, ?_⟩
    intro other same
    have agrees : setup.clock.Agrees other 0
        ((setup.watch callback state).run.steps.flatMap Step.timestamps).length := by
      rw [← tells.steps, listed, List.length_map, List.length_range]
      intro tick _ below
      exact same tick (by omega)
    rw [← told, Setup.executeWith, Setup.watch_withClock agrees]
    rfl

def ticking : Setup String where
  document := relay
  context := []
  limit := 5
  clock
    | 0 => "2024-01-01T00:00:00+00:00"
    | 1 => "2024-01-01T00:00:01+00:00"
    | _ => "2024-01-01T00:00:03+00:00"
  observer := silent

def ticked : List Step :=
  [⟨1, "greet", "level", "greet", .level none none [], "2024-01-01T00:00:00+00:00", none,
      some "send"⟩,
    ⟨2, "send", "action", "send",
      .action [⟨⟨"mail", "Welcome", none⟩, "2024-01-01T00:00:03+00:00"⟩],
      "2024-01-01T00:00:01+00:00", none, some "ghost"⟩]

theorem run_ticking : ticking.unwatched.run = ⟨ticked, .failed (.nodeNotFound "ghost")⟩ := by
  apply Option.some.inj
  rw [← ticking.unwatched.runWithin_of_nodes]
  rfl

theorem uniform_ticking : ticking.clock.Uniform := by
  have fixed : ∀ tick,
      (Time.Iso8601.read? (ticking.clock tick)).all (·.offset.isSome) = true
    | 0 | 1 => by decide +kernel
    | _ + 2 => by
      show (Time.Iso8601.read? "2024-01-01T00:00:03+00:00").all (·.offset.isSome) = true
      decide +kernel
  refine ⟨true, ?_⟩
  intro tick instant found
  have shown := fixed tick
  rw [found] at shown
  exact shown

/-- The level takes the first tick, the action the second one, and its item the third one. Then the
run finds no node, and that takes no tick. -/
theorem executeWith_takes_ticks_ticking :
    ∃ trace, ticking.executeWith counting 0 = .ok trace ∧ trace.success = false ∧
      trace.steps.flatMap Step.timestamps = (List.range 3).map ticking.clock ∧
      trace.summary.startTime = some (ticking.clock 0) ∧
      trace.summary.endTime = some (ticking.clock 1) ∧
      ∀ other : Clock, (∀ tick < 3, other tick = ticking.clock tick) →
        (ticking.withClock other).executeWith counting 0 = .ok trace := by
  have writable : ticking.context.Writable := fun _ member => nomatch member
  have plain := Setup.plain_unwatched writable (by decide)
  have yields : ticking.unwatched.Yields fun trace =>
      trace.steps = ticked ∧ trace.success = false := by
    apply plain.yields
    intro trace tells
    rw [run_ticking] at tells
    refine ⟨tells.steps, ?_⟩
    rw [Trace.success, tells.error]
    rfl
  rcases yields.exists_trace uniform_ticking with ⟨trace, executed, steps, fails⟩
  have told : ticking.executeWith counting 0 = .ok trace := by
    rw [← executed]
    exact (executeWith_of_returns writable (by decide) (fun _ _ => rfl) 0).1
  rcases executeWith_takes_ticks told with
    ⟨_, _, _, total, _, listed, _, _, starts, ends, alone⟩
  have three : total = 3 := by
    have lengths := congrArg List.length listed
    rw [steps, List.length_map, List.length_range] at lengths
    exact lengths.symm
  subst three
  rw [steps] at starts ends
  exact ⟨trace, told, fails, listed, starts, ends, alone⟩

end Walk
end WorkflowWalk
