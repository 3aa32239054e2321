import WorkflowWalk.Proofs.Walk.Bounds
import WorkflowWalk.Proofs.Walk.Consistency
import WorkflowWalk.Walk.Watch

/-!
# What callbacks change

A watched run is the run that nobody watches, up to the first call that raises an error. So a
callback that always returns changes nothing, and it is told exactly the steps of the account. An
error that runs know themselves does not reach the caller, though: the run takes it for its own
failure.
-/

namespace WorkflowWalk
namespace Walk

variable {σ τ ε : Type}

/-!
## Callbacks
-/

def Reply.map (change : σ → τ) : Reply σ ε → Reply τ ε
  | .done reaction state => .done reaction (change state)
  | .pending rest => .pending (rest.map change)

theorem Reply.settle_map (change : σ → τ) (reply : Reply σ ε) :
    (reply.map change).settle = (reply.settle.1, change reply.settle.2) := by
  induction reply with
  | done =>
      rfl
  | pending rest ih =>
      exact ih

namespace Callback

def afterAll (callback : Callback σ ε) (state : σ) (steps : List Step) : σ :=
  steps.foldl callback.after state

def noting (callback : Callback σ ε) : Callback (σ × List Step) ε :=
  fun noted step => (callback noted.1 step).map fun state => (state, noted.2 ++ [step])

@[simp] theorem reaction_noting
    (callback : Callback σ ε) (noted : σ × List Step) (step : Step) :
    callback.noting.reaction noted step = callback.reaction noted.1 step :=
  congrArg Prod.fst (Reply.settle_map ..)

@[simp] theorem after_noting
    (callback : Callback σ ε) (noted : σ × List Step) (step : Step) :
    callback.noting.after noted step = (callback.after noted.1 step, noted.2 ++ [step]) :=
  congrArg Prod.snd (Reply.settle_map ..)

end Callback

namespace Setup

def unwatched (setup : Setup ε) : Setup ε :=
  setup.observedBy silent

def callsOf (setup : Setup ε) (callback : Callback σ ε) (state : σ) : List Step :=
  (setup.watch callback.noting (state, [])).state.2

end Setup

/-!
## One turn
-/

def Reaction.ending? : Reaction ε → Option (Ending ε)
  | .proceed => none
  | .fail error => some (.failed (.reported error))
  | .interrupt error => some (.interrupted error)

def Turn.met (reaction : Step → Reaction ε) : Turn ε → Turn ε
  | .halt ending => .halt ending
  | .finish step ending => .finish step ((reaction step).ending?.getD ending)
  | .proceed step next =>
      match (reaction step).ending? with
      | none => .proceed step next
      | some ending => .finish step ending

namespace Setup

theorem leave_observedBy
    (setup : Setup ε) (observer : Observer ε) (position : Position) (node : Node)
    (decision : Option Decision) :
    (setup.observedBy observer).leave position node decision =
      (setup.unwatched.leave position node decision).met observer := by
  have same : setup.unwatched.stepAt position node decision =
      (setup.observedBy observer).stepAt position node decision := rfl
  have quiet : ∀ step, setup.unwatched.observer step = .proceed := fun _ => rfl
  rw [leave_of_quiet quiet]
  unfold leave
  cases reacted : observer ((setup.observedBy observer).stepAt position node decision) <;>
    cases decision <;>
      simp_all [Turn.met, Reaction.ending?, observedBy, unwatched, restingEnd, stepAt]

theorem turn_observedBy
    (setup : Setup ε) (observer : Observer ε) (position : Position) :
    (setup.observedBy observer).turn position =
      (setup.unwatched.turn position).met observer := by
  apply turn_of_same_checks setup.unwatched (setup.observedBy observer) rfl rfl rfl
    (Turn.met observer) fun _ => rfl
  intro node decision _
  exact setup.leave_observedBy observer position node decision

/-!
## From one call to the next
-/

theorem watchFrom_of_halt
    {setup : Setup ε} {callback : Callback σ ε} {state : σ} {position : Position}
    {ending : Ending ε}
    (turned : (setup.observedBy (callback.reaction state)).turn position = .halt ending) :
    setup.watchFrom callback state position = ⟨⟨[], ending⟩, state⟩ := by
  rw [watchFrom]
  split <;> simp_all

theorem watchFrom_of_finish
    {setup : Setup ε} {callback : Callback σ ε} {state : σ} {position : Position} {step : Step}
    {ending : Ending ε}
    (turned : (setup.observedBy (callback.reaction state)).turn position = .finish step ending) :
    setup.watchFrom callback state position = ⟨⟨[step], ending⟩, callback.after state step⟩ := by
  rw [watchFrom]
  split <;> simp_all

theorem watchFrom_of_proceed
    {setup : Setup ε} {callback : Callback σ ε} {state : σ} {position next : Position}
    {step : Step}
    (turned : (setup.observedBy (callback.reaction state)).turn position = .proceed step next) :
    setup.watchFrom callback state position =
      ⟨(setup.watchFrom callback (callback.after state step) next).run.prepend step,
        (setup.watchFrom callback (callback.after state step) next).state⟩ := by
  rw [watchFrom]
  split <;> simp_all

end Setup

/-- A callback is told the steps of a run one after the other, until it stops the run. -/
def Callback.attend (callback : Callback σ ε) (ending : Ending ε) (state : σ) :
    List Step → Watched σ ε
  | [] => ⟨⟨[], ending⟩, state⟩
  | step :: rest =>
      match (callback.reaction state step).ending? with
      | some stopped => ⟨⟨[step], stopped⟩, callback.after state step⟩
      | none =>
          let attended := callback.attend ending (callback.after state step) rest
          ⟨attended.run.prepend step, attended.state⟩

/-- A watched run is the run that nobody watches, told to the callback until it stops it. -/
theorem Setup.watchFrom_eq_attend
    (setup : Setup ε) (callback : Callback σ ε) (state : σ) (position : Position) :
    setup.watchFrom callback state position =
      callback.attend (setup.unwatched.walkFrom position).ending state
        (setup.unwatched.walkFrom position).steps := by
  -- With every step there are fewer ids left that have not been visited.
  induction left : (setup.document.unvisited position.visited).length using Nat.strongRecOn
    generalizing position state with
  | ind size ih =>
      have met := setup.turn_observedBy (callback.reaction state) position
      cases turned : setup.unwatched.turn position with
      | halt ending =>
          rw [turned] at met
          rw [walkFrom_of_halt turned, watchFrom_of_halt met]
          rfl
      | finish step ending =>
          rw [turned, Turn.met] at met
          rw [walkFrom_of_finish turned, watchFrom_of_finish met]
          simp only [Callback.attend]
          cases (callback.reaction state step).ending? <;> rfl
      | proceed step next =>
          have fewer := length_unvisited_lt_of_turn turned
          change (setup.document.unvisited next.visited).length <
            (setup.document.unvisited position.visited).length at fewer
          rw [left] at fewer
          rw [turned, Turn.met] at met
          rw [walkFrom_of_proceed turned]
          simp only [Callback.attend]
          cases stops : (callback.reaction state step).ending? with
          | some stopped =>
              rw [stops] at met
              exact watchFrom_of_finish met
          | none =>
              rw [stops] at met
              rw [watchFrom_of_proceed met, ih _ fewer _ next rfl]

theorem Setup.watch_eq_attend
    (setup : Setup ε) (callback : Callback σ ε) (state : σ) :
    setup.watch callback state =
      callback.attend setup.unwatched.run.ending state setup.unwatched.run.steps := by
  have starts : setup.unwatched.document.start? = setup.document.start? := rfl
  rw [watch, run, starts]
  cases setup.document.start? with
  | none =>
      rfl
  | some node =>
      exact setup.watchFrom_eq_attend callback state (.start node.id)

/-!
## Callbacks without a state

An observer is a callback that has no state and never has to be waited for. A setup's own run is the
run that is told to this callback.
-/

def Observer.callback (observer : Observer ε) : Callback Unit ε :=
  fun _ step => .done (observer step) ()

theorem Setup.watchFrom_observer
    (setup : Setup ε) (position : Position) :
    setup.watchFrom setup.observer.callback () position = ⟨setup.walkFrom position, ()⟩ := by
  -- The turns are the same ones, so the induction is the one that ends the run itself.
  induction left : (setup.document.unvisited position.visited).length using Nat.strongRecOn
    generalizing position with
  | ind size ih =>
      have same : (setup.observedBy (setup.observer.callback.reaction ())).turn position =
          setup.turn position := rfl
      cases turned : setup.turn position with
      | halt ending =>
          rw [turned] at same
          rw [watchFrom_of_halt same, walkFrom_of_halt turned]
      | finish step ending =>
          rw [turned] at same
          rw [watchFrom_of_finish same, walkFrom_of_finish turned]
      | proceed step next =>
          have fewer := length_unvisited_lt_of_turn turned
          rw [left] at fewer
          rw [turned] at same
          have rest : setup.watchFrom setup.observer.callback
              (setup.observer.callback.after () step) next = ⟨setup.walkFrom next, ()⟩ :=
            ih _ fewer next rfl
          rw [watchFrom_of_proceed same, walkFrom_of_proceed turned, rest]
          rfl

theorem Setup.executeWith_observer (setup : Setup ε) :
    setup.executeWith setup.observer.callback () = setup.execute := by
  have same : (setup.watch setup.observer.callback ()).run = setup.run := by
    rw [watch, run]
    cases setup.document.start? with
    | none =>
        rfl
    | some node =>
        exact congrArg Watched.run (setup.watchFrom_observer (.start node.id))
  rw [executeWith, same, execute]

/-!
## What a callback makes of the steps
-/

namespace Callback

variable {callback : Callback σ ε} {state : σ}

def ReturnsOn (callback : Callback σ ε) (state : σ) : List Step → Prop
  | [] => True
  | step :: rest =>
      callback.reaction state step = .proceed ∧
        callback.ReturnsOn (callback.after state step) rest

theorem returnsOn_of_returns
    (returns : ∀ state step, callback.reaction state step = .proceed) (state : σ)
    (steps : List Step) :
    callback.ReturnsOn state steps := by
  induction steps generalizing state with
  | nil =>
      trivial
  | cons step rest ih =>
      exact ⟨returns state step, ih _⟩

theorem attend_of_returnsOn
    {steps : List Step} (returns : callback.ReturnsOn state steps) (ending : Ending ε) :
    callback.attend ending state steps = ⟨⟨steps, ending⟩, callback.afterAll state steps⟩ := by
  induction steps generalizing state with
  | nil =>
      rfl
  | cons step rest ih =>
      rcases returns with ⟨proceeds, later⟩
      rw [attend, proceeds]
      simp only [Reaction.ending?]
      rw [ih later]
      rfl

theorem attend_of_stops
    {earlier : List Step} (returns : callback.ReturnsOn state earlier) {step : Step}
    {stopped : Ending ε}
    (stops : (callback.reaction (callback.afterAll state earlier) step).ending? = some stopped)
    (later : List Step) (ending : Ending ε) :
    callback.attend ending state (earlier ++ step :: later) =
      ⟨⟨earlier ++ [step], stopped⟩, callback.afterAll state (earlier ++ [step])⟩ := by
  induction earlier generalizing state with
  | nil =>
      rw [List.nil_append, attend, show (callback.reaction state step).ending? = _ from stops]
      rfl
  | cons first rest ih =>
      rcases returns with ⟨proceeds, onward⟩
      rw [List.cons_append, attend, proceeds]
      simp only [Reaction.ending?]
      rw [ih onward stops]
      rfl

theorem attend_noting
    (callback : Callback σ ε) (ending : Ending ε) (state : σ) (noted steps : List Step) :
    callback.noting.attend ending (state, noted) steps =
      ⟨(callback.attend ending state steps).run, (callback.attend ending state steps).state,
        noted ++ (callback.attend ending state steps).run.steps⟩ := by
  induction steps generalizing state noted with
  | nil =>
      simp [attend]
  | cons step rest ih =>
      simp only [attend, reaction_noting, after_noting]
      cases (callback.reaction state step).ending? with
      | some stopped =>
          rfl
      | none =>
          simp [ih, Run.prepend]

end Callback

theorem Setup.callsOf_eq
    (setup : Setup ε) (callback : Callback σ ε) (state : σ) :
    setup.callsOf callback state = (setup.watch callback state).run.steps := by
  rw [callsOf, watch_eq_attend, watch_eq_attend, Callback.attend_noting]
  rfl

/-!
## Callbacks that return
-/

def Setup.Decides (setup : Setup ε) (step : Step) : Prop :=
  ∃ node decision, setup.document.node? step.nodeId = some node ∧
    Decision.resolve setup.document setup.context node = .ok decision ∧
    step.next = decision.map (·.target)

theorem Walks.decides
    {setup : Setup ε} {position : Position} {run : Run ε} (walks : Walks setup position run)
    {step : Step} (member : step ∈ run.steps) :
    setup.Decides step := by
  induction walks with
  | revisit | ceiling | unknown =>
      cases member
  | @rest position node enters decided =>
      rw [List.mem_singleton.mp member]
      refine ⟨node, none, ?_, decided, rfl⟩
      rw [Setup.nodeId_stepAt, enters.id_eq, enters.found]
  | @onward position node decision run enters decided later ih =>
      rcases List.mem_cons.mp member with rfl | among
      · refine ⟨node, some decision, ?_, decided, rfl⟩
        rw [Setup.nodeId_stepAt, enters.id_eq, enters.found]
      · exact ih among

theorem Setup.Plain.decides
    {setup : Setup ε} (plain : setup.Plain) {step : Step} (member : step ∈ setup.run.steps) :
    setup.Decides step := by
  rcases plain.run_cases with ⟨_, runs⟩ | ⟨node, _, walks⟩
  · rw [runs] at member
    cases member
  · exact walks.decides member

theorem Setup.plain_unwatched
    {setup : Setup ε} (writable : setup.context.Writable) (positive : 1 ≤ setup.limit) :
    setup.unwatched.Plain :=
  ⟨fun _ => rfl, writable, positive⟩

/-- A callback that always returns, at once or when it has been waited for, changes nothing: the
caller gets what it gets of the run that nobody watches. The callback is told each step of the
account once and in order, as it stands in the account, when it has been decided where the step goes
on. This is so also if the run fails. -/
theorem executeWith_of_returns
    {setup : Setup ε} (writable : setup.context.Writable) (positive : 1 ≤ setup.limit)
    {callback : Callback σ ε} (returns : ∀ state step, callback.reaction state step = .proceed)
    (state : σ) :
    setup.executeWith callback state = setup.unwatched.execute ∧
      setup.unwatched.Yields fun trace =>
        setup.callsOf callback state = trace.steps ∧
          (setup.watch callback state).state = callback.afterAll state trace.steps ∧
          ∀ step ∈ trace.steps, setup.Decides step := by
  have plain := Setup.plain_unwatched writable positive
  have watched : setup.watch callback state =
      ⟨setup.unwatched.run, callback.afterAll state setup.unwatched.run.steps⟩ := by
    rw [Setup.watch_eq_attend,
      Callback.attend_of_returnsOn (Callback.returnsOn_of_returns returns _ _)]
  constructor
  · rw [Setup.executeWith, watched]
    rfl
  · apply plain.yields
    intro trace tells
    rw [Setup.callsOf_eq, watched, tells.steps]
    exact ⟨rfl, rfl, fun step member => plain.decides member⟩

def relay : Document where
  nodes := [
    ⟨"greet", "", .level none none [], [], by decide⟩,
    ⟨"send", "", .action [⟨"mail", "Welcome", none⟩], [], by decide⟩]
  edges := [
    ⟨"hand", "greet", "send", none, by decide, by decide, by decide⟩,
    ⟨"lose", "send", "ghost", none, by decide, by decide, by decide⟩]
  distinct := by decide

def relaying : Setup String where
  document := relay
  context := []
  limit := 5
  clock := fun _ => "2024-01-01T00:00:00+00:00"
  observer := silent

def relayed : List Step :=
  [⟨1, "greet", "level", "greet", .level none none [], "2024-01-01T00:00:00+00:00", none,
      some "send"⟩,
    ⟨2, "send", "action", "send",
      .action [⟨⟨"mail", "Welcome", none⟩, "2024-01-01T00:00:00+00:00"⟩],
      "2024-01-01T00:00:00+00:00", none, some "ghost"⟩]

theorem run_relaying : relaying.unwatched.run = ⟨relayed, .failed (.nodeNotFound "ghost")⟩ := by
  apply Option.some.inj
  rw [← relaying.unwatched.runWithin_of_nodes]
  rfl

def counting : Callback Nat String :=
  fun count _ => .pending (.done .proceed (count + 1))

theorem executeWith_of_returns_relaying :
    relaying.context.Writable ∧ 1 ≤ relaying.limit ∧
      (∀ count step, counting.reaction count step = .proceed) ∧
      relaying.executeWith counting 0 = relaying.unwatched.execute ∧
      relaying.unwatched.Yields fun trace =>
        relaying.callsOf counting 0 = trace.steps ∧
          (relaying.watch counting 0).state = counting.afterAll 0 trace.steps ∧
          ∀ step ∈ trace.steps, relaying.Decides step := by
  have writable : relaying.context.Writable := fun _ member => nomatch member
  exact ⟨writable, by decide, fun _ _ => rfl,
    executeWith_of_returns writable (by decide) (fun _ _ => rfl) 0⟩

/-!
## Callbacks that raise an error
-/

inductive Raised (ε : Type)
  | own (error : ErrorRecord)
  | foreign (error : ε)

def Raised.reaction : Raised ε → Reaction ε
  | .own error => .fail error
  | .foreign error => .interrupt error

def Raised.ending : Raised ε → Ending ε
  | .own error => .failed (.reported error)
  | .foreign error => .interrupted error

@[simp] theorem Raised.ending?_reaction (raised : Raised ε) :
    raised.reaction.ending? = some raised.ending := by
  cases raised <;> rfl

/-- A callback that is told some steps returns from the calls before the one with a number, and in
that one it raises an error. -/
structure Callback.RaisesAt (callback : Callback σ ε) (raised : Raised ε) (number : Nat) (state : σ)
    (steps : List Step) : Prop where
  positive : 1 ≤ number
  returns : callback.ReturnsOn state (steps.take (number - 1))
  raises : ∀ step, steps[number - 1]? = some step →
    callback.reaction (callback.afterAll state (steps.take (number - 1))) step = raised.reaction

namespace Callback

variable {callback : Callback σ ε} {state : σ} {raised : Raised ε} {number : Nat}
  {steps : List Step}

theorem RaisesAt.attend_of_short
    (raises : callback.RaisesAt raised number state steps) (short : steps.length < number)
    (ending : Ending ε) :
    (callback.attend ending state steps).run = ⟨steps, ending⟩ := by
  have returns := raises.returns
  rw [List.take_of_length_le (by omega)] at returns
  rw [attend_of_returnsOn returns]

theorem RaisesAt.attend_of_long
    (raises : callback.RaisesAt raised number state steps) (long : number ≤ steps.length)
    (ending : Ending ε) :
    (callback.attend ending state steps).run = ⟨steps.take number, raised.ending⟩ := by
  rcases raises with ⟨positive, returns, raises⟩
  -- The steps before the call, the step of the call, and those that the run never comes to.
  rcases Nat.exists_eq_add_of_le' positive with ⟨earlier, rfl⟩
  rw [Nat.add_sub_cancel] at returns raises
  have reached : steps[earlier]? = some steps[earlier] := List.getElem?_eq_getElem long
  have stops := congrArg Reaction.ending? (raises _ reached)
  rw [raised.ending?_reaction] at stops
  have attended := attend_of_stops returns stops (steps.drop (earlier + 1)) ending
  rw [← List.drop_eq_getElem_cons long, List.take_append_drop, List.take_append_getElem] at attended
  rw [attended]

end Callback

theorem Setup.Plain.summary_take
    {setup : Setup ε} (plain : setup.Plain) (uniform : setup.clock.Uniform) (number : Nat)
    (terminatedBy : String) :
    ∃ summary, Summary.ofSteps (setup.run.steps.take number) terminatedBy = .ok summary :=
  exists_summary_of_ticks uniform
    (fun _ member => plain.timestamp (List.mem_of_mem_take member)) terminatedBy

theorem Run.trace_of_reported
    {steps : List Step} {error : ErrorRecord} {summary : Summary}
    (summed : Summary.ofSteps steps error.ending = .ok summary) (context : Context) (limit : Nat) :
    (⟨steps, .failed (.reported error)⟩ : Run ε).trace context limit =
      .ok ⟨steps, context, summary, some error, some limit⟩ := by
  show Run.account ⟨steps, .failed (.reported error)⟩ context limit = _
  simp only [Run.account, Ending.name, Failure.record, summed]
  rfl

/-- A callback raises an error in the call with a number. If the run that nobody watches has fewer
steps, the caller gets what it gets of that run. Otherwise the callback is told as many steps of it,
and what the caller gets depends on the error: one that runs do not know reaches the caller, and
there is no account; but one that they know is taken for a failure of the run, and there is an
account of the steps up to there that tells of it. -/
theorem executeWith_of_raisesAt
    {setup : Setup ε} (writable : setup.context.Writable) (positive : 1 ≤ setup.limit)
    {callback : Callback σ ε} {raised : Raised ε} {number : Nat} {state : σ}
    (raises : callback.RaisesAt raised number state setup.unwatched.run.steps) :
    (setup.unwatched.Yields fun trace => trace.steps = setup.unwatched.run.steps) ∧
      setup.callsOf callback state = setup.unwatched.run.steps.take number ∧
      (setup.unwatched.run.steps.length < number →
        setup.executeWith callback state = setup.unwatched.execute) ∧
      (number ≤ setup.unwatched.run.steps.length →
        (∀ error, raised = .foreign error →
          setup.executeWith callback state = .error (.interrupted error)) ∧
        (∀ error, raised = .own error → setup.clock.Uniform →
          ∃ trace, setup.executeWith callback state = .ok trace ∧
            trace.steps = setup.unwatched.run.steps.take number ∧ trace.error = some error ∧
            trace.summary.terminatedBy = error.ending)) := by
  have plain := Setup.plain_unwatched writable positive
  refine ⟨plain.yields fun trace tells => tells.steps, ?_, ?_, ?_⟩
  · rw [Setup.callsOf_eq, Setup.watch_eq_attend]
    rcases Nat.lt_or_ge setup.unwatched.run.steps.length number with short | long
    · rw [raises.attend_of_short short, List.take_of_length_le (Nat.le_of_lt short)]
    · rw [raises.attend_of_long long]
  · intro short
    rw [Setup.executeWith, Setup.watch_eq_attend, raises.attend_of_short short]
    rfl
  · intro long
    have watched : setup.executeWith callback state =
        Run.trace ⟨setup.unwatched.run.steps.take number, raised.ending⟩ setup.context
          setup.limit := by
      rw [Setup.executeWith, Setup.watch_eq_attend, raises.attend_of_long long]
    rw [watched]
    constructor
    · rintro error rfl
      rfl
    · rintro error rfl uniform
      rcases plain.summary_take uniform number error.ending with ⟨summary, summed⟩
      exact ⟨_, Run.trace_of_reported summed setup.context setup.limit, rfl, rfl,
        Summary.terminatedBy_of_ofSteps summed⟩

def raisingAt (number : Nat) (raised : Raised String) : Callback Nat String :=
  fun calls _ => .done (if calls + 1 = number then raised.reaction else .proceed) (calls + 1)

theorem executeWith_of_raisesAt_relaying :
    relaying.context.Writable ∧ 1 ≤ relaying.limit ∧
      (raisingAt 2 (.foreign "no mail")).RaisesAt (.foreign "no mail") 2 0
        relaying.unwatched.run.steps ∧
      relaying.callsOf (raisingAt 2 (.foreign "no mail")) 0 = relayed ∧
      relaying.executeWith (raisingAt 2 (.foreign "no mail")) 0 =
        .error (.interrupted "no mail") := by
  have writable : relaying.context.Writable := fun _ member => nomatch member
  have raises : (raisingAt 2 (.foreign "no mail")).RaisesAt (.foreign "no mail") 2 0
      relaying.unwatched.run.steps := by
    rw [run_relaying]
    exact ⟨by decide, ⟨rfl, trivial⟩, fun _ _ => rfl⟩
  rcases executeWith_of_raisesAt writable (by decide) raises with ⟨_, calls, _, stops⟩
  rw [run_relaying] at calls stops
  exact ⟨writable, by decide, raises, calls, (stops (by decide)).1 _ rfl⟩

def ghostly : ErrorRecord :=
  Failure.record (.nodeNotFound "ghost")

/-- The first call raises an error that runs know. It does not reach the caller, who gets an account
of a run that has failed at its first step. -/
theorem executeWith_hides_ghostly :
    (raisingAt 1 (.own ghostly)).RaisesAt (.own ghostly) 1 0 relaying.unwatched.run.steps ∧
      1 ≤ relaying.unwatched.run.steps.length ∧
      ∃ trace, relaying.executeWith (raisingAt 1 (.own ghostly)) 0 = .ok trace ∧
        trace.path = ["greet"] ∧ trace.error = some ghostly := by
  have raises : (raisingAt 1 (.own ghostly)).RaisesAt (.own ghostly) 1 0
      relaying.unwatched.run.steps := by
    rw [run_relaying]
    exact ⟨by decide, trivial, fun _ _ => rfl⟩
  have long : 1 ≤ relaying.unwatched.run.steps.length := by
    rw [run_relaying]
    decide
  have writable : relaying.context.Writable := fun _ member => nomatch member
  rcases (Setup.plain_unwatched writable (by decide)).summary_take (Clock.uniform_const _) 1
    ghostly.ending with ⟨summary, summed⟩
  rw [run_relaying] at summed
  have told : relaying.executeWith (raisingAt 1 (.own ghostly)) 0 =
      .ok ⟨relayed.take 1, relaying.context, summary, some ghostly, some relaying.limit⟩ := by
    rw [Setup.executeWith, Setup.watch_eq_attend, raises.attend_of_long long, run_relaying]
    exact Run.trace_of_reported summed relaying.context relaying.limit
  exact ⟨raises, long, _, told, rfl, rfl⟩

end Walk
end WorkflowWalk
