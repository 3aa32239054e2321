import WorkflowWalk.Walk.Request

/-!
# Watched runs

An observer is a function of steps. A callback is more: it has a state that every call may change, a
call may have to be waited for, and it may raise an error. Each step of a run is told to the
callback as soon as it is recorded, and the run goes on when the call has returned.
-/

namespace WorkflowWalk
namespace Walk

variable {σ ε : Type}

/-! ## Callbacks -/

/-- What a call comes to: it is done, with a reaction and a state that it leaves, or it has to be
waited for. -/
inductive Reply (σ ε : Type)
  | done (reaction : Reaction ε) (state : σ)
  | pending (rest : Reply σ ε)

def Reply.settle : Reply σ ε → Reaction ε × σ
  | .done reaction state => (reaction, state)
  | .pending rest => rest.settle

/-- A callback: what a call comes to in a state, for a step. -/
abbrev Callback (σ ε : Type) := σ → Step → Reply σ ε

namespace Callback

def reaction (callback : Callback σ ε) (state : σ) (step : Step) : Reaction ε :=
  (callback state step).settle.1

def after (callback : Callback σ ε) (state : σ) (step : Step) : σ :=
  (callback state step).settle.2

end Callback

/-! ## Runs that are told to callbacks -/

/-- A run that has been told to a callback, and the state that the last call has left. -/
structure Watched (σ ε : Type) where
  run : Run ε
  state : σ

namespace Setup

def observedBy (setup : Setup ε) (observer : Observer ε) : Setup ε :=
  { setup with observer }

/-- Walks on from a position. Each step is told to the callback in the state that the call before
has left. -/
def watchFrom (setup : Setup ε) (callback : Callback σ ε) (state : σ) (position : Position) :
    Watched σ ε :=
  match _turned : (setup.observedBy (callback.reaction state)).turn position with
  | .halt ending => ⟨⟨[], ending⟩, state⟩
  | .finish step ending => ⟨⟨[step], ending⟩, callback.after state step⟩
  | .proceed step next =>
      let rest := setup.watchFrom callback (callback.after state step) next
      ⟨rest.run.prepend step, rest.state⟩
termination_by (setup.document.unvisited position.visited).length
decreasing_by
  have fewer := length_unvisited_lt_of_turn _turned
  exact fewer

def watch (setup : Setup ε) (callback : Callback σ ε) (state : σ) : Watched σ ε :=
  match setup.document.start? with
  | none => ⟨⟨[], .failed .noStartNode⟩, state⟩
  | some node => setup.watchFrom callback state (.start node.id)

def executeWith (setup : Setup ε) (callback : Callback σ ε) (state : σ) :
    Except (Abort ε) Trace :=
  (setup.watch callback state).run.trace setup.context setup.limit

end Setup

/-! ## Requests -/

namespace Request

def watch (request : Request ε) (callback : Callback σ ε) (state : σ) :
    Except Refusal (Watched σ ε) :=
  (·.watch callback state) <$> request.setup

def accountWith (request : Request ε) (callback : Callback σ ε) (state : σ) :
    Except Refusal (Except (Abort ε) Trace) :=
  (·.executeWith callback state) <$> request.setup

end Request
end Walk
end WorkflowWalk
