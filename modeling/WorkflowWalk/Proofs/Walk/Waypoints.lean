import WorkflowWalk.Proofs.Document.Graph
import WorkflowWalk.Proofs.Walk.Account

/-!
# Waypoints

The waypoints of a setup are the ids that a walk would come by if nothing stopped it: first the
start, then always the id that the decision at the last one leads to. A plain run makes a step at
each of them up to the first index at which it has to stop.
-/

namespace WorkflowWalk
namespace Walk

variable {ε : Type}

namespace Setup

/-!
## The reference walk
-/

def leadFrom? (setup : Setup ε) (id : String) : Option String :=
  match setup.document.node? id with
  | none => none
  | some node =>
      match Decision.resolve setup.document setup.context node with
      | .ok (some decision) => some decision.target
      | _ => none

/-- The waypoint with an index. The first one is the first node that no edge leads to. -/
def waypoint (setup : Setup ε) : Nat → Option String
  | 0 =>
      (setup.document.nodes.find? fun node =>
        setup.document.edges.all fun edge => edge.target ≠ node.id).map (·.id)
  | index + 1 => (setup.waypoint index).bind setup.leadFrom?

def PassedBefore (setup : Setup ε) (index : Nat) (id : String) : Prop :=
  ∃ earlier < index, setup.waypoint earlier = some id

/-- Whether a walk cannot make a step at the waypoint with an index. -/
def StopsAt (setup : Setup ε) (index : Nat) : Prop :=
  setup.waypoint index = none ∨
    (∃ id, setup.waypoint index = some id ∧ setup.PassedBefore index id) ∨
    index = setup.limit ∨
    ∃ id, setup.waypoint index = some id ∧ id ∉ setup.document.nodeIds

structure FirstStop (setup : Setup ε) (index : Nat) : Prop where
  positive : 1 ≤ index
  stops : setup.StopsAt index
  least : ∀ earlier, 1 ≤ earlier → earlier < index → ¬setup.StopsAt earlier

/-- The error that a walk which stops at an index ends with, if any. Of several reasons to stop the
first one in this order counts. -/
inductive EndsAt (setup : Setup ε) (index : Nat) : Option ErrorRecord → Prop
  | success (undefined : setup.waypoint index = none) : EndsAt setup index none
  | cycle {id : String} (defined : setup.waypoint index = some id)
      (passed : setup.PassedBefore index id) :
      EndsAt setup index
        (some ⟨"CYCLE_DETECTED", "Cycle detected at node '" ++ id ++ "'.", some id⟩)
  | ceiling {id : String} (defined : setup.waypoint index = some id)
      (fresh : ¬setup.PassedBefore index id) (reached : index = setup.limit) :
      EndsAt setup index
        (some ⟨"STEP_LIMIT_EXCEEDED",
          "Workflow exceeded maximum steps (" ++ toString setup.limit ++
            "). Possible infinite loop.",
          some id⟩)
  | unknown {id : String} (defined : setup.waypoint index = some id)
      (fresh : ¬setup.PassedBefore index id) (below : index ≠ setup.limit)
      (absent : id ∉ setup.document.nodeIds) :
      EndsAt setup index
        (some ⟨"NODE_NOT_FOUND", "Node '" ++ id ++ "' was not found in the workflow.", some id⟩)

/-!
## Positions on the reference walk
-/

/-- A position lies on the reference walk, one waypoint further for each step made. -/
structure Reaches (setup : Setup ε) (position : Position) : Prop where
  here : setup.waypoint position.visited.length = some position.id
  passed : ∀ id, id ∈ position.visited ↔ setup.PassedBefore position.visited.length id
  within : position.visited.length ≤ setup.limit

theorem passedBefore_succ
    {setup : Setup ε} {index : Nat} {id : String} :
    setup.PassedBefore (index + 1) id ↔
      setup.waypoint index = some id ∨ setup.PassedBefore index id := by
  constructor
  · rintro ⟨earlier, before, same⟩
    rcases Nat.lt_succ_iff_lt_or_eq.mp before with less | rfl
    · exact Or.inr ⟨earlier, less, same⟩
    · exact Or.inl same
  · rintro (same | ⟨earlier, before, same⟩)
    · exact ⟨index, Nat.lt_succ_self index, same⟩
    · exact ⟨earlier, Nat.lt_succ_of_lt before, same⟩

theorem leadFrom?_of_decided
    {setup : Setup ε} {id : String} {node : Node} {decision : Option Decision}
    (found : setup.document.node? id = some node)
    (decided : Decision.resolve setup.document setup.context node = .ok decision) :
    setup.leadFrom? id = decision.map (·.target) := by
  rw [leadFrom?, found]
  simp only [decided]
  cases decision <;> rfl

theorem Reaches.waypoint_succ
    {setup : Setup ε} {position : Position} {node : Node} {decision : Option Decision}
    (reaches : setup.Reaches position) (enters : setup.Enters position node)
    (decided : Decision.resolve setup.document setup.context node = .ok decision) :
    setup.waypoint (position.visited.length + 1) = decision.map (·.target) := by
  rw [waypoint, reaches.here]
  exact leadFrom?_of_decided enters.found decided

theorem Reaches.advance
    {setup : Setup ε} {position : Position} {node : Node} {decision : Decision} (step : Step)
    (reaches : setup.Reaches position) (enters : setup.Enters position node)
    (decided : Decision.resolve setup.document setup.context node = .ok (some decision)) :
    setup.Reaches (position.advance step decision.target) := by
  constructor
  · exact reaches.waypoint_succ enters decided
  · intro id
    show id ∈ position.id :: position.visited ↔ setup.PassedBefore (position.visited.length + 1) id
    rw [passedBefore_succ, List.mem_cons, reaches.passed, reaches.here, Option.some.injEq, eq_comm]
  · exact enters.below

theorem Reaches.not_stopsAt
    {setup : Setup ε} {position : Position} {node : Node}
    (reaches : setup.Reaches position) (enters : setup.Enters position node) :
    ¬setup.StopsAt position.visited.length := by
  rintro (undefined | ⟨id, defined, passed⟩ | reached | ⟨id, defined, absent⟩)
  · rw [reaches.here] at undefined
    cases undefined
  · rw [reaches.here, Option.some.injEq] at defined
    exact enters.fresh ((reaches.passed position.id).mpr (defined ▸ passed))
  · exact Nat.ne_of_lt enters.below reached
  · rw [reaches.here, Option.some.injEq] at defined
    exact absent (defined ▸ Document.mem_nodeIds_of_node? enters.found)

end Setup

/-!
## Runs retrace the waypoints
-/

def Step.way (step : Step) : Option String × Option String :=
  (some step.nodeId, step.next)

def Setup.stretch (setup : Setup ε) (first count : Nat) : List (Option String × Option String) :=
  (List.range' first count).map fun index => (setup.waypoint index, setup.waypoint (index + 1))

theorem Setup.Reaches.way_stepAt
    {setup : Setup ε} {position : Position} {node : Node} {decision : Option Decision}
    (reaches : setup.Reaches position) (enters : setup.Enters position node)
    (decided : Decision.resolve setup.document setup.context node = .ok decision) :
    (setup.stepAt position node decision).way =
      (setup.waypoint position.visited.length,
        setup.waypoint (position.visited.length + 1)) := by
  rw [reaches.here, reaches.waypoint_succ enters decided, ← enters.id_eq]
  rfl

def Retraces (setup : Setup ε) (position : Position) (run : Run ε) : Prop :=
  ∃ count,
    (∀ index, position.visited.length ≤ index → index < position.visited.length + count →
      ¬setup.StopsAt index) ∧
    setup.StopsAt (position.visited.length + count) ∧
    run.steps.map Step.way = setup.stretch position.visited.length count ∧
    setup.EndsAt (position.visited.length + count) run.ending.error?

theorem retraces_of_halt
    {setup : Setup ε} {position : Position} {ending : Ending ε}
    (stops : setup.StopsAt position.visited.length)
    (ends : setup.EndsAt position.visited.length ending.error?) :
    Retraces setup position ⟨[], ending⟩ := by
  refine ⟨0, ?_, stops, rfl, ends⟩
  intro index least below
  exact absurd below (Nat.not_lt.mpr least)

theorem Walks.retraces
    {setup : Setup ε} {position : Position} {run : Run ε} (walks : Walks setup position run)
    (reaches : setup.Reaches position) :
    Retraces setup position run := by
  induction walks with
  | @revisit position seen =>
      have passed := (reaches.passed position.id).mp seen
      apply retraces_of_halt
      · exact Or.inr (Or.inl ⟨position.id, reaches.here, passed⟩)
      · exact .cycle reaches.here passed
  | @ceiling position fresh reached =>
      have same : position.visited.length = setup.limit := Nat.le_antisymm reaches.within reached
      apply retraces_of_halt
      · exact Or.inr (Or.inr (Or.inl same))
      · exact .ceiling reaches.here (fun passed => fresh ((reaches.passed _).mpr passed)) same
  | @unknown position fresh below absent =>
      have missing := Document.node?_eq_none_iff.mp absent
      apply retraces_of_halt
      · exact Or.inr (Or.inr (Or.inr ⟨position.id, reaches.here, missing⟩))
      · exact .unknown reaches.here (fun passed => fresh ((reaches.passed _).mpr passed))
          (Nat.ne_of_lt below) missing
  | @rest position node enters decided =>
      have undefined : setup.waypoint (position.visited.length + 1) = none :=
        reaches.waypoint_succ enters decided
      refine ⟨1, ?_, Or.inl undefined, ?_, ?_⟩
      · intro index least below
        have same : index = position.visited.length := by omega
        rw [same]
        exact reaches.not_stopsAt enters
      · exact congrArg (· :: []) (reaches.way_stepAt enters decided)
      · rw [Setup.error?_restingEnd]
        exact .success undefined
  | @onward position node decision run enters decided later ih =>
      rcases ih (reaches.advance _ enters decided) with ⟨count, goes, stops, retraced, ends⟩
      have further :
          position.visited.length + 1 + count = position.visited.length + (count + 1) := by
        omega
      refine ⟨count + 1, ?_, further ▸ stops, ?_, further ▸ ends⟩
      · intro index least below
        rcases Nat.eq_or_lt_of_le least with same | after
        · rw [← same]
          exact reaches.not_stopsAt enters
        · exact goes index after (by rw [Position.advance]; simp only [List.length_cons]; omega)
      · rw [Setup.stretch, List.range'_succ, List.map_cons, List.map_cons,
          reaches.way_stepAt enters decided, retraced]
        rfl

namespace Setup

theorem waypoint_zero (setup : Setup ε) :
    setup.waypoint 0 = setup.document.start?.map (·.id) := by
  rw [waypoint, Document.start?_eq_find?]

theorem reaches_start
    {setup : Setup ε} {node : Node} (starts : setup.document.start? = some node) :
    setup.Reaches (.start node.id) := by
  constructor
  · show setup.waypoint 0 = some node.id
    rw [waypoint_zero, starts]
    rfl
  · intro id
    constructor
    · intro member
      cases member
    · rintro ⟨_, below, _⟩
      cases below
  · exact Nat.zero_le _

end Setup

/-- A plain run makes a step at each waypoint up to the first index at which a walk stops, and ends
as it has to end there. Without a start it fails at once. -/
theorem execute_retraces_waypoints
    {setup : Setup ε} (plain : setup.Plain) :
    (setup.waypoint 0 = none →
      setup.Yields fun trace =>
        trace.steps = [] ∧
          trace.error = some ⟨"NO_START_NODE",
            "No start node found (every node has an incoming edge).", none⟩) ∧
    (setup.waypoint 0 ≠ none →
      ∃ count, setup.FirstStop count ∧
        setup.Yields fun trace =>
          trace.steps.map (fun step => (some step.nodeId, step.next)) =
              (List.range count).map
                (fun index => (setup.waypoint index, setup.waypoint (index + 1))) ∧
            setup.EndsAt count trace.error ∧
            (trace.success = true ↔ setup.waypoint count = none)) := by
  rcases plain.run_cases with ⟨missing, runs⟩ | ⟨node, starts, walks⟩
  · have undefined : setup.waypoint 0 = none := by
      rw [Setup.waypoint_zero, missing]
      rfl
    refine ⟨fun _ => ?_, fun defined => absurd undefined defined⟩
    apply plain.yields
    intro trace tells
    rw [tells.steps, tells.error, runs]
    exact ⟨rfl, rfl⟩
  · have reaches := Setup.reaches_start starts
    rcases walks.retraces reaches with ⟨count, goes, stops, retraced, ends⟩
    have first : (Position.start node.id).visited.length = 0 := rfl
    rw [first, Nat.zero_add] at ends goes stops
    rw [first] at retraced
    have defined : setup.waypoint 0 = some node.id := reaches.here
    refine ⟨fun undefined => ?_, fun _ => ⟨count, ⟨?_, stops, ?_⟩, ?_⟩⟩
    · rw [defined] at undefined
      cases undefined
    · rcases Nat.eq_zero_or_pos count with none | positive
      · rw [none] at stops
        exact absurd stops (reaches.not_stopsAt (plain.enters_start starts))
      · exact positive
    · exact fun earlier _ => goes earlier (Nat.zero_le _)
    · apply plain.yields
      intro trace tells
      rw [Trace.success, tells.steps, tells.error]
      refine ⟨?_, ends, ?_⟩
      · rw [List.range_eq_range']
        exact retraced
      · generalize setup.run.ending.error? = error at ends ⊢
        cases ends with
        | success undefined =>
            simp [undefined]
        | cycle defined | ceiling defined | unknown defined =>
            simp [defined]

theorem execute_retraces_waypoints_crossing :
    crossing.Plain ∧ crossing.waypoint 0 = some "check" ∧
      ∃ count, crossing.FirstStop count ∧
        crossing.Yields fun trace =>
          trace.steps.map (fun step => (some step.nodeId, step.next)) =
              (List.range count).map
                (fun index => (crossing.waypoint index, crossing.waypoint (index + 1))) ∧
            crossing.EndsAt count trace.error ∧
            (trace.success = true ↔ crossing.waypoint count = none) := by
  have start : crossing.waypoint 0 = some "check" := by
    decide
  refine ⟨crossing_plain, start, ?_⟩
  apply (execute_retraces_waypoints crossing_plain).2
  rw [start]
  exact Option.some_ne_none _

end Walk
end WorkflowWalk
