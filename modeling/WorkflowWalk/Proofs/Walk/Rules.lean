import WorkflowWalk.Proofs.Choice
import WorkflowWalk.Proofs.Document.Graph
import WorkflowWalk.Walk.Trace

/-!
# Rules of plain runs

A run that its observer, if any, always lets go on comes with each turn to one of five things, and
each of them is a rule here, or it comes to a node where no decision can be made. In a context whose
integers all have texts the latter does not happen: such runs are called plain. Whatever holds of
them is proved by induction on the rules.
-/

namespace WorkflowWalk
namespace Walk

variable {ε : Type}

structure Setup.Plain (setup : Setup ε) : Prop where
  quiet : ∀ step, setup.observer step = .proceed
  writable : setup.context.Writable
  positive : 1 ≤ setup.limit

/-!
## The rules
-/

/-- A run passes the three checks at a position and so makes a step at a node. -/
structure Setup.Enters (setup : Setup ε) (position : Position) (node : Node) : Prop where
  fresh : position.id ∉ position.visited
  below : position.visited.length < setup.limit
  found : setup.document.node? position.id = some node

theorem Setup.Enters.id_eq
    {setup : Setup ε} {position : Position} {node : Node} (enters : setup.Enters position node) :
    node.id = position.id :=
  Document.node?_eq_some_id enters.found

inductive Walks (setup : Setup ε) : Position → Run ε → Prop
  | revisit {position : Position} (seen : position.id ∈ position.visited) :
      Walks setup position ⟨[], .failed (.cycleDetected position.id)⟩
  | ceiling {position : Position} (fresh : position.id ∉ position.visited)
      (reached : setup.limit ≤ position.visited.length) :
      Walks setup position ⟨[], .failed (.stepLimitExceeded position.id setup.limit)⟩
  | unknown {position : Position} (fresh : position.id ∉ position.visited)
      (below : position.visited.length < setup.limit)
      (absent : setup.document.node? position.id = none) :
      Walks setup position ⟨[], .failed (.nodeNotFound position.id)⟩
  | rest {position : Position} {node : Node} (enters : setup.Enters position node)
      (decided : Decision.resolve setup.document setup.context node = .ok none) :
      Walks setup position ⟨[setup.stepAt position node none], setup.restingEnd node⟩
  | onward {position : Position} {node : Node} {decision : Decision} {run : Run ε}
      (enters : setup.Enters position node)
      (decided : Decision.resolve setup.document setup.context node = .ok (some decision))
      (later : Walks setup
        (position.advance (setup.stepAt position node (some decision)) decision.target) run) :
      Walks setup position ⟨setup.stepAt position node (some decision) :: run.steps, run.ending⟩

/-- How runs that nobody stops come to a node where no decision can be made. -/
inductive Falters (setup : Setup ε) : Position → Run ε → Prop
  | here {position : Position} {node : Node} {fault : Numeral.Fault}
      (enters : setup.Enters position node)
      (failed : Decision.resolve setup.document setup.context node = .error fault) :
      Falters setup position ⟨[], .faulted node fault⟩
  | onward {position : Position} {node : Node} {decision : Decision} {run : Run ε}
      (enters : setup.Enters position node)
      (decided : Decision.resolve setup.document setup.context node = .ok (some decision))
      (later : Falters setup
        (position.advance (setup.stepAt position node (some decision)) decision.target) run) :
      Falters setup position ⟨setup.stepAt position node (some decision) :: run.steps, run.ending⟩

theorem Falters.exists_fault
    {setup : Setup ε} {position : Position} {run : Run ε} (falters : Falters setup position run) :
    ∃ node fault, run.ending = .faulted node fault ∧ node ∈ setup.document.nodes ∧
      Decision.resolve setup.document setup.context node = .error fault := by
  induction falters with
  | @here position node fault enters failed =>
      exact ⟨node, fault, rfl, Document.node?_mem enters.found, failed⟩
  | onward _ _ _ ih =>
      exact ih

namespace Setup

/-!
## Turns keep to the rules
-/

theorem nodeId_stepAt
    (setup : Setup ε) (position : Position) (node : Node) (decision : Option Decision) :
    (setup.stepAt position node decision).nodeId = node.id :=
  rfl

theorem leave_of_quiet
    {setup : Setup ε} (quiet : ∀ step, setup.observer step = .proceed) (position : Position)
    (node : Node) (decision : Option Decision) :
    setup.leave position node decision =
      match decision with
      | none => .finish (setup.stepAt position node none) (setup.restingEnd node)
      | some taken =>
          .proceed (setup.stepAt position node decision)
            (position.advance (setup.stepAt position node decision) taken.target) := by
  cases decision <;> simp [leave, quiet]

theorem restingEnd_eq (setup : Setup ε) (node : Node) :
    setup.restingEnd node =
      if node.branches?.isSome ∧ (setup.document.outgoing node.id).isEmpty = false then
        .noMatchingBranch
      else
        .completed := by
  rw [restingEnd]
  cases node.branches? <;> cases setup.document.outgoing node.id <;> rfl

theorem turn_of_revisit
    {setup : Setup ε} {position : Position} (seen : position.id ∈ position.visited) :
    setup.turn position = .halt (.failed (.cycleDetected position.id)) := by
  rw [turn, if_pos seen]

theorem turn_of_ceiling
    {setup : Setup ε} {position : Position} (fresh : position.id ∉ position.visited)
    (reached : setup.limit ≤ position.visited.length) :
    setup.turn position = .halt (.failed (.stepLimitExceeded position.id setup.limit)) := by
  rw [turn, if_neg fresh, if_pos reached]

theorem turn_of_unknown
    {setup : Setup ε} {position : Position} (fresh : position.id ∉ position.visited)
    (below : position.visited.length < setup.limit)
    (absent : setup.document.node? position.id = none) :
    setup.turn position = .halt (.failed (.nodeNotFound position.id)) := by
  rw [turn, if_neg fresh, if_neg (Nat.not_le_of_lt below), absent]

theorem turn_of_enters
    {setup : Setup ε} {position : Position} {node : Node} {decision : Option Decision}
    (enters : setup.Enters position node)
    (decided : Decision.resolve setup.document setup.context node = .ok decision) :
    setup.turn position = setup.leave position node decision := by
  rw [turn, if_neg enters.fresh, if_neg (Nat.not_le_of_lt enters.below), enters.found]
  simp only [decided]

theorem turn_of_fault
    {setup : Setup ε} {position : Position} {node : Node} {fault : Numeral.Fault}
    (enters : setup.Enters position node)
    (failed : Decision.resolve setup.document setup.context node = .error fault) :
    setup.turn position = .halt (.faulted node fault) := by
  rw [turn, if_neg enters.fresh, if_neg (Nat.not_le_of_lt enters.below), enters.found]
  simp only [failed]

theorem exists_leave_of_finish
    {setup : Setup ε} {position : Position} {step : Step} {ending : Ending ε}
    (turned : setup.turn position = .finish step ending) :
    ∃ node decision, setup.document.node? position.id = some node ∧
      setup.leave position node decision = .finish step ending := by
  unfold turn at turned
  split at turned
  · cases turned
  split at turned
  · cases turned
  split at turned
  · cases turned
  rename_i node found
  split at turned
  · cases turned
  rename_i decision _
  exact ⟨node, decision, found, turned⟩

/-- What is checked before a step depends on the document, the context and the limit only. So two
setups with these in common differ in a turn as they differ in how they leave a node. -/
theorem turn_of_same_checks
    (setup other : Setup ε) (documents : other.document = setup.document)
    (contexts : other.context = setup.context) (limits : other.limit = setup.limit)
    (change : Turn ε → Turn ε) (halts : ∀ ending, change (.halt ending) = .halt ending)
    (position : Position)
    (leaves : ∀ node decision, setup.turn position = setup.leave position node decision →
      other.leave position node decision = change (setup.leave position node decision)) :
    other.turn position = change (setup.turn position) := by
  by_cases seen : position.id ∈ position.visited
  · rw [turn_of_revisit seen, turn_of_revisit seen, halts]
  by_cases reached : setup.limit ≤ position.visited.length
  · rw [turn_of_ceiling seen reached, turn_of_ceiling seen (limits ▸ reached), halts, limits]
  have below : position.visited.length < setup.limit := Nat.lt_of_not_le reached
  cases found : setup.document.node? position.id with
  | none =>
      rw [turn_of_unknown seen below found,
        turn_of_unknown seen (limits ▸ below) (documents ▸ found), halts]
  | some node =>
      have enters : setup.Enters position node := ⟨seen, below, found⟩
      have entersToo : other.Enters position node := ⟨seen, limits ▸ below, documents ▸ found⟩
      cases decided : Decision.resolve setup.document setup.context node with
      | error fault =>
          have decidedToo : Decision.resolve other.document other.context node = .error fault := by
            rw [documents, contexts, decided]
          rw [turn_of_fault enters decided, turn_of_fault entersToo decidedToo, halts]
      | ok decision =>
          have decidedToo : Decision.resolve other.document other.context node = .ok decision := by
            rw [documents, contexts, decided]
          have turned := turn_of_enters enters decided
          rw [turn_of_enters entersToo decidedToo, leaves node decision turned, turned]

theorem walkFrom_of_rest
    {setup : Setup ε} (quiet : ∀ step, setup.observer step = .proceed) {position : Position}
    {node : Node} (enters : setup.Enters position node)
    (decided : Decision.resolve setup.document setup.context node = .ok none) :
    setup.walkFrom position = ⟨[setup.stepAt position node none], setup.restingEnd node⟩ := by
  have turned := turn_of_enters enters decided
  rw [leave_of_quiet quiet] at turned
  exact walkFrom_of_finish turned

theorem walkFrom_of_onward
    {setup : Setup ε} (quiet : ∀ step, setup.observer step = .proceed) {position : Position}
    {node : Node} {decision : Decision} (enters : setup.Enters position node)
    (decided : Decision.resolve setup.document setup.context node = .ok (some decision)) :
    setup.walkFrom position =
      .prepend (setup.stepAt position node (some decision))
        (setup.walkFrom
          (position.advance (setup.stepAt position node (some decision)) decision.target)) := by
  have turned := turn_of_enters enters decided
  rw [leave_of_quiet quiet] at turned
  exact walkFrom_of_proceed turned

/-- The walk from a position keeps to the rules, unless it comes to a node where no decision can be
made. -/
theorem walks_or_falters
    {setup : Setup ε} (quiet : ∀ step, setup.observer step = .proceed) (position : Position) :
    Walks setup position (setup.walkFrom position) ∨
      Falters setup position (setup.walkFrom position) := by
  -- With every step there are fewer ids left that have not been visited.
  induction left : (setup.document.unvisited position.visited).length using Nat.strongRecOn
    generalizing position with
  | ind size ih =>
      by_cases seen : position.id ∈ position.visited
      · rw [walkFrom_of_halt (turn_of_revisit seen)]
        exact Or.inl (.revisit seen)
      by_cases reached : setup.limit ≤ position.visited.length
      · rw [walkFrom_of_halt (turn_of_ceiling seen reached)]
        exact Or.inl (.ceiling seen reached)
      have below : position.visited.length < setup.limit := Nat.lt_of_not_le reached
      cases found : setup.document.node? position.id with
      | none =>
          rw [walkFrom_of_halt (turn_of_unknown seen below found)]
          exact Or.inl (.unknown seen below found)
      | some node =>
          have enters : setup.Enters position node := ⟨seen, below, found⟩
          cases decided : Decision.resolve setup.document setup.context node with
          | error fault =>
              rw [walkFrom_of_halt (turn_of_fault enters decided)]
              exact Or.inr (.here enters decided)
          | ok decision =>
              cases decision with
              | none =>
                  rw [walkFrom_of_rest quiet enters decided]
                  exact Or.inl (.rest enters decided)
              | some taken =>
                  have known := Document.mem_nodeIds_of_node? found
                  have fewer := setup.document.length_unvisited_cons_lt known seen
                  rw [left] at fewer
                  rw [walkFrom_of_onward quiet enters decided]
                  let next := position.advance (setup.stepAt position node (some taken)) taken.target
                  rcases ih _ fewer next rfl with walks | falters
                  · exact Or.inl (.onward enters decided walks)
                  · exact Or.inr (.onward enters decided falters)

/-- A run that nobody stops fails at once for want of a start, or keeps to the rules from the start
on, or comes to a node where no decision can be made. -/
theorem run_cases_of_quiet
    {setup : Setup ε} (quiet : ∀ step, setup.observer step = .proceed) :
    (setup.document.start? = none ∧ setup.run = ⟨[], .failed .noStartNode⟩) ∨
      ∃ node, setup.document.start? = some node ∧
        (Walks setup (.start node.id) setup.run ∨ Falters setup (.start node.id) setup.run) := by
  rw [run]
  cases starts : setup.document.start? with
  | none =>
      exact Or.inl ⟨rfl, rfl⟩
  | some node =>
      exact Or.inr ⟨node, rfl, walks_or_falters quiet (.start node.id)⟩

theorem Plain.walks
    {setup : Setup ε} (plain : setup.Plain) (position : Position) :
    Walks setup position (setup.walkFrom position) := by
  rcases walks_or_falters plain.quiet position with walks | falters
  · exact walks
  · rcases falters.exists_fault with ⟨node, fault, _, _, failed⟩
    rcases Decision.resolve_of_writable plain.writable setup.document node with
      ⟨decision, decided⟩
    rw [decided] at failed
    cases failed

theorem Plain.run_cases
    {setup : Setup ε} (plain : setup.Plain) :
    (setup.document.start? = none ∧ setup.run = ⟨[], .failed .noStartNode⟩) ∨
      ∃ node, setup.document.start? = some node ∧ Walks setup (.start node.id) setup.run := by
  rw [run]
  cases starts : setup.document.start? with
  | none =>
      exact Or.inl ⟨rfl, rfl⟩
  | some node =>
      exact Or.inr ⟨node, rfl, plain.walks (.start node.id)⟩

theorem Plain.enters_start
    {setup : Setup ε} (plain : setup.Plain) {node : Node}
    (starts : setup.document.start? = some node) :
    setup.Enters (.start node.id) node :=
  ⟨List.not_mem_nil, plain.positive, Document.node?_of_start? starts⟩

end Setup

theorem Walks.head?_path
    {setup : Setup ε} {position : Position} {run : Run ε} (walks : Walks setup position run)
    {node : Node} (enters : setup.Enters position node) :
    (run.steps.map (·.nodeId)).head? = some node.id := by
  cases walks with
  | revisit seen =>
      exact absurd seen enters.fresh
  | ceiling _ reached =>
      exact absurd enters.below (Nat.not_lt_of_le reached)
  | unknown _ _ absent =>
      rw [enters.found] at absent
      cases absent
  | rest entered | onward entered =>
      rw [List.map_cons, List.head?_cons, Setup.nodeId_stepAt, entered.id_eq, enters.id_eq]

/-!
## A crossing

The smallest document with a choice: from a condition an edge leads to an action if someone is old
enough, and another one to a level in the other case.
-/

def crossroads : Document where
  nodes := [
    ⟨"check", "", .condition [⟨"adult", "age >= 18"⟩], [], by decide⟩,
    ⟨"done", "", .action [], [], by decide⟩,
    ⟨"stop", "", .level none none [], [], by decide⟩]
  edges := [
    ⟨"e1", "check", "done", some "branch-0", by decide, by decide, by decide⟩,
    ⟨"e2", "check", "stop", some "else", by decide, by decide, by decide⟩]
  distinct := by decide

def crossing : Setup Empty where
  document := crossroads
  context := [(.text "age", .int 20)]
  limit := 3
  clock := fun _ => "2024-01-01T00:00:00+00:00"
  observer := silent

theorem crossing_plain : crossing.Plain where
  quiet _ := rfl
  writable := by
    intro entry member
    rw [List.mem_singleton.mp member]
    decide +kernel
  positive := by decide

theorem crossing_holds :
    Condition.holds (Condition.parse? "age >= 18") crossing.context = .ok true := by
  have parsed : Condition.parse? "age >= 18" = some ⟨"age", .atLeast, "18"⟩ := rfl
  have reached : (Condition.asNumber (.str "18")).le (Condition.asNumber (.int 20)) = true := by
    decide +kernel
  rw [parsed]
  exact congrArg Except.ok reached

theorem crossing_decides
    {node : Node} (found : crossroads.node? "check" = some node) :
    ∃ decision, decision.target = "done" ∧
      Decision.resolve crossroads crossing.context node = .ok (some decision) := by
  cases found
  refine ⟨⟨⟨"e1", "check", "done", some "branch-0", by decide, by decide, by decide⟩,
    some "adult", some "age >= 18"⟩, rfl, ?_⟩
  show Decision.amongBranches (crossroads.outgoing "check") crossing.context 0
    [⟨"adult", "age >= 18"⟩] = _
  rw [Decision.amongBranches, crossing_holds]
  rfl

end Walk
end WorkflowWalk
