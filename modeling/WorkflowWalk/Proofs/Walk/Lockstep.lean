import WorkflowWalk.Proofs.Document.Outline
import WorkflowWalk.Proofs.Walk.Account

/-!
# Runs in lockstep

Two plain runs take the same way if their documents have the same outline, their contexts agree on
the fields that the conditions ask for, and they have the same limit. Their clocks may differ, and so
the positions they come by may differ in the ticks.
-/

namespace WorkflowWalk
namespace Walk

variable {ε δ : Type}

/-- Two setups are alike in all that the way of a run may depend on. -/
structure Setup.Likewise (one : Setup ε) (two : Setup δ) : Prop where
  outline : one.document.SameOutline two.document
  agree : ∀ field, one.document.AsksFor field →
    present? one.context field = present? two.context field
  limit : one.limit = two.limit

structure Run.Parallel (run : Run ε) (other : Run δ) : Prop where
  ids : run.steps.map (·.nodeId) = other.steps.map (·.nodeId)
  nexts : run.steps.map (·.next) = other.steps.map (·.next)
  error : run.ending.error? = other.ending.error?
  name : run.ending.name = other.ending.name

theorem Run.Parallel.prepend
    {run : Run ε} {other : Run δ} (parallel : run.Parallel other) {step stepToo : Step}
    (id : step.nodeId = stepToo.nodeId) (next : step.next = stepToo.next) :
    (run.prepend step).Parallel (other.prepend stepToo) := by
  refine ⟨?_, ?_, parallel.error, parallel.name⟩
  · show step.nodeId :: run.steps.map (·.nodeId) = stepToo.nodeId :: other.steps.map (·.nodeId)
    rw [id, parallel.ids]
  · show step.next :: run.steps.map (·.next) = stepToo.next :: other.steps.map (·.next)
    rw [next, parallel.nexts]

/-!
## One turn
-/

namespace Setup.Likewise

variable {one : Setup ε} {two : Setup δ}

theorem enters
    (likewise : one.Likewise two) {position : Position} {node : Node}
    (enters : one.Enters position node) (tick : Nat) :
    ∃ nodeToo, two.Enters { position with tick } nodeToo ∧ node.outline = nodeToo.outline := by
  have alike := likewise.outline.node? position.id
  rw [enters.found] at alike
  rcases Option.map_eq_some_iff.mp alike.symm with ⟨nodeToo, found, outlines⟩
  have below := enters.below
  rw [likewise.limit] at below
  exact ⟨nodeToo, ⟨enters.fresh, below, found⟩, outlines.symm⟩

theorem unknown
    (likewise : one.Likewise two) {id : String} (absent : one.document.node? id = none) :
    two.document.node? id = none := by
  have alike := likewise.outline.node? id
  rw [absent] at alike
  exact Option.map_eq_none_iff.mp alike.symm

theorem decides
    (likewise : one.Likewise two) {node nodeToo : Node} (member : node ∈ one.document.nodes)
    (outlines : node.outline = nodeToo.outline) {decision : Option Decision}
    (decided : Decision.resolve one.document one.context node = .ok decision) :
    ∃ decisionToo, Decision.resolve two.document two.context nodeToo = .ok decisionToo ∧
      decision.map (·.target) = decisionToo.map (·.target) := by
  have alike := Decision.resolve_of_outline likewise.outline likewise.agree member outlines
  rw [decided] at alike
  cases decidedToo : Decision.resolve two.document two.context nodeToo with
  | error fault =>
      rw [decidedToo] at alike
      cases alike
  | ok decisionToo =>
      rw [decidedToo] at alike
      exact ⟨decisionToo, rfl, Except.ok.inj alike⟩

theorem name_restingEnd
    (likewise : one.Likewise two) {node nodeToo : Node} (outlines : node.outline = nodeToo.outline) :
    (one.restingEnd node).name = (two.restingEnd nodeToo).name := by
  have empty : (two.document.outgoing nodeToo.id).isEmpty =
      (one.document.outgoing node.id).isEmpty := by
    have leaving := congrArg List.isEmpty (likewise.outline.outgoing node.id)
    rw [List.isEmpty_map, List.isEmpty_map] at leaving
    rw [← Node.id_of_outline outlines, leaving]
  have condition : nodeToo.branches?.isSome = node.branches?.isSome := by
    rcases Node.branches?_of_outline outlines with
      ⟨held, heldToo⟩ | ⟨branches, branchesToo, held, heldToo, _⟩
    · rw [held, heldToo]
    · rw [held, heldToo, Option.isSome_some, Option.isSome_some]
  rw [restingEnd_eq, restingEnd_eq, empty, condition]
  split <;> rfl

end Setup.Likewise

/-!
## Whole runs
-/

theorem Walks.parallel
    {one : Setup ε} {two : Setup δ} (likewise : one.Likewise two)
    (quiet : ∀ step, two.observer step = .proceed) {position : Position} {run : Run ε}
    (walks : Walks one position run) (tick : Nat) :
    run.Parallel (two.walkFrom { position with tick }) := by
  -- The second run keeps step with the first one; only its clock may be elsewhere.
  induction walks generalizing tick with
  | @revisit position seen =>
      have turned : two.turn { position with tick } = .halt (.failed (.cycleDetected position.id)) :=
        Setup.turn_of_revisit seen
      rw [Setup.walkFrom_of_halt turned]
      exact ⟨rfl, rfl, rfl, rfl⟩
  | @ceiling position fresh reached =>
      rw [likewise.limit] at reached ⊢
      have turned : two.turn { position with tick } =
          .halt (.failed (.stepLimitExceeded position.id two.limit)) :=
        Setup.turn_of_ceiling fresh reached
      rw [Setup.walkFrom_of_halt turned]
      exact ⟨rfl, rfl, rfl, rfl⟩
  | @unknown position fresh below absent =>
      rw [likewise.limit] at below
      have turned : two.turn { position with tick } = .halt (.failed (.nodeNotFound position.id)) :=
        Setup.turn_of_unknown fresh below (likewise.unknown absent)
      rw [Setup.walkFrom_of_halt turned]
      exact ⟨rfl, rfl, rfl, rfl⟩
  | @rest position node enters decided =>
      rcases likewise.enters enters tick with ⟨nodeToo, entersToo, outlines⟩
      rcases likewise.decides (Document.node?_mem enters.found) outlines decided with
        ⟨decisionToo, decidedToo, targets⟩
      rw [Option.map_eq_none_iff.mp targets.symm] at decidedToo
      rw [Setup.walkFrom_of_rest quiet entersToo decidedToo]
      refine ⟨?_, rfl, ?_, likewise.name_restingEnd outlines⟩
      · show [node.id] = [nodeToo.id]
        rw [Node.id_of_outline outlines]
      · rw [Setup.error?_restingEnd, Setup.error?_restingEnd]
  | @onward position node decision run enters decided later ih =>
      rcases likewise.enters enters tick with ⟨nodeToo, entersToo, outlines⟩
      rcases likewise.decides (Document.node?_mem enters.found) outlines decided with
        ⟨decisionToo, decidedToo, targets⟩
      rcases Option.map_eq_some_iff.mp targets.symm with ⟨taken, rfl, target⟩
      rw [Setup.walkFrom_of_onward quiet entersToo decidedToo, target]
      exact Run.Parallel.prepend (ih _) (Node.id_of_outline outlines) (congrArg some target.symm)

theorem Setup.Likewise.run_parallel
    {one : Setup ε} {two : Setup δ} (likewise : one.Likewise two) (plain : one.Plain)
    (plainToo : two.Plain) :
    one.run.Parallel two.run := by
  have starts := likewise.outline.start?
  rcases plain.run_cases with ⟨startless, runs⟩ | ⟨node, starting, walks⟩
  · rw [startless] at starts
    rw [runs, Setup.run, Option.map_eq_none_iff.mp starts.symm]
    exact ⟨rfl, rfl, rfl, rfl⟩
  · rw [starting] at starts
    rcases Option.map_eq_some_iff.mp starts.symm with ⟨nodeToo, startingToo, ids⟩
    have runsToo : two.run = two.walkFrom (.start node.id) := by
      rw [Setup.run, startingToo]
      exact congrArg (fun id => two.walkFrom (.start id)) ids
    rw [runsToo]
    exact walks.parallel likewise plainToo.quiet 0

/-!
## Accounts
-/

structure Trace.SameWay (trace other : Trace) : Prop where
  path : trace.path = other.path
  nexts : trace.steps.map (·.next) = other.steps.map (·.next)
  success : trace.success = other.success
  error : trace.error = other.error
  terminatedBy : trace.summary.terminatedBy = other.summary.terminatedBy

theorem Trace.Tells.sameWay
    {run : Run ε} {other : Run δ} (parallel : run.Parallel other) {trace traceToo : Trace}
    (tells : trace.Tells run) (tellsToo : traceToo.Tells other) :
    trace.SameWay traceToo := by
  have errors : trace.error = traceToo.error := by
    rw [tells.error, tellsToo.error, parallel.error]
  refine ⟨?_, ?_, ?_, errors, ?_⟩
  · rw [Trace.path, Trace.path, tells.steps, tellsToo.steps, parallel.ids]
  · rw [tells.steps, tellsToo.steps, parallel.nexts]
  · rw [Trace.success, Trace.success, errors]
  · rw [tells.terminatedBy, tellsToo.terminatedBy, parallel.name]

/-- A run takes the same way as every run that is set up likewise. Labels, names of branches, what
levels and actions hold, what an editor keeps, and the fields that no condition asks for have no
influence. -/
theorem execute_of_likewise
    {one : Setup ε} {two : Setup δ} (likewise : one.Likewise two) (plain : one.Plain)
    (plainToo : two.Plain) :
    one.Yields fun trace => two.Yields fun other => trace.SameWay other := by
  have parallel := likewise.run_parallel plain plainToo
  apply plain.yields
  intro trace tells
  apply plainToo.yields
  intro other tellsToo
  exact tells.sameWay parallel tellsToo

/-- A node with another label, other contents, and something that an editor keeps. -/
def renamed (node : Node) : Node :=
  { node with
    label := "Renamed"
    body :=
      match node.body with
      | .level .. => .level (some "End") none ["close"]
      | .condition branches => .condition (branches.map fun branch => { branch with name := "grown" })
      | .action _ => .action [⟨"mail", "Welcome", none⟩]
    extras := [("isStart", .bool false)] }

def renamedCrossroads : Document where
  nodes := crossroads.nodes.map renamed
  edges := crossroads.edges
  distinct := by
    rw [List.map_map]
    exact crossroads.distinct

def renamedCrossing : Setup Empty where
  document := renamedCrossroads
  context := [(.text "name", .str "Ada"), (.text "age", .int 20)]
  limit := 3
  clock := fun _ => "2025-06-30T12:00:00"
  observer := silent

theorem execute_of_likewise_renamed :
    crossing.Likewise renamedCrossing ∧ crossing.Plain ∧ renamedCrossing.Plain ∧
      crossing.Yields fun trace => renamedCrossing.Yields fun other => trace.SameWay other := by
  have likewise : crossing.Likewise renamedCrossing := by
    refine ⟨⟨rfl, rfl⟩, ?_, rfl⟩
    rintro field ⟨node, member, text, among, condition, parsed, rfl⟩
    have asked : text = "age >= 18" := by
      have conditions := List.mem_flatMap.mpr ⟨node, member, among⟩
      exact List.mem_singleton.mp conditions
    have read : Condition.parse? "age >= 18" = some ⟨"age", .atLeast, "18"⟩ := rfl
    rw [asked, read] at parsed
    cases parsed
    rfl
  have plain : renamedCrossing.Plain := by
    refine ⟨fun _ => rfl, ?_, by decide⟩
    intro entry member
    rcases List.mem_cons.mp member with rfl | last
    · rfl
    · rw [List.mem_singleton.mp last]
      decide +kernel
  exact ⟨likewise, crossing_plain, plain, execute_of_likewise likewise crossing_plain plain⟩

end Walk
end WorkflowWalk
