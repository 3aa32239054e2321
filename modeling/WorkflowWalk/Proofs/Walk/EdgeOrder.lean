import WorkflowWalk.Check.Flow
import WorkflowWalk.Proofs.Flow.Paths
import WorkflowWalk.Proofs.Walk.Rules

/-!
# The order of edges

Edges may be put in another order. As long as the edges out of a level or an action stay in order,
and the edges out of a condition that have one tag, the same edges are found everywhere, so nothing
changes in the walks, the paths and the flow.
-/

namespace WorkflowWalk
namespace Document

/-- The edges of a document are put in another order. Those that leave one level or action keep
their order, and so do those that leave one condition with one tag. -/
structure Rearranges (one two : Document) : Prop where
  nodes : one.nodes = two.nodes
  edges : one.edges.Perm two.edges
  plain : ∀ node ∈ one.nodes, node.branches? = none → one.outgoing node.id = two.outgoing node.id
  tagged : ∀ node ∈ one.nodes, ∀ branches, node.branches? = some branches → ∀ tag : String,
    (one.outgoing node.id).filter (·.tag = some tag) =
      (two.outgoing node.id).filter (·.tag = some tag)

theorem tagged?_of_filter
    {edges others : List Edge} {tag : String}
    (same : edges.filter (·.tag = some tag) = others.filter (·.tag = some tag)) :
    tagged? edges tag = tagged? others tag := by
  rw [tagged?, tagged?, ← List.head?_filter, ← List.head?_filter, same]

end Document

theorem Decision.amongBranches_of_tagged?
    {edges others : List Edge} (same : ∀ tag, Document.tagged? edges tag = Document.tagged? others tag)
    (context : Context) (index : Nat) (branches : List Branch) :
    amongBranches edges context index branches = amongBranches others context index branches := by
  induction branches generalizing index with
  | nil =>
      rw [amongBranches, amongBranches, ofOtherwise, ofOtherwise, same]
  | cons branch rest ih =>
      rw [amongBranches, amongBranches, same, ih]

namespace Document.Rearranges

variable {one two : Document}

/-!
## What is found among the edges
-/

theorem node? (rearranged : one.Rearranges two) (id : String) :
    one.node? id = two.node? id := by
  rw [Document.node?, Document.node?, rearranged.nodes]

theorem outgoing_perm (rearranged : one.Rearranges two) (id : String) :
    (one.outgoing id).Perm (two.outgoing id) :=
  rearranged.edges.filter _

theorem startCandidates (rearranged : one.Rearranges two) :
    one.startCandidates = two.startCandidates := by
  rw [Document.startCandidates, Document.startCandidates, rearranged.nodes]
  apply List.filter_congr
  intro node _
  rw [rearranged.edges.any_eq]

theorem start? (rearranged : one.Rearranges two) :
    one.start? = two.start? := by
  rw [Document.start?, Document.start?, rearranged.startCandidates]

theorem tagged?
    (rearranged : one.Rearranges two) {node : Node} (member : node ∈ one.nodes)
    {branches : List Branch} (held : node.branches? = some branches) (tag : String) :
    tagged? (one.outgoing node.id) tag = tagged? (two.outgoing node.id) tag :=
  tagged?_of_filter (rearranged.tagged node member branches held tag)

theorem followable
    (rearranged : one.Rearranges two) {node : Node} (member : node ∈ one.nodes) :
    one.followable node = two.followable node := by
  rw [Document.followable, Document.followable]
  cases held : node.branches? with
  | none =>
      show (one.outgoing node.id).take 1 = (two.outgoing node.id).take 1
      rw [rearranged.plain node member held]
  | some branches =>
      have same : Document.tagged? (one.outgoing node.id) = Document.tagged? (two.outgoing node.id) :=
        funext (rearranged.tagged? member held)
      show (usableTags branches.length).filterMap (Document.tagged? (one.outgoing node.id)) =
        (usableTags branches.length).filterMap (Document.tagged? (two.outgoing node.id))
      rw [same]

theorem followableTargets
    (rearranged : one.Rearranges two) {node : Node} (member : node ∈ one.nodes) :
    one.followableTargets node = two.followableTargets node := by
  rw [Document.followableTargets, Document.followableTargets, rearranged.followable member]

theorem resolve
    (rearranged : one.Rearranges two) (context : Context) {node : Node}
    (member : node ∈ one.nodes) :
    Decision.resolve one context node = Decision.resolve two context node := by
  rw [Decision.resolve, Decision.resolve]
  cases held : node.branches? with
  | none =>
      rw [rearranged.plain node member held]
  | some branches =>
      exact Decision.amongBranches_of_tagged? (rearranged.tagged? member held) context 0 branches

/-!
## Paths and flow
-/

theorem extensions
    (rearranged : one.Rearranges two) (visited : List String) (id : String) :
    one.extensions visited id = two.extensions visited id := by
  -- The induction is on the ids that are left to be visited.
  induction left : (one.unvisited visited).length using Nat.strongRecOn generalizing visited id with
  | ind size ih =>
      by_cases seen : id ∈ visited
      · rw [extensions_of_revisit seen, extensions_of_revisit seen]
      cases found : one.node? id with
      | none =>
          have foundToo := (rearranged.node? id).symm.trans found
          rw [extensions_of_unknown seen found, extensions_of_unknown seen foundToo]
      | some node =>
          have foundToo := (rearranged.node? id).symm.trans found
          have fewer := one.length_unvisited_cons_lt (mem_nodeIds_of_node? found) seen
          rw [left] at fewer
          have later : one.extensions (id :: visited) = two.extensions (id :: visited) := by
            funext target
            exact ih _ fewer (id :: visited) target rfl
          rw [extensions_of_known seen found, extensions_of_known seen foundToo,
            rearranged.followableTargets (node?_mem found), later]

theorem paths
    (rearranged : one.Rearranges two) (limit : Nat) (start : Option String) :
    one.paths limit start = two.paths limit start := by
  rw [Document.paths, Document.paths, rearranged.start?]
  split
  · rw [pathsFrom_eq, pathsFrom_eq, allPaths, allPaths, rearranged.extensions]
  · rfl

theorem followableLinks (rearranged : one.Rearranges two) :
    one.followableLinks = two.followableLinks := by
  rw [Document.followableLinks, Document.followableLinks, ← rearranged.nodes]
  apply List.map_congr_left
  intro node member
  rw [rearranged.followableTargets member]

theorem flow (rearranged : one.Rearranges two) :
    one.flow = two.flow := by
  rw [Document.flow, Document.flow, rearranged.followableLinks, rearranged.startCandidates,
    nodeIds, nodeIds, rearranged.nodes]

end Document.Rearranges

/-!
## Walks
-/

namespace Walk

open Document

variable {ε : Type}

theorem Setup.walkFrom_of_turn
    {setup other : Setup ε} (same : ∀ position, setup.turn position = other.turn position)
    (position : Position) :
    setup.walkFrom position = other.walkFrom position := by
  induction left : (setup.document.unvisited position.visited).length using Nat.strongRecOn
    generalizing position with
  | ind size ih =>
      cases turned : setup.turn position with
      | halt ending =>
          rw [walkFrom_of_halt turned, walkFrom_of_halt ((same position).symm.trans turned)]
      | finish step ending =>
          rw [walkFrom_of_finish turned, walkFrom_of_finish ((same position).symm.trans turned)]
      | proceed step next =>
          have fewer := length_unvisited_lt_of_turn turned
          rw [left] at fewer
          rw [walkFrom_of_proceed turned, walkFrom_of_proceed ((same position).symm.trans turned),
            ih _ fewer next rfl]

def Setup.over (setup : Setup ε) (document : Document) : Setup ε :=
  { setup with document }

section Rearranged

variable {one two : Document}

theorem Setup.restingEnd_of_rearranges
    (rearranged : one.Rearranges two) (setup : Setup ε) (node : Node) :
    (setup.over one).restingEnd node = (setup.over two).restingEnd node := by
  have empty : ((setup.over one).document.outgoing node.id).isEmpty =
      ((setup.over two).document.outgoing node.id).isEmpty :=
    (rearranged.outgoing_perm node.id).isEmpty_eq
  rw [restingEnd_eq, restingEnd_eq, empty]

theorem Setup.leave_of_rearranges
    (rearranged : one.Rearranges two) (setup : Setup ε) (position : Position) (node : Node)
    (decision : Option Decision) :
    (setup.over one).leave position node decision =
      (setup.over two).leave position node decision := by
  unfold leave
  rw [restingEnd_of_rearranges rearranged]
  rfl

theorem Setup.turn_of_rearranges
    (rearranged : one.Rearranges two) (setup : Setup ε) (position : Position) :
    (setup.over one).turn position = (setup.over two).turn position := by
  have lookup : (setup.over two).document.node? position.id = one.node? position.id :=
    (rearranged.node? position.id).symm
  rw [turn, turn, lookup]
  refine ite_congr rfl (fun _ => rfl) fun _ => ite_congr rfl (fun _ => rfl) fun _ => ?_
  cases found : one.node? position.id with
  | none =>
      have absent : (setup.over one).document.node? position.id = none := found
      rw [absent]
  | some node =>
      have present : (setup.over one).document.node? position.id = some node := found
      have same : Decision.resolve (setup.over one).document (setup.over one).context node =
          Decision.resolve (setup.over two).document (setup.over two).context node :=
        rearranged.resolve setup.context (node?_mem found)
      rw [present]
      simp only [same, leave_of_rearranges rearranged]

theorem Setup.execute_of_rearranges
    (rearranged : one.Rearranges two) (setup : Setup ε) :
    (setup.over one).execute = (setup.over two).execute := by
  have runs : (setup.over one).run = (setup.over two).run := by
    have start : (setup.over one).document.start? = (setup.over two).document.start? :=
      rearranged.start?
    rw [run, run, start]
    simp only [walkFrom_of_turn (turn_of_rearranges rearranged setup)]
  rw [execute, execute, runs]
  rfl

/-- Nothing that is said of the ways through a document changes when its edges are put in such an
order, and neither does a run or the account of it. -/
theorem same_of_rearranges (rearranged : one.Rearranges two) :
    one.startCandidates = two.startCandidates ∧
      (∀ node ∈ one.nodes, one.followable node = two.followable node) ∧
      (∀ limit start, one.paths limit start = two.paths limit start) ∧
      one.flow = two.flow ∧
      ∀ (ε : Type) (setup : Setup ε), (setup.over one).execute = (setup.over two).execute := by
  refine ⟨rearranged.startCandidates, ?_, rearranged.paths, rearranged.flow, ?_⟩
  · intro node member
    exact rearranged.followable member
  · intro ε setup
    exact setup.execute_of_rearranges rearranged

end Rearranged

def turnedCrossroads : Document :=
  { crossroads with edges := crossroads.edges.reverse }

theorem same_of_rearranges_crossroads :
    crossroads.Rearranges turnedCrossroads ∧ crossroads.edges ≠ turnedCrossroads.edges ∧
      crossroads.startCandidates = turnedCrossroads.startCandidates ∧
      (∀ node ∈ crossroads.nodes, crossroads.followable node = turnedCrossroads.followable node) ∧
      (∀ limit start, crossroads.paths limit start = turnedCrossroads.paths limit start) ∧
      crossroads.flow = turnedCrossroads.flow ∧
      ∀ (ε : Type) (setup : Setup ε),
        (setup.over crossroads).execute = (setup.over turnedCrossroads).execute := by
  have rearranged : crossroads.Rearranges turnedCrossroads := by
    refine ⟨rfl, (List.reverse_perm _).symm, ?_, ?_⟩
    · intro node member
      rcases List.mem_cons.mp member with rfl | later
      · intro plain
        cases plain
      · rcases List.mem_cons.mp later with rfl | last
        · intro _
          rfl
        · rw [List.mem_singleton.mp last]
          intro _
          rfl
    · intro node member branches held tag
      have check : node.id = "check" := by
        rcases List.mem_cons.mp member with rfl | later
        · rfl
        · rcases List.mem_cons.mp later with rfl | last
          · cases held
          · rw [List.mem_singleton.mp last] at held
            cases held
      have leaving : turnedCrossroads.outgoing "check" = crossroads.edges.reverse := rfl
      rw [check, leaving, List.filter_reverse]
      show crossroads.edges.filter _ = _
      by_cases first : tag = "branch-0"
      · rw [first]
        decide
      by_cases second : tag = "else"
      · rw [second]
        decide
      have unused : crossroads.edges.filter (·.tag = some tag) = [] := by
        simp [crossroads, Ne.symm first, Ne.symm second]
      rw [unused]
      rfl
  exact ⟨rearranged, by decide, same_of_rearranges rearranged⟩

end Walk
end WorkflowWalk
