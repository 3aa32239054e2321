import WorkflowWalk.Check.Flow
import WorkflowWalk.Proofs.Document.Graph
import WorkflowWalk.Proofs.Flow.Cycle
import WorkflowWalk.Proofs.Flow.Reachable

/-!
# What the flow says

The links of the flow are exactly the targets that can be followed out of each node, and what is
found about the flow says which ids these links lead to.
-/

namespace WorkflowWalk

namespace Document

variable {document : Document}

/-!
## The links
-/

theorem sources_followableLinks (document : Document) :
    document.followableLinks.sources = document.nodeIds := by
  rw [Links.sources, followableLinks, List.map_map]
  rfl

theorem leads_followableLinks
    {id target : String} :
    document.followableLinks.Leads id target ↔
      ∃ node, document.node? id = some node ∧ target ∈ document.followableTargets node := by
  rw [Links.Leads, Links.mem_successors]
  constructor
  · rintro ⟨targets, entry, among⟩
    rcases List.mem_map.mp entry with ⟨node, member, same⟩
    rcases Prod.mk.inj same with ⟨rfl, rfl⟩
    exact ⟨node, node?_of_mem member, among⟩
  · rintro ⟨node, found, among⟩
    refine ⟨document.followableTargets node, ?_, among⟩
    rw [← node?_eq_some_id found]
    exact List.mem_map.mpr ⟨node, node?_mem found, rfl⟩

theorem targets?_of_nodes (nodes : List Node) (leads : Node → List String) (id : String) :
    Links.targets? (nodes.map fun node => (node.id, leads node)) id =
      (nodes.find? (·.id = id)).map leads := by
  induction nodes with
  | nil =>
      rfl
  | cons node rest ih =>
      rw [List.map_cons, Links.targets?_cons, ih, List.find?_cons]
      by_cases same : node.id = id
      · simp [same]
      · simp [same, Ne.symm same]

theorem targets?_followableLinks (id : String) :
    document.followableLinks.targets? id =
      (document.node? id).map document.followableTargets :=
  targets?_of_nodes document.nodes document.followableTargets id

/-!
## Start and reach
-/

theorem flow_start (document : Document) :
    document.flow.start = document.start?.map (·.id) := by
  rw [flow, start?, List.head?_map]

theorem mem_flow_reachable
    {start : Node} (starts : document.start? = some start) {id : String} :
    id ∈ document.flow.reachable ↔ document.followableLinks.Reaches start.id id := by
  have first : (document.startCandidates.map (·.id)).head? = some start.id := by
    rw [List.head?_map]
    exact congrArg (Option.map (·.id)) starts
  rw [flow]
  simp only [first, Option.elim_some]
  exact Links.mem_reachable

/-!
## Cycles
-/

theorem isCycle_of_flow
    {ids : List String} (found : document.flow.cycle = some ids) :
    document.followableLinks.IsCycle ids :=
  Links.isCycle_of_findCycle found

theorem acyclic_of_flow
    (nothing : document.flow.cycle = none) :
    document.followableLinks.Acyclic := by
  apply Links.acyclic_of_findCycle _ nothing
  intro id member
  rw [← sources_followableLinks]
  exact member

end Document

/-!
## What is found
-/

namespace Check

open Document

theorem mem_unreachableFindings
    {document : Document} {finding : Finding}
    (member : finding ∈ unreachableFindings document document.flow) :
    ∃ id start, finding = .unreachable id start ∧ id ∉ document.flow.reachable := by
  unfold unreachableFindings at member
  split at member
  · cases member
  · rename_i start _
    rcases List.mem_map.mp member with ⟨id, among, rfl⟩
    refine ⟨id, start, rfl, ?_⟩
    simpa using (List.mem_filter.mp among).2

theorem code_of_mem_startFindings
    {document : Document} {flow : Flow} {finding : Finding}
    (member : finding ∈ startFindings document flow) :
    finding.diagnostic.code = "NO_START_NODE" ∨
      finding.diagnostic.code = "MULTIPLE_START_NODES" := by
  unfold startFindings at member
  split at member
  · rw [List.mem_singleton.mp member]
    exact Or.inl rfl
  · rw [List.mem_singleton.mp member]
    exact Or.inl rfl
  · cases member
  · rw [List.mem_singleton.mp member]
    exact Or.inr rfl

theorem not_mem_reachable_of_reported
    {document : Document} {finding : Finding}
    (member : finding ∈ flowFindings document document.flow)
    (code : finding.diagnostic.code = "CFG_UNREACHABLE_NODE") {id : String}
    (reported : finding.diagnostic.nodeId = some id) :
    id ∉ document.flow.reachable := by
  rcases List.mem_append.mp member with earlier | aboutCycle
  · rcases List.mem_append.mp earlier with aboutStart | aboutReach
    · rcases code_of_mem_startFindings aboutStart with other | other
      · rw [other] at code
        simp at code
      · rw [other] at code
        simp at code
    · rcases mem_unreachableFindings aboutReach with ⟨missed, start, rfl, unreached⟩
      cases reported
      exact unreached
  · rw [Option.mem_toList] at aboutCycle
    rcases Option.map_eq_some_iff.mp aboutCycle with ⟨ids, _, rfl⟩
    simp [Finding.diagnostic] at code

theorem cycle_mem_flowFindings
    {document : Document} {ids : List String} :
    .cycle ids ∈ flowFindings document document.flow ↔ document.flow.cycle = some ids := by
  constructor
  · intro member
    rcases List.mem_append.mp member with earlier | aboutCycle
    · rcases List.mem_append.mp earlier with aboutStart | aboutReach
      · rcases code_of_mem_startFindings aboutStart with other | other
        · simp [Finding.diagnostic] at other
        · simp [Finding.diagnostic] at other
      · rcases mem_unreachableFindings aboutReach with ⟨_, _, other, _⟩
        cases other
    · rw [Option.mem_toList] at aboutCycle
      rcases Option.map_eq_some_iff.mp aboutCycle with ⟨found, cycle, same⟩
      cases same
      exact cycle
  · intro cycle
    apply List.mem_append_right
    rw [Option.mem_toList, Option.map_eq_some_iff]
    exact ⟨ids, cycle, rfl⟩

end Check
end WorkflowWalk
