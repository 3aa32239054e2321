import WorkflowWalk.Choice

/-!
# Nodes by their ids, the start, and loose ends

No two nodes have one id, so looking a node up by its id gives that node back. An end of an edge is
loose if no node has it as its id; a strict document has no loose ends.
-/

namespace WorkflowWalk
namespace Document

variable {document : Document}

/-!
## Looking nodes up
-/

theorem find?_of_nodup
    {nodes : List Node} (distinct : (nodes.map Node.id).Nodup) {node : Node}
    (member : node ∈ nodes) :
    nodes.find? (·.id = node.id) = some node := by
  induction nodes with
  | nil =>
      cases member
  | cons first rest ih =>
      rw [List.map_cons, List.nodup_cons] at distinct
      rcases List.mem_cons.mp member with rfl | later
      · simp
      · have differs : first.id ≠ node.id := by
          intro same
          exact distinct.1 (same ▸ List.mem_map_of_mem later)
        rw [List.find?_cons_of_neg (by simpa using differs)]
        exact ih distinct.2 later

theorem node?_of_mem
    {node : Node} (member : node ∈ document.nodes) :
    document.node? node.id = some node :=
  find?_of_nodup document.distinct member

theorem mem_nodeIds_iff
    {id : String} :
    id ∈ document.nodeIds ↔ ∃ node, document.node? id = some node := by
  constructor
  · intro member
    rcases List.mem_map.mp member with ⟨node, inNodes, rfl⟩
    exact ⟨node, node?_of_mem inNodes⟩
  · rintro ⟨node, found⟩
    exact mem_nodeIds_of_node? found

theorem hasNode_iff
    {id : String} :
    document.hasNode id = true ↔ id ∈ document.nodeIds := by
  simp [hasNode, nodeIds]

theorem node?_eq_none_iff
    {id : String} :
    document.node? id = none ↔ id ∉ document.nodeIds := by
  rw [mem_nodeIds_iff, not_exists]
  constructor
  · intro absent node found
    rw [absent] at found
    cases found
  · intro absent
    cases found : document.node? id with
    | none =>
        rfl
    | some node =>
        exact absurd found (absent node)

/-!
## The start
-/

theorem mem_of_start?
    {node : Node} (starts : document.start? = some node) :
    node ∈ document.nodes :=
  (List.mem_filter.mp (List.mem_of_head? starts)).1

theorem node?_of_start?
    {node : Node} (starts : document.start? = some node) :
    document.node? node.id = some node :=
  node?_of_mem (mem_of_start? starts)

theorem start?_eq_find? (document : Document) :
    document.start? =
      document.nodes.find? fun node => document.edges.all fun edge => edge.target ≠ node.id := by
  rw [start?, startCandidates, List.head?_filter]
  congr 1
  funext node
  rw [List.not_any_eq_all_not]
  congr 1
  funext edge
  exact (decide_not ..).symm

/-!
## Loose ends
-/

theorem mem_dangling_iff
    {edge : Edge} {missing : String} :
    (edge, missing) ∈ document.dangling ↔
      edge ∈ document.edges ∧ (missing = edge.source ∨ missing = edge.target) ∧
        missing ∉ document.nodeIds := by
  rw [← hasNode_iff]
  simp [dangling, missingEnds]

theorem checkStrict_of_loose
    (loose : document.dangling ≠ []) :
    document.checkStrict true = .error (.dangling document.dangling) := by
  rw [checkStrict, if_pos]
  simpa using loose

theorem checkStrict_of_tight
    (tight : document.dangling = []) (strict : Bool) :
    document.checkStrict strict = .ok document := by
  rw [checkStrict, tight]
  simp

theorem tight_of_checkStrict
    {given : Document} (admitted : given.checkStrict true = .ok document) :
    given = document ∧ document.dangling = [] := by
  by_cases tight : given.dangling = []
  · rw [checkStrict_of_tight tight] at admitted
    cases admitted
    exact ⟨rfl, tight⟩
  · rw [checkStrict_of_loose tight] at admitted
    cases admitted

end Document
end WorkflowWalk
