import WorkflowWalk.Document.Rejection

/-!
# A document as a graph

Nodes are looked up by id, and edges by either end, always in the order of declaration. An edge may
lead from or to an id that no node has; a strict graph has no such edge.
-/

namespace WorkflowWalk
namespace Document

/-! ## Nodes -/

def node? (document : Document) (id : String) : Option Node :=
  document.nodes.find? (·.id = id)

def hasNode (document : Document) (id : String) : Bool :=
  document.nodes.any (·.id = id)

theorem node?_eq_some_id
    {document : Document} {id : String} {node : Node} (found : document.node? id = some node) :
    node.id = id := by
  simpa using List.find?_some found

theorem node?_mem
    {document : Document} {id : String} {node : Node} (found : document.node? id = some node) :
    node ∈ document.nodes :=
  List.mem_of_find?_eq_some found

theorem mem_nodeIds_of_node?
    {document : Document} {id : String} {node : Node} (found : document.node? id = some node) :
    id ∈ document.nodeIds := by
  rw [← node?_eq_some_id found]
  exact List.mem_map_of_mem (node?_mem found)

/-! ## Nodes that are left -/

def unvisited (document : Document) (visited : List String) : List String :=
  document.nodeIds.filter (!visited.contains ·)

theorem unvisited_cons
    (document : Document) (visited : List String) (id : String) :
    document.unvisited (id :: visited) = (document.unvisited visited).filter (· ≠ id) := by
  simp [unvisited, List.filter_filter]

theorem mem_unvisited
    {document : Document} {visited : List String} {id : String} :
    id ∈ document.unvisited visited ↔ id ∈ document.nodeIds ∧ id ∉ visited := by
  simp [unvisited]

theorem length_unvisited_cons_lt
    (document : Document) {visited : List String} {id : String}
    (known : id ∈ document.nodeIds) (fresh : id ∉ visited) :
    (document.unvisited (id :: visited)).length < (document.unvisited visited).length := by
  rw [unvisited_cons, List.length_filter_lt_length_iff_exists]
  exact ⟨id, mem_unvisited.mpr ⟨known, fresh⟩, by simp⟩

/-! ## Edges -/

def outgoing (document : Document) (id : String) : List Edge :=
  document.edges.filter (·.source = id)

def incoming (document : Document) (id : String) : List Edge :=
  document.edges.filter (·.target = id)

def missingEnds (document : Document) (edge : Edge) : List String :=
  [edge.source, edge.target].filter (!document.hasNode ·)

/-- The edges with an end that is no node, each with that end; an edge may occur twice. -/
def dangling (document : Document) : List (Edge × String) :=
  document.edges.flatMap fun edge => (document.missingEnds edge).map (edge, ·)

/-! ## Strictness -/

/-- Passes a document on if it has no dangling edge, or if that is not asked for. -/
def checkStrict (strict : Bool) (document : Document) : Except Rejection Document :=
  if strict && !document.dangling.isEmpty then .error (.dangling document.dangling)
  else .ok document

def load (strict : Bool) (value : Json) : Except Rejection Document :=
  ofInput value >>= checkStrict strict

def loadText (strict : Bool) (text : String) : Except Rejection Document :=
  ofText text >>= checkStrict strict

end Document
end WorkflowWalk
