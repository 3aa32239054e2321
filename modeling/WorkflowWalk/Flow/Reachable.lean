import WorkflowWalk.Document.Graph
import WorkflowWalk.Flow.Links
import WorkflowWalk.Text.Order

/-!
# What can be reached

The ids that can be reached from an id along links, by a search that looks at every id once. Once an
id has been looked at its entries are put aside, so the search ends when no entries and no pending
ids are left.
-/

namespace WorkflowWalk
namespace Links

/-! ## The search -/

/-- Adds to the ids found all that can be reached from the pending ones by entries that are left. -/
def explore (links : Links) (found : List String) : List String → List String
  | [] => found
  | id :: pending =>
      if id ∈ found then
        explore links found pending
      else
        explore (links.without id) (id :: found) (links.successors id ++ pending)
termination_by pending => (links.length, pending.length)
decreasing_by
  · exact Prod.Lex.right _ (by simp)
  · by_cases member : id ∈ links.sources
    · exact Prod.Lex.left _ _ (length_without_lt member)
    · rw [without_eq_self member, successors_eq_nil member]
      exact Prod.Lex.right _ (by simp)

def reachable (links : Links) (start : String) : List String :=
  Text.sorted (explore links [] [start])

end Links

/-! ## Along all edges -/

namespace Document

/-- The links that the edges are, whatever their tags. -/
def edgeLinks (document : Document) : Links :=
  document.edges.map fun edge => (edge.source, [edge.target])

def isBefore (document : Document) (first second : String) : Bool :=
  (document.edgeLinks.reachable first).contains second

end Document
end WorkflowWalk
