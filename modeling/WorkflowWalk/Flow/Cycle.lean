import WorkflowWalk.Flow.Links

/-!
# Cycles

The search for a cycle follows the links in depth from each id in turn. It keeps the way it has come
by, each id on it with the targets that are still to be looked at. A target on the way closes a
cycle. A target that has been left for good, or that has no entry, is passed over.
-/

namespace WorkflowWalk
namespace Links

/-- An id on the way, and its targets that are still to be looked at. -/
abbrev Frame := String × List String

def wayIds (way : List Frame) : List String :=
  way.map Prod.fst

def remaining : List Frame → Nat
  | [] => 0
  | frame :: below => frame.2.length + 1 + remaining below

def targets? (links : Links) (id : String) : Option (List String) :=
  links.lookup id

theorem mem_sources_of_targets?
    {links : Links} {id : String} {targets : List String}
    (found : links.targets? id = some targets) :
    id ∈ links.sources := by
  induction links with
  | nil =>
      simp [targets?] at found
  | cons first rest ih =>
      obtain ⟨source, firstTargets⟩ := first
      by_cases same : id = source
      · simp [sources, same]
      · have differs : (id == source) = false := by simpa using same
        simp only [targets?, List.lookup_cons, differs] at found
        have member := ih found
        simp only [sources, List.map_cons, List.mem_cons] at member ⊢
        exact .inr member

/-- The cycle that a target on the way closes; the way has its last id first. -/
def closeCycle (way : List String) (target : String) : List String :=
  target :: (way.takeWhile (· ≠ target)).reverse ++ [target]

/-- Searches on. `fresh` holds the entries of the ids that have not been met, and `roots` the ids
from which the search has still to start. -/
def searchCycle (fresh : Links) (roots : List String) (way : List Frame) : Option (List String) :=
  match way with
  | [] =>
      match roots with
      | [] => none
      | root :: rest =>
          match _found : fresh.targets? root with
          | some targets => searchCycle (fresh.without root) rest [(root, targets)]
          | none => searchCycle fresh rest []
  | (_, []) :: below => searchCycle fresh roots below
  | (id, target :: targets) :: below =>
      if (id :: wayIds below).contains target then
        some (closeCycle (id :: wayIds below) target)
      else
        match _found : fresh.targets? target with
        | some next =>
            searchCycle (fresh.without target) roots ((target, next) :: (id, targets) :: below)
        | none => searchCycle fresh roots ((id, targets) :: below)
termination_by (fresh.length, roots.length + remaining way)
decreasing_by
  · exact Prod.Lex.left _ _ (length_without_lt (mem_sources_of_targets? _found))
  · exact Prod.Lex.right _ (by simp)
  · exact Prod.Lex.right _ (by simp [remaining])
  · exact Prod.Lex.left _ _ (length_without_lt (mem_sources_of_targets? _found))
  · exact Prod.Lex.right _ (by simp [remaining])

/-- The first cycle that is found from the ids in their order. Its first id is repeated at its
end. -/
def findCycle (links : Links) (order : List String) : Option (List String) :=
  searchCycle links order []

end Links
end WorkflowWalk
