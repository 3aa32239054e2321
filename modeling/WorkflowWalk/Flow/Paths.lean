import WorkflowWalk.Choice

/-!
# Paths

All ways that walks could take from an id, as far as they can be extended. A path ends at an id that
no node has, at a node that no edge could be followed out of, or where it comes back to one of its
own ids.
-/

namespace WorkflowWalk

/-- A path. It is cyclic if its last id occurs in it before. -/
structure Path where
  nodeIds : List String
  cyclic : Bool
deriving DecidableEq, Repr

namespace Document

def followableTargets (document : Document) (node : Node) : List String :=
  (document.followable node).map (·.target)

/-! ## All paths -/

mutual

/-- All extensions of a path by an id; `visited` is the path, its last id first. -/
def extensions (document : Document) (visited : List String) (id : String) : List Path :=
  if id ∈ visited then
    [⟨(id :: visited).reverse, true⟩]
  else
    match _found : document.node? id with
    | none => [⟨(id :: visited).reverse, false⟩]
    | some node =>
        match document.followableTargets node with
        | [] => [⟨(id :: visited).reverse, false⟩]
        | first :: rest => extensionsAlong document (id :: visited) (first :: rest)
termination_by ((document.unvisited visited).length, 0)
decreasing_by
  exact Prod.Lex.left _ _
    (document.length_unvisited_cons_lt (mem_nodeIds_of_node? _found) ‹_›)

def extensionsAlong (document : Document) (visited : List String) : List String → List Path
  | [] => []
  | target :: rest =>
      extensions document visited target ++ extensionsAlong document visited rest
termination_by targets => ((document.unvisited visited).length, targets.length)
decreasing_by
  all_goals exact Prod.Lex.right _ (by simp)

end

def allPaths (document : Document) (start : String) : List Path :=
  document.extensions [] start

/-! ## The first paths -/

mutual

/-- The first extensions of a path by an id, at most `room` of them if that is not nought. -/
def firstExtensions (document : Document) (room : Nat) (visited : List String) (id : String) :
    List Path :=
  if id ∈ visited then
    [⟨(id :: visited).reverse, true⟩]
  else
    match _found : document.node? id with
    | none => [⟨(id :: visited).reverse, false⟩]
    | some node =>
        match document.followableTargets node with
        | [] => [⟨(id :: visited).reverse, false⟩]
        | first :: rest => firstAlong document room (id :: visited) (first :: rest)
termination_by ((document.unvisited visited).length, 0)
decreasing_by
  exact Prod.Lex.left _ _
    (document.length_unvisited_cons_lt (mem_nodeIds_of_node? _found) ‹_›)

def firstAlong (document : Document) (room : Nat) (visited : List String) :
    List String → List Path
  | [] => []
  | target :: rest =>
      if room = 0 then
        []
      else
        let found := firstExtensions document room visited target
        found ++ firstAlong document (room - found.length) visited rest
termination_by targets => ((document.unvisited visited).length, targets.length)
decreasing_by
  all_goals exact Prod.Lex.right _ (by simp)

end

/-- The first paths from an id, at most `limit` of them, and whether there are more. -/
def pathsFrom (document : Document) (limit : Nat) (start : String) : List Path × Bool :=
  let found := document.firstExtensions (limit + 1) [] start
  (found.take limit, decide (limit < found.length))

/-- The first paths from an id, else from the start of the document, and whether there are more. A
document without a start has none. -/
def paths (document : Document) (limit : Nat) (start : Option String) : List Path × Bool :=
  match start.or (document.start?.map (·.id)) with
  | some id => document.pathsFrom limit id
  | none => ([], false)

end Document
end WorkflowWalk
