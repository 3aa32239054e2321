import WorkflowWalk.Check.Finding
import WorkflowWalk.Condition.Parser

/-!
# Checking edges

Findings about edges: those with an end that is no node, and those that no walk can follow. An edge
that leaves a condition needs a tag of one of its branches or of the other case, and only the first
edge with a tag counts. Any other node is left by its first edge, whatever its tag.
-/

namespace WorkflowWalk
namespace Check

/-! ## Ends of edges -/

def endFindings (document : Document) (edge : Edge) : List Finding :=
  (if document.hasNode edge.source then [] else [.unknownSource edge]) ++
    if document.hasNode edge.target then [] else [.unknownTarget edge]

/-! ## Edges of conditions -/

def tag? (edge : Edge) : Option String :=
  edge.tag.filter (· ≠ "")

def namesNoBranch (branches : Nat) (index : Option Nat) : Bool :=
  !index.any (· < branches)

/-- Findings about the tag of an edge that leaves a condition with a number of branches. A tag with
too many digits is a fault. -/
def tagFindings (node : Node) (branches : Nat) (edge : Edge) :
    Except Numeral.Fault (List Finding) :=
  match tag? edge with
  | none => .ok [.tagMissing edge node]
  | some tag =>
      (fun index =>
        if tag ≠ BranchTag.otherwise ∧ namesNoBranch branches index = true then
          [.tagInvalid edge tag node branches]
        else
          []) <$> BranchTag.index? tag

def distinct (texts : List String) : List String :=
  texts.foldl (fun seen text => if seen.contains text then seen else seen ++ [text]) []

def repeatFindings (node : Node) (tags : List String) : List Finding :=
  (distinct tags).filterMap fun tag =>
    if 1 < tags.count tag then some (.tagRepeated tag (tags.count tag) node) else none

def branchFindings (node : Node) (tags : List String) (index : Nat) (branch : Branch) :
    List Finding :=
  (if (Condition.parse? branch.condition).isNone then [.unparsable branch index node] else []) ++
    if tags.contains (BranchTag.branch index) then [] else [.branchWithoutEdge branch index node]

def conditionFindings (document : Document) (node : Node) (branches : List Branch) :
    Except Numeral.Fault (List Finding) :=
  let edges := document.outgoing node.id
  let tags := edges.filterMap tag?
  (fun perEdge =>
    perEdge.flatten ++ repeatFindings node tags ++
      (branches.mapIdx (branchFindings node tags)).flatten ++
      if tags.contains BranchTag.otherwise then [] else [.noOtherwise node]) <$>
    edges.mapM (tagFindings node branches.length)

/-! ## Edges of other nodes -/

/-- Findings about the edges of a node that is left by its first edge. -/
def plainFindings (document : Document) (node : Node) : List Finding :=
  let edges := document.outgoing node.id
  let ignored := edges.filterMap fun edge =>
    (tag? edge).map fun tag => .tagIgnored edge tag node
  match edges with
  | first :: _ :: _ => ignored ++ [.manyOutgoing node edges.length first]
  | _ => ignored

/-! ## All edges -/

def nodeFindings (document : Document) (node : Node) : Except Numeral.Fault (List Finding) :=
  match node.branches? with
  | some branches => conditionFindings document node branches
  | none => .ok (plainFindings document node)

def edgeFindings (document : Document) : Except Numeral.Fault (List Finding) :=
  (fun perNode => document.edges.flatMap (endFindings document) ++ perNode.flatten) <$>
    document.nodes.mapM (nodeFindings document)

end Check
end WorkflowWalk
