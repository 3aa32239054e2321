import WorkflowWalk.Check.Diagnostic
import WorkflowWalk.Document.Canonical
import WorkflowWalk.Document.Graph
import WorkflowWalk.Document.BranchTag

/-!
# Findings

What can be found out about a document before it is run, and the diagnostic for each finding.
-/

namespace WorkflowWalk

inductive Finding
  | normalized (note : Canonical.Note)
  | notObject
  | rejected (error : String)
  | unknownSource (edge : Edge)
  | unknownTarget (edge : Edge)
  | tagMissing (edge : Edge) (node : Node)
  | tagInvalid (edge : Edge) (tag : String) (node : Node) (branches : Nat)
  | tagRepeated (tag : String) (count : Nat) (node : Node)
  | unparsable (branch : Branch) (index : Nat) (node : Node)
  | branchWithoutEdge (branch : Branch) (index : Nat) (node : Node)
  | noOtherwise (node : Node)
  | tagIgnored (edge : Edge) (tag : String) (node : Node)
  | manyOutgoing (node : Node) (count : Nat) (first : Edge)
  | noNodes
  | noStart
  | manyStarts (start : String) (candidates : List String)
  | unreachable (id start : String)
  | cycle (ids : List String)

namespace Finding

/-! ## Places in rejections -/

def untilQuote? (cs : List Char) : Option String :=
  match cs.takeWhile (· ≠ '\'') with
  | [] => none
  | found => some (String.ofList found)

def after? (lead : String) (cs : List Char) : Option (List Char) :=
  if lead.toList.isPrefixOf cs then some (cs.drop lead.length) else none

/-- The id behind the position of a node that an error starts with. -/
def leadingId? (error : String) : Option String := do
  let rest ← after? "nodes[" error.toList
  let digits := rest.takeWhile fun c => (Text.digit? c).isSome
  if digits.isEmpty then
    none
  else
    let rest ← after? "] '" (rest.drop digits.length)
    let id ← untilQuote? rest
    if (rest.drop id.length).isEmpty then none else some id

def duplicateId? : List Char → Option String
  | [] => none
  | c :: rest =>
      match (after? "Duplicate node id '" (c :: rest)).bind untilQuote? with
      | some id => some id
      | none => duplicateId? rest

def nodeOf? (error : String) : Option String :=
  (leadingId? error).or (duplicateId? error.toList)

def placeOf? (error : String) : Option String :=
  let place := error.toList.takeWhile (· ≠ ':')
  if place.length < error.length then some (String.ofList place) else none

/-! ## Places in documents -/

def edgePath (id field : String) : String :=
  "edges['" ++ id ++ "']." ++ field

def branchPath (index : Nat) : String :=
  "data.branches[" ++ toString index ++ "]"

def notePlace : Canonical.Note → Option String × String
  | .kindAlias node => (node, "type")
  | .kindCase _ node => (node, "kind")
  | .edgeId id => (none, edgePath id "id")
  | .tagAlias _ edge => (none, edgePath edge "branchTag")

/-! ## Diagnostics -/

def diagnostic : Finding → Diagnostic
  | .normalized note =>
      { code := note.code
        severity := .info
        message := note.message
        nodeId := (notePlace note).1
        path := some (notePlace note).2
        hint := none }
  | .notObject =>
      { code := "SCHEMA_VALIDATION_FAILED"
        severity := .error
        message := "Workflow document must be an object with 'nodes' and 'edges'."
        nodeId := none
        path := none
        hint := none }
  | .rejected error =>
      { code := "SCHEMA_VALIDATION_FAILED"
        severity := .error
        message := error
        nodeId := nodeOf? error
        path := placeOf? error
        hint := some "Fix schema issues before execution." }
  | .unknownSource edge =>
      { code := "EDGE_UNKNOWN_SOURCE"
        severity := .error
        message := "Edge '" ++ edge.id ++ "' starts at unknown node '" ++ edge.source ++ "'."
        nodeId := none
        path := some (edgePath edge.id "source")
        hint := some "Remove the edge or add the missing node." }
  | .unknownTarget edge =>
      { code := "EDGE_UNKNOWN_TARGET"
        severity := .error
        message := "Edge '" ++ edge.id ++ "' points to unknown node '" ++ edge.target ++ "'."
        nodeId := none
        path := some (edgePath edge.id "target")
        hint := some "Runs that follow this edge fail with NODE_NOT_FOUND." }
  | .tagMissing edge node =>
      { code := "EDGE_BRANCH_TAG_MISSING"
        severity := .warning
        message :=
          "Edge '" ++ edge.id ++ "' leaves condition node '" ++ node.id ++
            "' without a branch tag and is never followed."
        nodeId := some node.id
        path := some (edgePath edge.id "branchTag")
        hint := some "Tag it 'branch-<index>' or 'else'." }
  | .tagInvalid edge tag node branches =>
      { code := "EDGE_BRANCH_TAG_INVALID"
        severity := .error
        message :=
          "Edge '" ++ edge.id ++ "' has branch tag '" ++ tag ++ "' which matches no branch of '" ++
            node.id ++ "'."
        nodeId := some node.id
        path := some (edgePath edge.id "branchTag")
        hint :=
          some ("Use 'else' or 'branch-0' .. '" ++ BranchTag.branch (branches - 1 : Nat) ++ "'.") }
  | .tagRepeated tag count node =>
      { code := "EDGE_DUPLICATE_BRANCH_TAG"
        severity := .warning
        message :=
          "Condition node '" ++ node.id ++ "' has " ++ toString count ++ " edges tagged '" ++ tag ++
            "'; the first one wins."
        nodeId := some node.id
        path := none
        hint := none }
  | .unparsable branch index node =>
      { code := "CONDITION_UNPARSABLE"
        severity := .warning
        message :=
          "Branch '" ++ branch.name ++ "' condition '" ++ branch.condition ++
            "' cannot be parsed and always evaluates false."
        nodeId := some node.id
        path := some (branchPath index ++ ".condition")
        hint :=
          some ("Use '<field> equals <value>' or '<field> <op> <value>' " ++
            "with op in >=, <=, >, <, ==, !=.") }
  | .branchWithoutEdge branch index node =>
      { code := "BRANCH_WITHOUT_EDGE"
        severity := .warning
        message :=
          "Branch '" ++ branch.name ++ "' of '" ++ node.id ++ "' has no '" ++
            BranchTag.branch index ++
            "' edge; when it matches, evaluation continues with the next branch."
        nodeId := some node.id
        path := some (branchPath index)
        hint := none }
  | .noOtherwise node =>
      { code := "CONDITION_NO_ELSE"
        severity := .info
        message :=
          "Condition node '" ++ node.id ++
            "' has no else edge; runs end there when no branch matches."
        nodeId := some node.id
        path := none
        hint := none }
  | .tagIgnored edge tag node =>
      { code := "EDGE_TAG_IGNORED"
        severity := .info
        message :=
          "Branch tag '" ++ tag ++ "' on edge '" ++ edge.id ++ "' is ignored for " ++
            node.kind.name ++ " nodes."
        nodeId := some node.id
        path := some (edgePath edge.id "branchTag")
        hint := none }
  | .manyOutgoing node count first =>
      { code := "NODE_MULTIPLE_OUTGOING"
        severity := .warning
        message :=
          "Node '" ++ node.id ++ "' has " ++ toString count ++
            " outgoing edges; only the first ('" ++ first.id ++ "') is ever followed."
        nodeId := some node.id
        path := none
        hint := some "Use a condition node to branch." }
  | .noNodes =>
      { code := "NO_START_NODE"
        severity := .error
        message := "Workflow has no nodes."
        nodeId := none
        path := some "nodes"
        hint := some "Add at least one level, condition or action node." }
  | .noStart =>
      { code := "NO_START_NODE"
        severity := .error
        message := "Every node has an incoming edge, so there is no start node."
        nodeId := none
        path := none
        hint := some "Remove the edge that points back into the first step." }
  | .manyStarts start candidates =>
      { code := "MULTIPLE_START_NODES"
        severity := .warning
        message :=
          "Nodes without incoming edges: " ++ String.intercalate ", " candidates ++
            ". Runs start at '" ++ start ++ "' (first in declaration order)."
        nodeId := some start
        path := none
        hint := some "Connect or remove the extra entry nodes." }
  | .unreachable id start =>
      { code := "CFG_UNREACHABLE_NODE"
        severity := .warning
        message := "Node '" ++ id ++ "' is not reachable from start node '" ++ start ++ "'."
        nodeId := some id
        path := none
        hint := some "Remove it or connect it with a valid edge." }
  | .cycle ids =>
      { code := "CFG_LOOP_DETECTED"
        severity := .warning
        message := "Workflow contains a cycle: " ++ String.intercalate " -> " ids ++ "."
        nodeId := ids.head?
        path := none
        hint := some "Runs that reach this cycle fail with CYCLE_DETECTED." }

def severity (finding : Finding) : Severity :=
  finding.diagnostic.severity

end Finding
end WorkflowWalk
