import WorkflowWalk.Condition.Evaluation
import WorkflowWalk.Document.BranchTag
import WorkflowWalk.Document.Graph

/-!
# Choosing the way

Where a walk starts and which edge it follows. It starts at the first node that no edge leads to. A
level or an action is left by its first edge. A condition is left by the edge of the first branch
whose condition holds and that has an edge; if there is none, by the edge of the other case.
-/

namespace WorkflowWalk
namespace Document

/-! ## The start -/

def startCandidates (document : Document) : List Node :=
  document.nodes.filter fun node => !document.edges.any (·.target = node.id)

def start? (document : Document) : Option Node :=
  document.startCandidates.head?

/-! ## Tagged edges -/

def tagged? (edges : List Edge) (tag : String) : Option Edge :=
  edges.find? (·.tag = some tag)

/-- The tags that edges of a condition with a number of branches can be followed by. -/
def usableTags (branches : Nat) : List String :=
  (List.range branches).map (fun (index : Nat) => BranchTag.branch index) ++ [BranchTag.otherwise]

/-- The edges that some context could make a walk follow out of a node. -/
def followable (document : Document) (node : Node) : List Edge :=
  match node.branches? with
  | none => (document.outgoing node.id).take 1
  | some branches =>
      (usableTags branches.length).filterMap (tagged? (document.outgoing node.id))

end Document

/-! ## Decisions -/

/-- The edge that a walk follows, and for a condition the branch it stands for and the text of the
condition that held. -/
structure Decision where
  edge : Edge
  branch : Option String
  condition : Option String
deriving DecidableEq, Repr

namespace Decision

open Document

def target (decision : Decision) : String :=
  decision.edge.target

def ofOtherwise (edges : List Edge) : Option Decision :=
  (tagged? edges BranchTag.otherwise).map fun edge => ⟨edge, some BranchTag.otherwise, none⟩

/-- The decision among branches of which the first has the index `index`. -/
def amongBranches (edges : List Edge) (context : Context) (index : Nat) :
    List Branch → Except Numeral.Fault (Option Decision)
  | [] => .ok (ofOtherwise edges)
  | branch :: rest => do
      let holds ← Condition.holds (Condition.parse? branch.condition) context
      match holds, tagged? edges (BranchTag.branch index) with
      | true, some edge => return some ⟨edge, some branch.name, some branch.condition⟩
      | _, _ => amongBranches edges context (index + 1) rest

def resolve (document : Document) (context : Context) (node : Node) :
    Except Numeral.Fault (Option Decision) :=
  let edges := document.outgoing node.id
  match node.branches? with
  | none => .ok (edges.head?.map fun edge => ⟨edge, none, none⟩)
  | some branches => amongBranches edges context 0 branches

end Decision

/-! ## Notices -/

namespace Notice

open Document

def ofChoice (level : Level) (text : String) : Notice :=
  { topic := .choice, level, text }

def ofStart (document : Document) : List Notice :=
  match document.startCandidates with
  | first :: second :: rest =>
      let candidates := first :: second :: rest
      [ofChoice .warning
        ("Workflow has " ++ toString candidates.length ++ " nodes without incoming edges (" ++
          String.intercalate ", " (candidates.map (·.id)) ++ "); starting at '" ++ first.id ++
          "'.")]
  | _ => []

def ofBranches (id : String) (edges : List Edge) (context : Context) (index : Nat) :
    List Branch → List Notice
  | [] =>
      if (tagged? edges BranchTag.otherwise).isSome then []
      else
        [ofChoice .warning
          ("Node '" ++ id ++ "': no branch matched and no else edge is defined.")]
  | branch :: rest =>
      ofChoice .debug
          ("Node '" ++ id ++ "' evaluating branch " ++ toString index ++ ": " ++
            branch.condition) ::
        ofEvaluation (.str branch.condition) context ++
          match Condition.holds (Condition.parse? branch.condition) context with
          | .error _ => []
          | .ok false => ofBranches id edges context (index + 1) rest
          | .ok true =>
              let tag := BranchTag.branch index
              match tagged? edges tag with
              | some _ => []
              | none =>
                  ofChoice .warning
                      ("Node '" ++ id ++ "' branch '" ++ branch.name ++ "' matched but has no '" ++
                        tag ++ "' edge; trying the next branch.") ::
                    ofBranches id edges context (index + 1) rest

def ofDecision (document : Document) (context : Context) (node : Node) : List Notice :=
  let edges := document.outgoing node.id
  match node.branches?, edges with
  | some branches, _ => ofBranches node.id edges context 0 branches
  | none, first :: _ :: _ =>
      [ofChoice .warning
        ("Node '" ++ node.id ++ "' has " ++ toString edges.length ++
          " outgoing edges; following the first one ('" ++ first.id ++ "').")]
  | none, _ => []

end Notice
end WorkflowWalk
