import WorkflowWalk.Document.BranchTag
import WorkflowWalk.Document.Graph

/-!
# Templates

A template is a document to start from, with contexts to try it with. Its workflow is written the
way a graphical editor saves it: the kind of a node stands under `type`, and the tag of an edge under
`sourceHandle`. So it is taken in like any other document that comes from outside.
-/

namespace WorkflowWalk

structure Template where
  id : String
  name : String
  description : String
  workflow : Fields
  contexts : List Fields

namespace Template

/-! ## Parts of a workflow -/

def node (kind : Kind) (id : String) (data : Fields) : Json :=
  .obj [("id", .str id), ("type", .str kind.name), ("data", .obj data)]

def levelOf (type id label name : String) (steps : List String) : Json :=
  node .level id
    [("label", .str label), ("levelName", .str name), ("levelType", .str type),
      ("steps", .ofTexts steps)]

def level (id label name : String) (steps : List String) : Json :=
  levelOf "Individuals" id label name steps

def condition (id label : String) (branches : List (String × String)) : Json :=
  node .condition id
    [("label", .str label),
      ("branches", .arr (branches.map fun (name, condition) =>
        .obj [("name", .str name), ("condition", .str condition)]))]

def action (id label : String) (items : List (String × String × String)) : Json :=
  node .action id
    [("label", .str label),
      ("actions", .arr (items.map fun (type, title, value) =>
        .obj [("type", .str type), ("title", .str title), ("value", .str value)]))]

def edge (source target : String) : Json :=
  .obj [("source", .str source), ("target", .str target)]

def taggedEdge (source target tag : String) : Json :=
  .obj [("source", .str source), ("target", .str target), ("sourceHandle", .str tag)]

def branchEdge (source target : String) (index : Nat) : Json :=
  taggedEdge source target (BranchTag.branch index)

def otherwiseEdge (source target : String) : Json :=
  taggedEdge source target BranchTag.otherwise

def workflowOf (nodes edges : List Json) : Fields :=
  [("nodes", .arr nodes), ("edges", .arr edges)]

/-! ## Use -/

def load (template : Template) (strict : Bool) : Except Rejection Document :=
  Document.load strict (.obj template.workflow)

def firstContext (template : Template) : Fields :=
  template.contexts.headD []

end Template
end WorkflowWalk
