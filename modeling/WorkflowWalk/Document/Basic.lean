import WorkflowWalk.Json.Value

/-!
# Workflow documents

A document lists nodes and edges. A node is a level with steps, a condition with branches, or an
action with items. An edge leads from one node to another and may carry a branch tag; either end may
be an id that no node has.

Ids are never empty, and no two nodes of a document have the same id.
-/

namespace WorkflowWalk

/-! ## Kinds of nodes -/

inductive Kind
  | level
  | condition
  | action
deriving DecidableEq, Repr

namespace Kind

def name : Kind → String
  | .level => "level"
  | .condition => "condition"
  | .action => "action"

def all : List Kind :=
  [.level, .condition, .action]

def named? (name : String) : Option Kind :=
  all.find? (·.name = name)

@[simp] theorem named?_name (kind : Kind) :
    named? kind.name = some kind := by
  cases kind <;> simp [named?, all, name]

end Kind

/-! ## Nodes -/

structure Branch where
  name : String
  condition : String
deriving DecidableEq, Repr

structure ActionItem where
  type : String
  title : String
  value : Option String
deriving DecidableEq, Repr

inductive Body
  | level (name type : Option String) (steps : List String)
  | condition (branches : List Branch)
  | action (items : List ActionItem)
deriving DecidableEq, Repr

/-- A node. What else an editor keeps with it is carried along and never read. -/
structure Node where
  id : String
  label : String
  body : Body
  extras : Fields
  id_ne : id ≠ ""

namespace Node

def kind (node : Node) : Kind :=
  match node.body with
  | .level .. => .level
  | .condition _ => .condition
  | .action _ => .action

def branches? (node : Node) : Option (List Branch) :=
  match node.body with
  | .condition branches => some branches
  | _ => none

/-- What a node is called: its label, or its id if the label is empty. -/
def title (node : Node) : String :=
  if node.label = "" then node.id else node.label

end Node

/-! ## Edges -/

structure Edge where
  id : String
  source : String
  target : String
  tag : Option String
  id_ne : id ≠ ""
  source_ne : source ≠ ""
  target_ne : target ≠ ""
deriving DecidableEq, Repr

/-! ## Documents -/

structure Document where
  nodes : List Node
  edges : List Edge
  distinct : (nodes.map Node.id).Nodup

namespace Document

def nodeIds (document : Document) : List String :=
  document.nodes.map Node.id

end Document
end WorkflowWalk
