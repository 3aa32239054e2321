import WorkflowWalk.Document.Basic
import WorkflowWalk.Number.Numeral

/-!
# Problems of documents

What is wrong with a document, and where. A problem inside a node or an edge is located by the list
it is in, its place there, its id if it has one, and the keys and indices that lead to the place.
-/

namespace WorkflowWalk
namespace Problem

/-! ## Causes -/

inductive Shape
  | levelData
  | conditionData
  | actionData
  | branch
  | actionItem
  | edge
deriving DecidableEq, Repr

def Shape.name : Shape → String
  | .levelData => "LevelData"
  | .conditionData => "ConditionData"
  | .actionData => "ActionData"
  | .branch => "ConditionBranch"
  | .actionItem => "ActionItem"
  | .edge => "WorkflowEdge"

inductive Cause
  | missing
  | notText
  | emptyText
  | notList
  | notObject (shape : Shape)
  | notNode
  | noKind
  | unknownKind (kind : String)
  | duplicateId (id : String)
  | valueWithoutText (fault : Numeral.Fault)
deriving DecidableEq, Repr

def Cause.message : Cause → String
  | .missing => "Field required"
  | .notText => "Input should be a valid string"
  | .emptyText => "String should have at least 1 character"
  | .notList => "Input should be a valid tuple"
  | .notObject shape => "Input should be a valid dictionary or instance of " ++ shape.name
  | .notNode => "Input should be a valid dictionary or object to extract fields from"
  | .noKind => "Unable to extract tag using discriminator 'kind'"
  | .unknownKind kind =>
      "Input tag '" ++ kind ++ "' found using 'kind' does not match any of the expected tags: " ++
        "'level', 'condition', 'action'"
  | .duplicateId id => "Value error, Duplicate node id '" ++ id ++ "'."
  | .valueWithoutText fault => "Value error, " ++ fault.message

/-! ## Places -/

inductive Part
  | key (name : String)
  | index (position : Nat)
deriving DecidableEq, Repr

/-- How a part is written. A key that is spelled like a kind of node is left out. -/
def Part.text? : Part → Option String
  | .key name => if (Kind.named? name).isSome then none else some name
  | .index position => some (toString position)

inductive Collection
  | nodes
  | edges
deriving DecidableEq, Repr

def Collection.name : Collection → String
  | .nodes => "nodes"
  | .edges => "edges"

/-- A place in a document: one of its lists, or a place inside an item of one. -/
inductive Place
  | list (collection : Collection)
  | item (collection : Collection) (position : Nat) (id : Option String) (path : List Part)
deriving DecidableEq, Repr

def itemText (collection : Collection) (position : Nat) (id : Option String) : String :=
  collection.name ++ "[" ++ toString position ++ "]" ++
    match id with
    | some id => " '" ++ id ++ "'"
    | none => ""

def Place.text : Place → String
  | .list collection => collection.name
  | .item collection position id path =>
      String.intercalate "." (itemText collection position id :: path.filterMap Part.text?)

end Problem

structure Problem where
  place : Problem.Place
  cause : Problem.Cause
deriving DecidableEq, Repr

namespace Problem

def text (problem : Problem) : String :=
  problem.place.text ++ ": " ++ problem.cause.message

end Problem
end WorkflowWalk
