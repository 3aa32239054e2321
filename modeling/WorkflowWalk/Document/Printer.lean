import WorkflowWalk.Document.Basic
import WorkflowWalk.Json.Printer

/-!
# Documents as values

A document is written in canonical form. There are two ways: in full, with null under the key of
whatever is absent, and in the saved form, which leaves such keys out. What an editor keeps with a
node stands behind the fields of its data; numbers in it that are not finite are written as null.
-/

namespace WorkflowWalk
namespace Document

/-! ## Values without special numbers -/

mutual

/-- The value with null for each number that is not finite. -/
def finiteOnly : Json → Json
  | .float value => if value.isFinite then .float value else .null
  | .arr items => .arr (finiteItems items)
  | .obj fields => .obj (finiteFields fields)
  | other => other

def finiteItems : List Json → List Json
  | [] => []
  | item :: rest => finiteOnly item :: finiteItems rest

def finiteFields : List (String × Json) → List (String × Json)
  | [] => []
  | (key, value) :: rest => (key, finiteOnly value) :: finiteFields rest

end

/-! ## Forms -/

/-- Whether absent fields are written as null or left out. -/
inductive Form
  | full
  | saved
deriving DecidableEq, Repr

def isNull : Json → Bool
  | .null => true
  | _ => false

def Form.keep (form : Form) (fields : Fields) : Fields :=
  match form with
  | .full => fields
  | .saved => fields.filter fun field => !isNull field.2

/-! ## Parts -/

def branchJson (branch : Branch) : Json :=
  .obj [("name", .str branch.name), ("condition", .str branch.condition)]

def actionItemJson (form : Form) (item : ActionItem) : Json :=
  .obj (form.keep
    [("type", .str item.type), ("title", .str item.title), ("value", .ofText? item.value)])

def bodyFields (form : Form) : Body → Fields
  | .level name type steps =>
      [("levelName", .ofText? name), ("levelType", .ofText? type), ("steps", .ofTexts steps)]
  | .condition branches => [("branches", .arr (branches.map branchJson))]
  | .action items => [("actions", .arr (items.map (actionItemJson form)))]

def dataFields (form : Form) (node : Node) : Fields :=
  form.keep (("label", .str node.label) :: bodyFields form node.body) ++
    finiteFields (form.keep node.extras)

def nodeJson (form : Form) (node : Node) : Json :=
  .obj [("id", .str node.id), ("kind", .str node.kind.name), ("data", .obj (dataFields form node))]

def edgeJson (form : Form) (edge : Edge) : Json :=
  .obj (form.keep
    [("id", .str edge.id), ("source", .str edge.source), ("target", .str edge.target),
      ("branchTag", .ofText? edge.tag)])

/-! ## Documents -/

def toFields (form : Form) (document : Document) : Fields :=
  [("nodes", .arr (document.nodes.map (nodeJson form))),
    ("edges", .arr (document.edges.map (edgeJson form)))]

def payload (document : Document) : Json :=
  .obj (document.toFields .saved)

end Document
end WorkflowWalk
