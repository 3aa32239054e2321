import WorkflowWalk.Document.Reader
import WorkflowWalk.Json.Reader

/-!
# Taking in documents

A document comes as a value or as a JSON text. Whatever cannot be taken in is rejected for a cause,
and the cause says which problems are reported.
-/

namespace WorkflowWalk

inductive Rejection
  | notObject
  | unsupported (kind : String)
  | notJson (error : Json.ReadError)
  | problems (found : List Problem)
  | dangling (ends : List (Edge × String))
  | limit (fault : Numeral.Fault)

namespace Rejection

def danglingText (edge : Edge) (missing : String) : String :=
  "Edge '" ++ edge.id ++ "' references unknown node '" ++ missing ++ "'."

def errors : Rejection → List String
  | .notObject => ["Workflow document must be an object with 'nodes' and 'edges'."]
  | .unsupported kind => ["Unsupported workflow graph type '" ++ kind ++ "'."]
  | .notJson error => [error.message]
  | .problems found => found.map Problem.text
  | .dangling ends => ends.map fun (edge, missing) => danglingText edge missing
  | .limit fault => [fault.message]

def listed (errors : List String) : String :=
  "Graph validation failed:\n" ++ String.intercalate "\n" (errors.map ("- " ++ ·))

def message (rejection : Rejection) : String :=
  match rejection with
  | .notObject | .unsupported _ | .limit _ => String.intercalate "\n" rejection.errors
  | .notJson error => "Workflow document is not valid JSON: " ++ error.message
  | .problems _ | .dangling _ => listed rejection.errors

end Rejection

/-! ## Values -/

namespace Document

def ofFields (payload : Fields) : Except Rejection Document :=
  match Canonical.normalize? payload with
  | .error fault => .error (.limit fault)
  | .ok (canonical, _) =>
      match ofCanonical canonical with
      | .ok document => .ok document
      | .error found => .error (.problems found)

def ofJson : Json → Except Rejection Document
  | .obj payload => ofFields payload
  | _ => .error .notObject

def valueKind : Json → String
  | .null => "NoneType"
  | .bool _ => "bool"
  | .int _ => "int"
  | .float _ => "float"
  | .str _ => "str"
  | .arr _ => "list"
  | .obj _ => "dict"

/-- Takes in a document where other kinds of values could be meant too. -/
def ofInput : Json → Except Rejection Document
  | .obj payload => ofFields payload
  | other => .error (.unsupported (valueKind other))

/-- Everything that is wrong with a value as a document. -/
def validate (value : Json) : Except Numeral.Fault (List String) :=
  match ofJson value with
  | .ok _ => .ok []
  | .error (.limit fault) => .error fault
  | .error rejection => .ok rejection.errors

def ofText (text : String) : Except Rejection Document :=
  match Json.read text with
  | .ok value => ofJson value
  | .error (.integer fault) => .error (.limit fault)
  | .error error => .error (.notJson error)

end Document
end WorkflowWalk
