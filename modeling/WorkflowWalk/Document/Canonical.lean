import WorkflowWalk.Json.Literal
import WorkflowWalk.Text.Blank
import WorkflowWalk.Text.LetterCase

/-!
# Canonical form

Editors spell documents in several ways. In the canonical form a node says its kind under `kind`, in
lower case and without blanks about it; an edge has an id and says its branch tag under `branchTag`.
Each change leaves a note.

An edge without an id gets one made of its two ends, with a number when that id is taken. The ids
that edges have been given count as taken from the start, those of later edges too.
-/

namespace WorkflowWalk
namespace Canonical

/-! ## Notes -/

inductive Note
  | kindAlias (node : Option String)
  | kindCase (kind : String) (node : Option String)
  | edgeId (id : String)
  | tagAlias (key : String) (edge : String)
deriving DecidableEq, Repr

namespace Note

def code : Note → String
  | .kindAlias _ => "CANONICAL_KIND_ALIAS"
  | .kindCase _ _ => "CANONICAL_KIND_CASE"
  | .edgeId _ => "CANONICAL_EDGE_ID"
  | .tagAlias _ _ => "CANONICAL_BRANCH_TAG_ALIAS"

def message : Note → String
  | .kindAlias _ => "Canonicalized 'type' to 'kind'."
  | .kindCase kind _ => "Lowercased node kind '" ++ kind ++ "'."
  | .edgeId id => "Generated edge id '" ++ id ++ "'."
  | .tagAlias key _ => "Canonicalized '" ++ key ++ "' to 'branchTag'."

def subject : Note → Option String
  | .kindAlias node => node
  | .kindCase _ node => node
  | .edgeId id => some id
  | .tagAlias _ edge => some edge

end Note

/-! ## Nodes -/

def givenId? (fields : Fields) : Option String :=
  let id := Json.field fields "id"
  if id.isTruthy then some id.shown else none

/-- Moves the value under `type` to `kind` if there is no `kind`. -/
def nameKind (fields : Fields) : Fields × List Note :=
  match fields.get? "kind", fields.get? "type" with
  | none, some kind => ((fields.erase "type").put "kind" kind, [.kindAlias (givenId? fields)])
  | _, _ => (fields, [])

/-- A kind as it is compared: in lower case and without blanks about it. -/
def plainKind (kind : String) : String :=
  Text.lower (Text.strip kind)

def plainifyKind (fields : Fields) : Fields × List Note :=
  match fields.get? "kind" with
  | some (.str kind) =>
      if plainKind kind = kind then (fields, [])
      else (fields.put "kind" (.str (plainKind kind)), [.kindCase kind (givenId? fields)])
  | _ => (fields, [])

def node (fields : Fields) : Fields × List Note :=
  let (named, aliasNotes) := nameKind fields
  let (plain, caseNotes) := plainifyKind named
  (plain, aliasNotes ++ caseNotes)

/-- The canonical form of an item of the list of nodes; what is no object stays as it is. -/
def nodeItem : Json → Json × List Note
  | .obj fields => let (canonical, notes) := node fields; (.obj canonical, notes)
  | other => (other, [])

/-! ## Edge ids -/

def baseId (fields : Fields) : String :=
  (Json.field fields "source").shown ++ "->" ++ (Json.field fields "target").shown

/-- The ids tried for a base: the base itself, then the base with `#2`, `#3` and so on. -/
def candidate (base : String) : Nat → String
  | 0 => base
  | k + 1 => base ++ "#" ++ toString (k + 2)

/-- The first candidate that is not taken. Of one candidate more than there are taken ids one is
free. -/
def freeId (taken : List String) (base : String) : String :=
  let found := (List.range (taken.length + 1)).find? fun k => !taken.contains (candidate base k)
  candidate base (found.getD 0)

def nameEdge (taken : List String) (fields : Fields) : Fields × List Note :=
  match givenId? fields with
  | some _ => (fields, [])
  | none =>
      let id := freeId taken (baseId fields)
      (fields.put "id" (.str id), [.edgeId id])

/-! ## Branch tags -/

/-- The other keys under which a branch tag may stand, the first that is present counting. -/
def tagAliases : List String :=
  ["sourceHandle", "source_handle", "branch_tag"]

/-- Moves the value under another key to `branchTag` if there is no `branchTag`. -/
def nameTag (fields : Fields) : Fields × List Note :=
  match fields.get? "branchTag", tagAliases.find? fields.has with
  | none, some key =>
      ((fields.erase key).put "branchTag" (Json.field fields key),
        [.tagAlias key (Json.field fields "id").shown])
  | _, _ => (fields, [])

/-! ## Edges -/

def edge (taken : List String) (fields : Fields) : Fields × List Note :=
  let (named, idNotes) := nameEdge taken fields
  let (tagged, tagNotes) := nameTag named
  (tagged, idNotes ++ tagNotes)

def givenIds (items : List Json) : List String :=
  items.filterMap fun
    | .obj fields => givenId? fields
    | _ => none

def madeIds (notes : List Note) : List String :=
  notes.filterMap fun
    | .edgeId id => some id
    | _ => none

/-- The canonical forms of the items of the list of edges, with the ids taken so far. -/
def edgeItems (taken : List String) : List Json → List Json × List Note
  | [] => ([], [])
  | .obj fields :: rest =>
      let (canonical, notes) := edge taken fields
      let (items, more) := edgeItems (madeIds notes ++ taken) rest
      (.obj canonical :: items, notes ++ more)
  | other :: rest =>
      let (items, more) := edgeItems taken rest
      (other :: items, more)

/-! ## Documents -/

def overList (key : String) (change : List Json → List Json × List Note) (fields : Fields) :
    Fields × List Note :=
  match fields.get? key with
  | some (.arr items) =>
      let (changed, notes) := change items
      (fields.put key (.arr changed), notes)
  | _ => (fields, [])

def nodeItems (items : List Json) : List Json × List Note :=
  (items.map fun item => (nodeItem item).1, items.flatMap fun item => (nodeItem item).2)

/-- The canonical form of a document and the notes on the changes that it took. -/
def normalize (payload : Fields) : Fields × List Note :=
  let (nodesDone, nodeNotes) := overList "nodes" nodeItems payload
  let (edgesDone, edgeNotes) :=
    overList "edges" (fun items => edgeItems (givenIds items) items) nodesDone
  (edgesDone, nodeNotes ++ edgeNotes)

/-! ## Ids without a text -/

def nodeWritable : Json → Bool
  | .obj fields => (Json.field fields "id").writable
  | _ => true

/-- Whether the id of an item of the list of edges, or what its id is made of, has a text. -/
def edgeWritable : Json → Bool
  | .obj fields =>
      if (Json.field fields "id").isTruthy then
        (Json.field fields "id").writable
      else
        (Json.field fields "source").writable && (Json.field fields "target").writable
  | _ => true

def allItems (key : String) (p : Json → Bool) (fields : Fields) : Bool :=
  match fields.get? key with
  | some (.arr items) => items.all p
  | _ => true

def writable (payload : Fields) : Bool :=
  allItems "nodes" nodeWritable payload && allItems "edges" edgeWritable payload

def normalize? (payload : Fields) : Except Numeral.Fault (Fields × List Note) :=
  if writable payload then .ok (normalize payload) else .error .tooLongToWrite

end Canonical
end WorkflowWalk
