import WorkflowWalk.Document.Canonical
import WorkflowWalk.Document.Problem

/-!
# Reading documents

A document in canonical form is decoded, or every problem in it is listed: those of the nodes first,
then those of the edges, and within an item in the order of its fields. That two nodes have one id
is noticed only when every node is sound.

Nothing is converted: a text has to be a text and a list a list. The one exception is the value of
an action item, which may also be a truth value or a number.
-/

namespace WorkflowWalk
namespace Document

open Problem (Cause Collection Part Shape)

/-! ## Collecting what is wrong -/

structure Flaw where
  path : List Part
  cause : Cause
deriving DecidableEq, Repr

/-- What has been read, or all that is wrong with it. -/
abbrev Reading (α : Type) := Except (List Flaw) α

namespace Reading

variable {α β : Type}

def flaw (cause : Cause) : Reading α :=
  .error [⟨[], cause⟩]

def both {ε : Type} : Except (List ε) α → Except (List ε) β → Except (List ε) (α × β)
  | .ok first, .ok second => .ok (first, second)
  | .error flaws, .ok _ => .error flaws
  | .ok _, .error flaws => .error flaws
  | .error flaws, .error more => .error (flaws ++ more)

def under (part : Part) : Reading α → Reading α
  | .ok value => .ok value
  | .error flaws => .error (flaws.map fun flaw => { flaw with path := part :: flaw.path })

/-- Reads each item of a list from a position on; the flaws of all items are collected. -/
def eachFrom {ε : Type} (read : Nat → Json → Except (List ε) α) (position : Nat) :
    List Json → Except (List ε) (List α)
  | [] => .ok []
  | item :: rest =>
      match both (read position item) (eachFrom read (position + 1) rest) with
      | .ok (value, values) => .ok (value :: values)
      | .error flaws => .error flaws

def list (read : Json → Reading α) : Json → Reading (List α)
  | .arr items => eachFrom (fun position item => under (.index position) (read item)) 0 items
  | _ => flaw .notList

def object (shape : Shape) (read : Fields → Reading α) : Json → Reading α
  | .obj fields => read fields
  | _ => flaw (.notObject shape)

/-! ## Fields -/

/-- Reads the field under a key; a missing one has a default. -/
def optional (default : α) (key : String) (read : Json → Reading α) (fields : Fields) :
    Reading α :=
  match fields.get? key with
  | some value => under (.key key) (read value)
  | none => .ok default

def required (key : String) (read : Json → Reading α) (fields : Fields) : Reading α :=
  under (.key key) ((fields.get? key).elim (flaw .missing) read)

/-! ## Texts -/

def text : Json → Reading String
  | .str value => .ok value
  | _ => flaw .notText

def text? : Json → Reading (Option String)
  | .null => .ok none
  | .str value => .ok (some value)
  | _ => flaw .notText

def word : Json → Reading { value : String // value ≠ "" }
  | .str value => if h : value ≠ "" then .ok ⟨value, h⟩ else flaw .emptyText
  | _ => flaw .notText

end Reading

open Reading

/-! ## Parts of nodes -/

/-- The first of two keys that is present, else the first one. -/
def presentKey (fields : Fields) (key other : String) : String :=
  if !fields.has key && fields.has other then other else key

def levelKeys (fields : Fields) : List String :=
  ["label", presentKey fields "levelName" "level_name",
    presentKey fields "levelType" "level_type", "steps"]

def extras (keys : List String) (fields : Fields) : Fields :=
  fields.filter fun field => !keys.contains field.1

def readBranch : Json → Reading Branch :=
  object .branch fun fields =>
    (fun (name, condition) => ⟨name, condition⟩) <$>
      both (optional "" "name" text fields) (optional "" "condition" text fields)

/-- Reads the value of an action item; truth values and numbers are taken as texts. -/
def readValue : Json → Reading (Option String)
  | .bool value => .ok (some (if value then "true" else "false"))
  | .int value =>
      match Numeral.decimal? value with
      | .ok written => .ok (some written)
      | .error fault => flaw (.valueWithoutText fault)
  | .float value => .ok (some (value.text Json.literalNumberNames))
  | other => text? other

def readActionItem : Json → Reading ActionItem :=
  object .actionItem fun fields =>
    (fun (type, title, value) => ⟨type, title, value⟩) <$>
      both (required "type" text fields)
        (both (optional "" "title" text fields) (optional none "value" readValue fields))

/-! ## Data of nodes -/

abbrev Data := String × Body × Fields

def readLevel (fields : Fields) : Reading Data :=
  (fun (label, name, type, steps) =>
      (label, .level name type steps, extras (levelKeys fields) fields)) <$>
    both (optional "" "label" text fields)
      (both (optional none (presentKey fields "levelName" "level_name") text? fields)
        (both (optional none (presentKey fields "levelType" "level_type") text? fields)
          (optional [] "steps" (list text) fields)))

def readCondition (fields : Fields) : Reading Data :=
  (fun (label, branches) =>
      (label, .condition branches, extras ["label", "branches"] fields)) <$>
    both (optional "" "label" text fields) (optional [] "branches" (list readBranch) fields)

def readAction (fields : Fields) : Reading Data :=
  (fun (label, items) => (label, .action items, extras ["label", "actions"] fields)) <$>
    both (optional "" "label" text fields) (optional [] "actions" (list readActionItem) fields)

def dataShape : Kind → Shape
  | .level => .levelData
  | .condition => .conditionData
  | .action => .actionData

def readData : Kind → Fields → Reading Data
  | .level => readLevel
  | .condition => readCondition
  | .action => readAction

def emptyData : Kind → Data
  | .level => ("", .level none none [], [])
  | .condition => ("", .condition [], [])
  | .action => ("", .action [], [])

/-! ## Nodes and edges -/

/-- How an unknown kind is shown. An integer without a text is shown by what it is. -/
def kindText (value : Json) : String :=
  match value with
  | .int n => if Numeral.writable n then value.shown else "<unprintable int object>"
  | _ => if value.writable then value.shown else "<unprintable " ++ container value ++ " object>"
where
  /-- What holds an integer without a text. -/
  container : Json → String
    | .arr _ => "list"
    | _ => "dict"

/-- Reads a node. Without a kind nothing else of it is looked at. -/
def readNode : Json → Reading Node
  | .obj (fields : Fields) =>
      match Fields.get? fields "kind" with
      | none => flaw .noKind
      | some value =>
          match value with
          | .str name =>
              match Kind.named? name with
              | some kind =>
                  (fun (id, label, body, extras) => ⟨id.val, label, body, extras, id.property⟩) <$>
                    both (required "id" word fields)
                      (optional (emptyData kind) "data" (object (dataShape kind) (readData kind))
                        fields)
              | none => flaw (.unknownKind name)
          | other => flaw (.unknownKind (kindText other))
  | _ => flaw .notNode

def readEdge : Json → Reading Edge :=
  object .edge fun fields =>
    (fun (id, source, target, tag) =>
        ⟨id.val, source.val, target.val, tag, id.property, source.property, target.property⟩) <$>
      both (required "id" word fields)
        (both (required "source" word fields)
          (both (required "target" word fields) (optional none "branchTag" text? fields)))

/-! ## Documents -/

def itemId : Json → Option String
  | .obj fields => Canonical.givenId? fields
  | _ => none

def readItem {α : Type} (collection : Collection) (read : Json → Reading α) (position : Nat)
    (item : Json) : Except (List Problem) α :=
  match read item with
  | .ok value => .ok value
  | .error flaws =>
      .error (flaws.map fun flaw =>
        ⟨.item collection position (itemId item) flaw.path, flaw.cause⟩)

def readItems {α : Type} (collection : Collection) (read : Json → Reading α) (payload : Fields) :
    Except (List Problem) (List α) :=
  match payload.get? collection.name with
  | none => .ok []
  | some (.arr items) => eachFrom (readItem collection read) 0 items
  | some _ => .error [⟨.list collection, .notList⟩]

/-- The first id that has occurred before; `seen` are the ids before the list. -/
def firstRepeat? (seen : List String) : List String → Option String
  | [] => none
  | id :: rest => if seen.contains id then some id else firstRepeat? (id :: seen) rest

abbrev DistinctNodes := { nodes : List Node // (nodes.map Node.id).Nodup }

def checkDistinct (nodes : List Node) : Except (List Problem) DistinctNodes :=
  if distinct : (nodes.map Node.id).Nodup then
    .ok ⟨nodes, distinct⟩
  else
    .error ((firstRepeat? [] (nodes.map Node.id)).toList.map fun id =>
      ⟨.list .nodes, .duplicateId id⟩)

def readNodes (payload : Fields) : Except (List Problem) DistinctNodes :=
  match readItems .nodes readNode payload with
  | .ok nodes => checkDistinct nodes
  | .error problems => .error problems

def readEdges (payload : Fields) : Except (List Problem) (List Edge) :=
  readItems .edges readEdge payload

def ofCanonical (payload : Fields) : Except (List Problem) Document :=
  match both (readNodes payload) (readEdges payload) with
  | .ok (nodes, edges) => .ok ⟨nodes.val, edges, nodes.property⟩
  | .error problems => .error problems

end Document
end WorkflowWalk
