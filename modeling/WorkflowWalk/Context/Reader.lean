import WorkflowWalk.Context.Basic
import WorkflowWalk.Document.Rejection

/-!
# Taking in contexts

A context comes as a value: an object, or a list of pairs of a key and a value. A text and an object
count as lists too, of its code points and of its keys. A value that counts as not given stands for
the empty context.
-/

namespace WorkflowWalk
namespace Context

inductive Fault
  | notIterable (kind : String)
  | notPair (position : Nat)
  | notTwo (position length : Nat)
  | notKey (kind : String)
deriving DecidableEq, Repr

def Fault.message : Fault → String
  | .notIterable kind => "'" ++ kind ++ "' object is not iterable"
  | .notPair position =>
      "cannot convert dictionary update sequence element #" ++ toString position ++
        " to a sequence"
  | .notTwo position length =>
      "dictionary update sequence element #" ++ toString position ++ " has length " ++
        toString length ++ "; 2 is required"
  | .notKey kind => "unhashable type: '" ++ kind ++ "'"

/-- The values that a value consists of: the items of a list, the code points of a text, the keys of
an object. -/
def parts? : Json → Option (List Json)
  | .arr items => some items
  | .str text => some ((Text.points text.toList).map fun point => .str (String.ofList point.kept))
  | .obj fields => some (fields.map fun field => .str field.1)
  | _ => none

def key : Json → Except Fault Key
  | .str text => .ok (.text text)
  | .null => .ok .nothing
  | .bool value => .ok (.truth value)
  | .int value => .ok (.whole value)
  | .float value => .ok (.real value)
  | .arr items => .error (.notKey (Document.valueKind (.arr items)))
  | .obj fields => .error (.notKey (Document.valueKind (.obj fields)))

def entry (position : Nat) (value : Json) : Except Fault (Key × Json) :=
  match parts? value with
  | none => .error (.notPair position)
  | some [first, second] => (fun key => (key, second)) <$> key first
  | some parts => .error (.notTwo position parts.length)

def entriesFrom (position : Nat) (before : Context) : List Json → Except Fault Context
  | [] => .ok before
  | value :: rest => do
      let (key, content) ← entry position value
      entriesFrom (position + 1) (before.put key content) rest

def ofJson (value : Json) : Except Fault Context :=
  if !value.isTruthy then
    .ok []
  else
    match value with
    | .obj fields => .ok (ofFields fields)
    | other =>
        match parts? other with
        | some items => entriesFrom 0 [] items
        | none => .error (.notIterable (Document.valueKind other))

end Context
end WorkflowWalk
