import WorkflowWalk.Json.Quoted
import WorkflowWalk.Json.Value
import WorkflowWalk.Number.Shortest
import WorkflowWalk.Text.Order

/-!
# JSON texts

Two layouts. The compact one has no blanks at all and keeps characters beyond ASCII; together with
the sorting of keys it is the text that a document's hash is taken of. The indented one puts every
item on a line of its own and is pure ASCII.
-/

namespace WorkflowWalk
namespace Json

def numberNames : Binary64.Names :=
  { nan := "NaN", infinity := "Infinity" }

/-! ## Order of keys -/

/-- Orders two fields by their keys, code point by code point. -/
def keyLe (left right : String × Json) : Bool :=
  Text.le left.1 right.1

mutual

/-- The value with the keys of all its objects in increasing order. -/
def sortKeys : Json → Json
  | .arr items => .arr (sortKeysItems items)
  | .obj fields => .obj ((sortKeysFields fields).mergeSort keyLe)
  | other => other

def sortKeysItems : List Json → List Json
  | [] => []
  | item :: rest => item.sortKeys :: sortKeysItems rest

def sortKeysFields : List (String × Json) → List (String × Json)
  | [] => []
  | (key, value) :: rest => (key, value.sortKeys) :: sortKeysFields rest

end

/-! ## Scalars -/

def scalar : Json → List Char
  | .null => "null".toList
  | .bool true => "true".toList
  | .bool false => "false".toList
  | .int value => (Numeral.decimal value).toList
  | .float value => (value.text numberNames).toList
  | .str value => Quoted.quote value
  | .arr _ => []
  | .obj _ => []

/-! ## Compact layout -/

mutual

def compactChars : Json → List Char
  | .arr items => '[' :: compactItems items ++ [']']
  | .obj fields => '\x7b' :: compactFields fields ++ ['\x7d']
  | other => scalar other

def compactItems : List Json → List Char
  | [] => []
  | [item] => compactChars item
  | item :: next :: rest => compactChars item ++ ',' :: compactItems (next :: rest)

def compactFields : List (String × Json) → List Char
  | [] => []
  | [(key, value)] => Quoted.quote key ++ ':' :: compactChars value
  | (key, value) :: next :: rest =>
      Quoted.quote key ++ ':' :: compactChars value ++ ',' :: compactFields (next :: rest)

end

/-- The compact text of a value, characters beyond ASCII kept. -/
def compact (value : Json) : String :=
  String.ofList (compactChars value)

def compactAscii (value : Json) : String :=
  String.ofList (Quoted.ascii (compactChars value))

/-! ## Indented layout -/

def newLine (depth : Nat) : List Char :=
  '\n' :: List.replicate (2 * depth) ' '

mutual

/-- The text of a value at a depth, one item on a line. -/
def indentedAt (depth : Nat) : Json → List Char
  | .arr [] => ['[', ']']
  | .arr (item :: rest) =>
      '[' :: newLine (depth + 1) ++ indentedAt (depth + 1) item ++
        indentedItems (depth + 1) rest ++ newLine depth ++ [']']
  | .obj [] => ['\x7b', '\x7d']
  | .obj ((key, value) :: rest) =>
      '\x7b' :: newLine (depth + 1) ++ Quoted.quote key ++ [':', ' '] ++
        indentedAt (depth + 1) value ++ indentedFields (depth + 1) rest ++ newLine depth ++
          ['\x7d']
  | other => scalar other

def indentedItems (depth : Nat) : List Json → List Char
  | [] => []
  | item :: rest => ',' :: newLine depth ++ indentedAt depth item ++ indentedItems depth rest

def indentedFields (depth : Nat) : List (String × Json) → List Char
  | [] => []
  | (key, value) :: rest =>
      ',' :: newLine depth ++ Quoted.quote key ++ [':', ' '] ++
        indentedAt depth value ++ indentedFields depth rest

end

def indented (value : Json) : String :=
  String.ofList (Quoted.ascii (indentedAt 0 value))

end Json
end WorkflowWalk
