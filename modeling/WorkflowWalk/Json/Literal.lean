import WorkflowWalk.Json.Quoted
import WorkflowWalk.Json.Value
import WorkflowWalk.Number.Shortest
import WorkflowWalk.Text.Printable

/-!
# Literal texts

How a value is shown in a message or compared as text. The constants are `None`, `True` and
`False`, strings stand between single quotes unless they hold one and no double quote, and an
object is written as `\x7b'key': value\x7d`. A string that is shown on its own stands without
quotes.
-/

namespace WorkflowWalk
namespace Json

def literalNumberNames : Binary64.Names :=
  { nan := "nan", infinity := "inf" }

/-! ## Strings -/

def hexDigits (count n : Nat) : List Char :=
  let digits := Nat.toDigits 16 n
  List.replicate (count - digits.length) '0' ++ digits

/-- A character of a quoted string: the delimiter and the backslash are escaped, and so is what has
no printed form. -/
def literalChar (delimiter c : Char) : List Char :=
  let n := c.toNat
  if c = delimiter ∨ c = '\\' then ['\\', c]
  else if c = '\n' then ['\\', 'n']
  else if c = '\r' then ['\\', 'r']
  else if c = '\t' then ['\\', 't']
  else if Text.isPrintable c then [c]
  else if n < 0x100 then ['\\', 'x'] ++ hexDigits 2 n
  else if n < 0x10000 then ['\\', 'u'] ++ hexDigits 4 n
  else ['\\', 'U'] ++ hexDigits 8 n

/-- A code point of a quoted string; half of a surrogate pair has no printed form. -/
def literalPoint (delimiter : Char) : Text.Point → List Char
  | .char c => literalChar delimiter c
  | .half half => ['\\', 'u'] ++ hexDigits 4 half.code

def literalString (text : String) : List Char :=
  let cs := text.toList
  let delimiter := if cs.contains '\'' && !cs.contains '"' then '"' else '\''
  delimiter :: (Text.points cs).flatMap (literalPoint delimiter) ++ [delimiter]

/-! ## Values -/

mutual

def literalChars : Json → List Char
  | .null => "None".toList
  | .bool true => "True".toList
  | .bool false => "False".toList
  | .int value => (Numeral.decimal value).toList
  | .float value => (value.text literalNumberNames).toList
  | .str value => literalString value
  | .arr items => '[' :: literalItems items ++ [']']
  | .obj fields => '\x7b' :: literalFields fields ++ ['\x7d']

def literalItems : List Json → List Char
  | [] => []
  | [item] => literalChars item
  | item :: next :: rest => literalChars item ++ [',', ' '] ++ literalItems (next :: rest)

def literalFields : List (String × Json) → List Char
  | [] => []
  | [(key, value)] => literalString key ++ [':', ' '] ++ literalChars value
  | (key, value) :: next :: rest =>
      literalString key ++ [':', ' '] ++ literalChars value ++ [',', ' '] ++
        literalFields (next :: rest)

end

def literal (value : Json) : String :=
  String.ofList (literalChars value)

/-- A value as it is shown on its own: a string without quotes, anything else literally. -/
def shown : Json → String
  | .str value => value
  | other => other.literal

/-- A value as it is shown, if each of its integers has a decimal text within the limit. -/
def shown? (value : Json) : Except Numeral.Fault String :=
  if value.writable then .ok value.shown else .error .tooLongToWrite

def literal? (value : Json) : Except Numeral.Fault String :=
  if value.writable then .ok value.literal else .error .tooLongToWrite

end Json
end WorkflowWalk
