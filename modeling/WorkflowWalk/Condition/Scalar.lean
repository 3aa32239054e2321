import WorkflowWalk.Json.Literal
import WorkflowWalk.Number.Numeral
import WorkflowWalk.Text.Blank

/-!
# Values as texts and as numbers

Every value of a context can be taken as a text and as a number. As a text, numbers without a
fraction are written without a point. As a number, an empty text is nought, an integer that is too
large is infinite, and whatever is no number is the number that is none.
-/

namespace WorkflowWalk
namespace Condition

open Text

def scalarNumberNames : Binary64.Names :=
  { nan := "NaN", infinity := "Infinity" }

/-- A floating point number as it is compared: a whole one like an integer. -/
def floatText (value : Binary64) : String :=
  match value.isWhole, value.truncate? with
  | true, some whole => Numeral.decimal whole
  | _, _ => value.text scalarNumberNames

def asText : Json → Except Numeral.Fault String
  | .bool value => .ok (if value then "true" else "false")
  | .float value => .ok (floatText value)
  | other => other.shown?

/-- The base that the letter of a prefix such as `0x` stands for. -/
def baseOf? : Char → Option Nat
  | 'x' | 'X' => some 16
  | 'o' | 'O' => some 8
  | 'b' | 'B' => some 2
  | _ => none

def prefixed? : List Char → Option Nat
  | '0' :: letter :: digits =>
      match baseOf? letter with
      | some base =>
          if digits.isEmpty then none
          else (digits.mapM (digitInBase? base)).map (ofDigits base)
      | none => none
  | _ => none

def namedInfinity? (text : String) : Option Binary64 :=
  if text = "Infinity" ∨ text = "+Infinity" then some (.infinite false)
  else if text = "-Infinity" then some (.infinite true)
  else none

def textNumber (text : String) : Binary64 :=
  let cs := trim text.toList
  if cs.isEmpty then
    .finite false 0
  else
    match Numeral.readDecimal? cs, namedInfinity? (String.ofList cs), prefixed? cs with
    | some value, _, _ => value
    | none, some value, _ => value
    | none, none, some value => .ofInt value
    | none, none, none => .nan

def asNumber : Json → Binary64
  | .bool value => .ofInt (if value then 1 else 0)
  | .float value => value
  | .int value => .ofInt value
  | .str text => textNumber text
  | _ => .nan

end Condition
end WorkflowWalk
