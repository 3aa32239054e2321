import WorkflowWalk.Condition.Parser
import WorkflowWalk.Condition.Scalar
import WorkflowWalk.Context.Basic
import WorkflowWalk.Notice

/-!
# Evaluating conditions

Equality compares texts and ignores letter case; the other comparisons compare numbers and fail
when either side is none. A field that is missing or null makes every condition false, and so does
a text that is no condition.

The only fault is an integer that is too long to be written where its text is needed.
-/

namespace WorkflowWalk

open Condition

/-! ## Comparing two values -/

namespace Operator

/-- Whether the texts of two values agree but for letter case. -/
def sameText (actual expected : Json) : Except Numeral.Fault Bool := do
  let left ← asText actual
  let right ← asText expected
  return Text.lower left == Text.lower right

def holds (operator : Operator) (actual expected : Json) : Except Numeral.Fault Bool :=
  match operator with
  | .equals | .same => sameText actual expected
  | .differs => (! ·) <$> sameText actual expected
  | .above => .ok ((asNumber expected).lt (asNumber actual))
  | .below => .ok ((asNumber actual).lt (asNumber expected))
  | .atLeast => .ok ((asNumber expected).le (asNumber actual))
  | .atMost => .ok ((asNumber actual).le (asNumber expected))

end Operator

/-! ## Looking into a context -/

/-- The value of a field that is present and not null. -/
def present? (context : Context) (field : String) : Option Json :=
  match context.get? field with
  | none | some .null => none
  | some value => some value

/-- Compares a field with a value under an operator given by its name. An unknown operator holds of
nothing. -/
def compareNamed (context : Context) (field name : String) (expected : Json) :
    Except Numeral.Fault Bool :=
  match present? context field, Operator.named? name with
  | some actual, some operator => operator.holds actual expected
  | _, _ => .ok false

namespace Condition

def evaluate (condition : Condition) (context : Context) : Except Numeral.Fault Bool :=
  match present? context condition.field with
  | some actual => condition.operator.holds actual (.str condition.value)
  | none => .ok false

def holds (condition? : Option Condition) (context : Context) : Except Numeral.Fault Bool :=
  match condition? with
  | some condition => condition.evaluate context
  | none => .ok false

end Condition

/-! ## Notices -/

namespace Notice

def ofCondition (level : Level) (text : String) : Notice :=
  { topic := .conditions, level, text }

/-- What is told when a field is compared. The value is shown literally, so there is no notice about
a value that has no text. -/
def comparing (field name : String) (actual expected : Json) : List Notice :=
  match actual.literal?, expected.shown? with
  | .ok value, .ok literal =>
      [ofCondition .debug
        ("Comparing " ++ field ++ "(" ++ value ++ ") " ++ name ++ " " ++ literal)]
  | _, _ => []

def ofComparison (context : Context) (field name : String) (expected : Json) : List Notice :=
  match present? context field with
  | none =>
      [ofCondition .warning ("Field '" ++ field ++ "' not found in context; condition is false.")]
  | some actual =>
      comparing field name actual expected ++
        match Operator.named? name with
        | some _ => []
        | none =>
            [ofCondition .warning ("Unknown operator '" ++ name ++ "'; condition is false.")]

def ofEvaluation (source : Json) (context : Context) : List Notice :=
  match Condition.ofJson? source with
  | some condition =>
      ofComparison context condition.field condition.operator.symbol (.str condition.value)
  | none =>
      match source.literal? with
      | .ok shown =>
          [ofCondition .warning
            ("Unable to parse condition " ++ shown ++ "; treating it as false.")]
      | .error _ => []

end Notice
end WorkflowWalk
