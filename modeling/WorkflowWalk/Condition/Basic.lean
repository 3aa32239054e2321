import WorkflowWalk.Text.LetterCase

/-!
# Conditions

A condition compares one field of a context with a literal value under one of seven operators.
There are no connectives and no arithmetic.
-/

namespace WorkflowWalk

/-- The comparison that a condition makes. `equals` is the spelled out form of `same`. -/
inductive Operator
  | equals
  | same
  | differs
  | above
  | below
  | atLeast
  | atMost
deriving DecidableEq, Repr

namespace Operator

def symbol : Operator → String
  | .equals => "equals"
  | .same => "=="
  | .differs => "!="
  | .above => ">"
  | .below => "<"
  | .atLeast => ">="
  | .atMost => "<="

def all : List Operator :=
  [.equals, .same, .differs, .above, .below, .atLeast, .atMost]

def named? (name : String) : Option Operator :=
  all.find? (·.symbol = Text.lower name)

theorem mem_all (operator : Operator) :
    operator ∈ all := by
  cases operator <;> simp [all]

end Operator

structure Condition where
  field : String
  operator : Operator
  value : String
deriving DecidableEq, Repr

namespace Condition

def text (condition : Condition) : String :=
  condition.field ++ " " ++ condition.operator.symbol ++ " " ++ condition.value

end Condition
end WorkflowWalk
