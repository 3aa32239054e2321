import WorkflowWalk.Text.Blank
import WorkflowWalk.Text.LetterCase

/-!
# Diagnostics

A diagnostic says how severe a finding is, what it is, where, and what could be done. Diagnostics
are rendered in order of severity, then of code and of node; equal ones keep their order.
-/

namespace WorkflowWalk

/-! ## Severity -/

/-- How severe a finding is. Only a name that is none of the usual three stands for itself. -/
inductive Severity
  | error
  | warning
  | info
  | other (name : String) (apart : name ∉ ["error", "warning", "info"])
deriving DecidableEq, Repr

namespace Severity

def name : Severity → String
  | .error => "error"
  | .warning => "warning"
  | .info => "info"
  | .other name _ => name

def ofName (name : String) : Severity :=
  if apart : name ∉ ["error", "warning", "info"] then .other name apart
  else if name = "error" then .error
  else if name = "warning" then .warning
  else .info

theorem ofName_name (severity : Severity) :
    ofName severity.name = severity := by
  cases severity with
  | error | warning | info =>
      rfl
  | other name apart =>
      exact dif_pos apart

theorem name_ofName (name : String) :
    (ofName name).name = name := by
  unfold ofName
  split
  · rfl
  rename_i usual
  have listed := Decidable.not_not.mp usual
  simp only [List.mem_cons, List.not_mem_nil, or_false] at listed
  rcases listed with rfl | rfl | rfl <;> rfl

def rank : Severity → Nat
  | .error => 0
  | .warning => 1
  | .info => 2
  | .other .. => 9

end Severity

/-! ## Diagnostics -/

structure Diagnostic where
  code : String
  severity : Severity
  message : String
  nodeId : Option String
  path : Option String
  hint : Option String
deriving DecidableEq, Repr

namespace Diagnostic

def given? (text : Option String) : Option String :=
  text.filter (· ≠ "")

def places (diagnostic : Diagnostic) : List String :=
  ((given? diagnostic.nodeId).map ("node=" ++ ·)).toList ++
    ((given? diagnostic.path).map ("path=" ++ ·)).toList

def placesText (diagnostic : Diagnostic) : String :=
  match diagnostic.places with
  | [] => ""
  | places => " (" ++ String.intercalate ", " places ++ ")"

def hintText (diagnostic : Diagnostic) : String :=
  match given? diagnostic.hint with
  | some hint => " Hint: " ++ hint
  | none => ""

def unstopped (message : String) : String :=
  String.ofList (Text.dropEndWhile (· == '.') message.toList)

def endTrimmed (text : String) : String :=
  String.ofList (Text.dropEndWhile Text.isBlank text.toList)

def text (diagnostic : Diagnostic) : String :=
  endTrimmed
    ("[" ++ Text.upper diagnostic.severity.name ++ "] " ++ diagnostic.code ++ ": " ++
      unstopped diagnostic.message ++ diagnostic.placesText ++ "." ++ diagnostic.hintText)

/-! ## Order -/

def le (left right : Diagnostic) : Bool :=
  if left.severity.rank ≠ right.severity.rank then
    decide (left.severity.rank < right.severity.rank)
  else if left.code ≠ right.code then
    decide (left.code < right.code)
  else
    !decide (right.nodeId.getD "" < left.nodeId.getD "")

def sorted (diagnostics : List Diagnostic) : List Diagnostic :=
  diagnostics.mergeSort le

/-- Diagnostics as they are written, one on a line, with or without those that only inform. -/
def render (diagnostics : List Diagnostic) (withInfo : Bool) : String :=
  String.intercalate "\n"
    ((sorted (diagnostics.filter fun diagnostic =>
      withInfo || diagnostic.severity ≠ .info)).map ("- " ++ ·.text))

end Diagnostic
end WorkflowWalk
