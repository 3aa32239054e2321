import WorkflowWalk.Proofs.Condition.Laws

/-!
# Conditions that overflow

Equality asks for the text of the value that a field holds, and a value with an integer beyond the
limit of digits has none. This is the only fault of evaluation: comparisons of numbers take integers
of any size, and a text in a condition is a text already.
-/

namespace WorkflowWalk

variable {context : Context} {fault : Numeral.Fault}

/-!
## Values without a text
-/

theorem Json.shown?_eq_error_iff
    {value : Json} :
    value.shown? = .error fault ↔ value.writable = false ∧ fault = .tooLongToWrite := by
  unfold Json.shown?
  cases value.writable <;> simp [eq_comm]

theorem Condition.asText_eq_error_iff
    {value : Json} :
    asText value = .error fault ↔ value.writable = false ∧ fault = .tooLongToWrite := by
  cases value with
  | bool _ | float _ =>
      simp [asText, Json.writable]
  | null | int _ | str _ | arr _ | obj _ =>
      exact Json.shown?_eq_error_iff

namespace Operator

/-- Whether an operator compares the texts of its sides, and not their numbers. -/
def comparesTexts : Operator → Bool
  | .equals | .same | .differs => true
  | .above | .below | .atLeast | .atMost => false

theorem sameText_eq_error_iff
    {actual : Json} {value : String} :
    sameText actual (.str value) = .error fault ↔
      actual.writable = false ∧ fault = .tooLongToWrite := by
  rw [← Condition.asText_eq_error_iff, sameText, Condition.asText_str]
  cases Condition.asText actual with
  | ok text =>
      constructor <;> intro failed <;> cases failed
  | error other =>
      constructor <;> intro failed <;> cases failed <;> rfl

theorem holds_eq_error_iff
    {operator : Operator} {actual : Json} {value : String} :
    operator.holds actual (.str value) = .error fault ↔
      operator.comparesTexts = true ∧ actual.writable = false ∧ fault = .tooLongToWrite := by
  cases operator with
  | equals | same =>
      simp only [holds, comparesTexts, sameText_eq_error_iff, true_and]
  | differs =>
      have compared : sameText actual (.str value) = .error fault ↔
          actual.writable = false ∧ fault = .tooLongToWrite :=
        sameText_eq_error_iff
      simp only [holds, comparesTexts, ← compared, true_and]
      cases sameText actual (.str value) with
      | ok same =>
          constructor <;> intro failed <;> cases failed
      | error other =>
          exact Iff.rfl
  | above | below | atLeast | atMost =>
      simp [holds, comparesTexts]

end Operator

/-!
## Conditions
-/

/-- A condition asks for the text of a present value that has none. -/
structure Condition.Overflows (condition : Condition) (context : Context) : Prop where
  textual : condition.operator.comparesTexts = true
  tooLong : ∃ actual, present? context condition.field = some actual ∧ actual.writable = false

theorem Condition.evaluate_eq_error_iff
    {condition : Condition} :
    condition.evaluate context = .error fault ↔
      condition.Overflows context ∧ fault = .tooLongToWrite := by
  unfold evaluate
  cases found : present? context condition.field with
  | none =>
      constructor
      · intro failed
        cases failed
      · rintro ⟨overflows, _⟩
        rcases overflows.tooLong with ⟨actual, present, _⟩
        rw [found] at present
        cases present
  | some actual =>
      simp only [Operator.holds_eq_error_iff]
      constructor
      · rintro ⟨textual, tooLong, isLimit⟩
        exact ⟨⟨textual, actual, found, tooLong⟩, isLimit⟩
      · rintro ⟨overflows, isLimit⟩
        rcases overflows.tooLong with ⟨other, present, tooLong⟩
        rw [found] at present
        cases present
        exact ⟨overflows.textual, tooLong, isLimit⟩

def Condition.TextOverflows (text : String) (context : Context) : Prop :=
  ∃ condition, parse? text = some condition ∧ condition.Overflows context

theorem Condition.holds_eq_error_iff
    {text : String} :
    holds (parse? text) context = .error fault ↔
      TextOverflows text context ∧ fault = .tooLongToWrite := by
  unfold TextOverflows
  cases parse? text with
  | none =>
      simp [holds]
  | some condition =>
      simp [holds, evaluate_eq_error_iff]

/-!
## Decisions
-/

namespace Decision

def OverflowsAt (context : Context) (node : Node) : Prop :=
  ∃ branches, node.branches? = some branches ∧
    ∃ branch ∈ branches, Condition.TextOverflows branch.condition context

theorem exists_overflow_of_amongBranches
    {edges : List Edge} {branches : List Branch} {index : Nat}
    (failed : amongBranches edges context index branches = .error fault) :
    fault = .tooLongToWrite ∧
      ∃ branch ∈ branches, Condition.TextOverflows branch.condition context := by
  induction branches generalizing index with
  | nil =>
      cases failed
  | cons branch rest ih =>
      cases held : Condition.holds (Condition.parse? branch.condition) context with
      | error other =>
          rw [amongBranches, held] at failed
          cases failed
          rcases Condition.holds_eq_error_iff.mp held with ⟨overflows, isLimit⟩
          exact ⟨isLimit, branch, List.mem_cons_self, overflows⟩
      | ok result =>
          rcases amongBranches_cons edges held index rest with ⟨_, _, _, taken⟩ | ⟨_, passed⟩
          · rw [taken] at failed
            cases failed
          · rw [passed] at failed
            rcases ih failed with ⟨isLimit, found, among, overflows⟩
            exact ⟨isLimit, found, List.mem_cons_of_mem _ among, overflows⟩

theorem overflowsAt_of_resolve
    {document : Document} {node : Node} (failed : resolve document context node = .error fault) :
    fault = .tooLongToWrite ∧ OverflowsAt context node := by
  unfold resolve at failed
  cases held : node.branches? with
  | none =>
      rw [held] at failed
      cases failed
  | some branches =>
      simp only [held] at failed
      rcases exists_overflow_of_amongBranches failed with ⟨isLimit, overflows⟩
      exact ⟨isLimit, branches, held, overflows⟩

end Decision
end WorkflowWalk
