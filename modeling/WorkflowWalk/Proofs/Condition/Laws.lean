import WorkflowWalk.Proofs.Choice
import WorkflowWalk.Proofs.Condition.Grammar
import WorkflowWalk.Proofs.Number.Order

/-!
# Laws of the operators

How the outcomes of the seven operators on one field and one value go together, from the text of a
condition on. A field that is missing or null makes all of them false. Of a present value the two
ways to write equality and its negation decide one question about texts, and the four comparisons
decide another one about numbers.
-/

namespace WorkflowWalk

open Text

/-!
## Present fields
-/

theorem present?_eq_none_iff
    {context : Context} {field : String} :
    present? context field = none ↔
      context.get? field = none ∨ context.get? field = some .null := by
  unfold present?
  cases context.get? field with
  | none =>
      simp
  | some value =>
      cases value <;> simp

theorem present?_eq_some_iff
    {context : Context} {field : String} {value : Json} :
    present? context field = some value ↔ context.get? field = some value ∧ value ≠ .null := by
  unfold present?
  cases context.get? field with
  | none =>
      simp
  | some found =>
      cases found with
      | null =>
          constructor
          · intro absent
            cases absent
          · intro present
            exact absurd (Option.some.inj present.1).symm present.2
      | bool _ | int _ | float _ | str _ | arr _ | obj _ =>
          constructor
          · intro same
            cases same
            exact ⟨rfl, Json.noConfusion⟩
          · intro present
            exact present.1

namespace Condition

variable {context : Context} {field value sign : String} {operator : Operator} {actual : Json}

theorem evaluate_of_absent
    (absent : present? context field = none) (operator : Operator) (value : String) :
    evaluate ⟨field, operator, value⟩ context = .ok false := by
  simp only [evaluate, absent]

theorem evaluate_of_present
    (found : present? context field = some actual) (operator : Operator) (value : String) :
    evaluate ⟨field, operator, value⟩ context = operator.holds actual (.str value) := by
  simp only [evaluate, found]

/-!
## Outcomes of texts
-/

def outcome (context : Context) (field sign value : String) : Except Numeral.Fault Bool :=
  holds (parse? (field ++ " " ++ sign ++ " " ++ value)) context

theorem outcome_of_spells
    (word : IsWord field) (literal : IsLiteral value)
    (spells : Spells operator [' '] sign.toList [' ']) (context : Context) :
    outcome context field sign value = evaluate ⟨field, operator, value⟩ context := by
  rw [outcome, parse?_written word literal spells, holds]

theorem spells_of_keyword
    {keyword : String} (spelt : keyword.toList.map Char.toLower = equalsWord) :
    Spells .equals [' '] keyword.toList [' '] :=
  ⟨List.cons_ne_nil _ _, spelt, List.cons_ne_nil _ _⟩

/-!
## Equality
-/

theorem asText_str (text : String) :
    asText (.str text) = .ok text :=
  Json.shown?_of_writable rfl

theorem sameText_congr
    {other : String} (same : lower other = lower value) (actual : Json) :
    Operator.sameText actual (.str other) = Operator.sameText actual (.str value) := by
  unfold Operator.sameText
  rw [asText_str, asText_str]
  cases asText actual with
  | error fault =>
      rfl
  | ok text =>
      change Except.ok (lower text == lower other) = Except.ok (lower text == lower value)
      rw [same]

theorem outcomes_of_sameText
    (word : IsWord field) (literal : IsLiteral value) {keyword : String}
    (spelt : keyword.toList.map Char.toLower = equalsWord)
    (found : present? context field = some actual) {same : Bool}
    (compared : Operator.sameText actual (.str value) = .ok same) :
    outcome context field "==" value = .ok same ∧ outcome context field keyword value = .ok same ∧
      outcome context field "!=" value = .ok !same := by
  have equals : Spells .same [' '] "==".toList [' '] := rfl
  have differs : Spells .differs [' '] "!=".toList [' '] := rfl
  rw [outcome_of_spells word literal equals, outcome_of_spells word literal differs,
    outcome_of_spells word literal (spells_of_keyword spelt), evaluate_of_present found,
    evaluate_of_present found, evaluate_of_present found]
  refine ⟨compared, compared, ?_⟩
  rw [Operator.holds, compared]
  rfl

/-!
## Comparisons
-/

theorem representable_of_readDecimal?
    {cs : List Char} {number : Binary64} (read : Numeral.readDecimal? cs = some number) :
    number.Representable := by
  simp only [Numeral.readDecimal?, Option.ite_none_left_eq_some, Option.map_eq_some_iff] at read
  rcases read with ⟨_, exponent, _, rfl⟩
  exact Binary64.representable_ofDecimal _ _ _

theorem representable_textNumber (text : String) :
    (textNumber text).Representable := by
  unfold textNumber
  simp only
  split
  · exact Binary64.representable_zero false
  · split
    · rename_i read
      exact representable_of_readDecimal? read
    · rename_i named
      simp only [namedInfinity?] at named
      split at named
      · cases named
        exact Binary64.representable_infinite false
      · split at named
        · cases named
          exact Binary64.representable_infinite true
        · cases named
    · exact Binary64.representable_ofInt _
    · exact Binary64.representable_nan

theorem representable_asNumber
    (sound : ∀ number, actual = .float number → number.Representable) :
    (asNumber actual).Representable := by
  cases actual with
  | float number =>
      exact sound number rfl
  | bool _ | int _ =>
      exact Binary64.representable_ofInt _
  | str text =>
      exact representable_textNumber text
  | null | arr _ | obj _ =>
      exact Binary64.representable_nan

/-- The outcomes of the four comparisons, by the order of two numbers. -/
structure Ordered (context : Context) (field value : String) (left right : Binary64) : Prop where
  above : outcome context field ">" value = .ok (right.lt left)
  below : outcome context field "<" value = .ok (left.lt right)
  atLeast : outcome context field ">=" value = .ok (right.le left)
  atMost : outcome context field "<=" value = .ok (left.le right)

theorem ordered_of_present
    (word : IsWord field) (literal : IsLiteral value)
    (found : present? context field = some actual) :
    Ordered context field value (asNumber actual) (asNumber (.str value)) := by
  have decided {sign : String} (operator : Operator)
      (spells : Spells operator [' '] sign.toList [' ']) :
      outcome context field sign value = operator.holds actual (.str value) := by
    rw [outcome_of_spells word literal spells, evaluate_of_present found]
  exact {
    above := decided .above rfl
    below := decided .below rfl
    atLeast := decided .atLeast rfl
    atMost := decided .atMost rfl }

/-!
## All laws
-/

/-- The laws of the seven operators, for a field of a context and a value. -/
theorem outcome_laws
    (writable : context.Writable) (word : IsWord field) (literal : IsLiteral value) :
    (context.get? field = none ∨ context.get? field = some .null →
      ∀ operator : Operator, outcome context field operator.symbol value = .ok false) ∧
    (∀ actual, context.get? field = some actual → actual ≠ .null →
      (∃ same, ∀ other, IsLiteral other → lower other = lower value →
        outcome context field "==" other = .ok same ∧
        outcome context field "!=" other = .ok !same ∧
        ∀ keyword : String, keyword.toList.map Char.toLower = equalsWord →
          outcome context field keyword other = .ok same) ∧
      (∃ above below atLeast atMost,
        outcome context field ">" value = .ok above ∧
        outcome context field "<" value = .ok below ∧
        outcome context field ">=" value = .ok atLeast ∧
        outcome context field "<=" value = .ok atMost ∧
        ¬(below = true ∧ atLeast = true) ∧ ¬(above = true ∧ atMost = true) ∧
        (below = true ∨ atLeast = true ↔ asNumber actual ≠ .nan ∧ asNumber (.str value) ≠ .nan) ∧
        (above = true ∨ atMost = true ↔ asNumber actual ≠ .nan ∧ asNumber (.str value) ≠ .nan) ∧
        (atMost = true ∧ atLeast = true ↔
          Binary64.SameNumber (asNumber actual) (asNumber (.str value))) ∧
        ((∀ number, actual = .float number → number.Representable) →
          (Binary64.SameNumber (asNumber actual) (asNumber (.str value)) ↔
            asNumber actual = asNumber (.str value) ∧ asNumber actual ≠ .nan ∨
              (asNumber actual).isZero = true ∧ (asNumber (.str value)).isZero = true)))) ∧
    (∀ text, parse? text = none → ∀ context, holds (parse? text) context = .ok false) := by
  refine ⟨?_, ?_, ?_⟩
  · intro absent operator
    rw [outcome_of_spells word literal (spells_symbol operator)]
    exact evaluate_of_absent (present?_eq_none_iff.mpr absent) operator value
  · intro actual filed given
    have found := present?_eq_some_iff.mpr ⟨filed, given⟩
    constructor
    · have known : (Json.str value).writable = true := rfl
      rcases Operator.sameText_of_writable (writable.get? filed) known with ⟨same, compared⟩
      refine ⟨same, ?_⟩
      intro other literalOther alike
      rw [← sameText_congr alike] at compared
      have outcomes {keyword : String} (spelt : keyword.toList.map Char.toLower = equalsWord) :=
        outcomes_of_sameText word literalOther spelt found compared
      have plain : "equals".toList.map Char.toLower = equalsWord := rfl
      exact ⟨(outcomes plain).1, (outcomes plain).2.2, fun keyword spelt => (outcomes spelt).2.1⟩
    · have outcomes := ordered_of_present word literal found
      refine ⟨_, _, _, _, outcomes.above, outcomes.below, outcomes.atLeast, outcomes.atMost,
        ?_, ?_, Binary64.lt_or_le_iff, ?_, Binary64.le_and_le_iff, ?_⟩
      · exact Binary64.not_lt_and_le
      · exact Binary64.not_lt_and_le
      · rw [and_comm]
        exact Binary64.lt_or_le_iff
      · intro sound
        exact Binary64.sameNumber_iff_of_representable (representable_asNumber sound)
          (representable_textNumber value)
  · intro text unread context
    rw [unread, holds]

theorem outcome_laws_riskScore :
    outcome [(.text "riskScore", .int 30)] "country" ">=" "30" = .ok false ∧
    ∃ same above atMost,
      outcome [(.text "riskScore", .int 30)] "riskScore" "==" "30" = .ok same ∧
      outcome [(.text "riskScore", .int 30)] "riskScore" "EQUALS" "30" = .ok same ∧
      outcome [(.text "riskScore", .int 30)] "riskScore" "!=" "30" = .ok !same ∧
      outcome [(.text "riskScore", .int 30)] "riskScore" ">" "30" = .ok above ∧
      outcome [(.text "riskScore", .int 30)] "riskScore" "<=" "30" = .ok atMost ∧
      ¬(above = true ∧ atMost = true) := by
  have writable : Context.Writable [(.text "riskScore", .int 30)] := by
    intro entry member
    rw [List.mem_singleton] at member
    rw [member]
    decide +kernel
  have literal : IsLiteral "30" := ⟨by decide, by decide, by decide⟩
  have score : IsWord "riskScore" := ⟨by decide, List.all_eq_true.mp (by decide)⟩
  have country : IsWord "country" := ⟨by decide, List.all_eq_true.mp (by decide)⟩
  rcases outcome_laws writable country literal with ⟨absent, _⟩
  rcases outcome_laws writable score literal with ⟨_, present, _⟩
  rcases present (.int 30) rfl Json.noConfusion with ⟨⟨same, equality⟩, order⟩
  rcases equality "30" literal rfl with ⟨equal, different, spelt⟩
  rcases order with ⟨above, _, _, atMost, more, _, _, less, _, apart, _⟩
  exact ⟨absent (Or.inl rfl) .atLeast, same, above, atMost, equal, spelt "EQUALS" (by decide),
    different, more, less, apart⟩

example :
    outcome [(.text "riskScore", .int 30)] "riskScore" "<=" "0x1E" = .ok true := by
  decide +kernel

end Condition
end WorkflowWalk
