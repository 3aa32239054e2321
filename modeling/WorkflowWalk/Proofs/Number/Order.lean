import WorkflowWalk.Number.Binary64

/-!
# The order of floating point numbers

Numbers are compared by their ranks. The number that is none has no rank and compares with nothing;
any two others compare one way or the other, and both ways only if they are the same number.
-/

namespace WorkflowWalk
namespace Binary64

variable {left right : Binary64}

/-- Two numbers have one rank. Both of the zeros are the same number, and what is no number is not
even the same as itself. -/
def SameNumber (left right : Binary64) : Prop :=
  ∃ rank, left.rank? = some rank ∧ right.rank? = some rank

theorem exists_rank
    (number : left ≠ .nan) :
    ∃ rank, left.rank? = some rank := by
  cases left with
  | nan =>
      exact absurd rfl number
  | infinite _ | finite _ _ =>
      exact ⟨_, rfl⟩

theorem ne_nan_of_rank
    {rank : Int} (ranked : left.rank? = some rank) :
    left ≠ .nan := by
  intro none
  rw [none] at ranked
  cases ranked

/-!
## Comparisons
-/

theorem lt_eq_true_iff :
    left.lt right = true ↔ ∃ a b, left.rank? = some a ∧ right.rank? = some b ∧ a < b := by
  unfold lt
  cases left.rank? with
  | none =>
      simp
  | some a =>
      cases right.rank? with
      | none =>
          simp
      | some b =>
          simp

theorem le_eq_true_iff :
    left.le right = true ↔ ∃ a b, left.rank? = some a ∧ right.rank? = some b ∧ a ≤ b := by
  unfold le
  cases left.rank? with
  | none =>
      simp
  | some a =>
      cases right.rank? with
      | none =>
          simp
      | some b =>
          simp

theorem lt_of_ranks
    {a b : Int} (first : left.rank? = some a) (second : right.rank? = some b) :
    left.lt right = decide (a < b) := by
  rw [lt, first, second]

theorem le_of_ranks
    {a b : Int} (first : left.rank? = some a) (second : right.rank? = some b) :
    left.le right = decide (a ≤ b) := by
  rw [le, first, second]

theorem lt_congr
    {one another : Binary64} (first : left.rank? = one.rank?)
    (second : right.rank? = another.rank?) :
    left.lt right = one.lt another := by
  rw [lt, lt, first, second]

theorem le_congr
    {one another : Binary64} (first : left.rank? = one.rank?)
    (second : right.rank? = another.rank?) :
    left.le right = one.le another := by
  rw [le, le, first, second]

theorem le_eq_false_of_lt
    (less : left.lt right = true) :
    right.le left = false := by
  rcases lt_eq_true_iff.mp less with ⟨a, b, rankLeft, rankRight, below⟩
  rw [← Bool.not_eq_true, le_eq_true_iff]
  intro atMost
  rcases atMost with ⟨c, d, rankRight', rankLeft', above⟩
  rw [rankLeft] at rankLeft'
  rw [rankRight] at rankRight'
  cases rankLeft'
  cases rankRight'
  omega

theorem not_lt_and_le : ¬(left.lt right = true ∧ right.le left = true) := by
  intro both
  rw [le_eq_false_of_lt both.1] at both
  cases both.2

theorem lt_or_le_iff :
    left.lt right = true ∨ right.le left = true ↔ left ≠ .nan ∧ right ≠ .nan := by
  constructor
  · intro compared
    rcases compared with less | atMost
    · rcases lt_eq_true_iff.mp less with ⟨_, _, rankLeft, rankRight, _⟩
      exact ⟨ne_nan_of_rank rankLeft, ne_nan_of_rank rankRight⟩
    · rcases le_eq_true_iff.mp atMost with ⟨_, _, rankRight, rankLeft, _⟩
      exact ⟨ne_nan_of_rank rankLeft, ne_nan_of_rank rankRight⟩
  · intro numbers
    rcases numbers with ⟨numberLeft, numberRight⟩
    rcases exists_rank numberLeft with ⟨a, rankLeft⟩
    rcases exists_rank numberRight with ⟨b, rankRight⟩
    by_cases below : a < b
    · exact Or.inl (lt_eq_true_iff.mpr ⟨a, b, rankLeft, rankRight, below⟩)
    · exact Or.inr (le_eq_true_iff.mpr ⟨b, a, rankRight, rankLeft, by omega⟩)

theorem le_and_le_iff :
    left.le right = true ∧ right.le left = true ↔ SameNumber left right := by
  constructor
  · intro both
    rcases both with ⟨atMost, atLeast⟩
    rcases le_eq_true_iff.mp atMost with ⟨a, b, rankLeft, rankRight, below⟩
    rcases le_eq_true_iff.mp atLeast with ⟨c, d, rankRight', rankLeft', above⟩
    rw [rankLeft] at rankLeft'
    rw [rankRight] at rankRight'
    cases rankLeft'
    cases rankRight'
    have same : b = a := by omega
    exact ⟨a, rankLeft, same ▸ rankRight⟩
  · intro same
    rcases same with ⟨rank, rankLeft, rankRight⟩
    constructor
    · exact le_eq_true_iff.mpr ⟨rank, rank, rankLeft, rankRight, Int.le_refl rank⟩
    · exact le_eq_true_iff.mpr ⟨rank, rank, rankRight, rankLeft, Int.le_refl rank⟩

/-!
## Numbers of the format

Below the least count of units that is too large, ranks tell numbers apart, but for the two zeros.
-/

/-- The magnitude of a finite number is one that a finite number can have. -/
def Representable (number : Binary64) : Prop :=
  ∀ negative units, number = .finite negative units → units < overflowUnits

theorem overflowUnits_pos : 0 < overflowUnits := by
  unfold overflowUnits
  apply Nat.pow_pos
  decide

theorem representable_zero (negative : Bool) :
    (finite negative 0).Representable := by
  intro sign units same
  cases same
  exact overflowUnits_pos

theorem representable_infinite (negative : Bool) :
    (infinite negative).Representable := by
  intro sign units same
  cases same

theorem representable_nan : nan.Representable := by
  intro sign units same
  cases same

theorem representable_ofRatio (negative : Bool) (num den : Nat) :
    (ofRatio negative num den).Representable := by
  intro sign units made
  unfold ofRatio at made
  rcases Nat.lt_or_ge (roundUnits (num * unitsPerOne) den) overflowUnits with small | large
  · rw [if_pos small] at made
    cases made
    exact small
  · rw [if_neg (Nat.not_lt_of_le large)] at made
    cases made

theorem representable_ofInt (n : Int) :
    (ofInt n).Representable := by
  unfold ofInt
  exact representable_ofRatio (decide (n < 0)) n.natAbs 1

theorem representable_ofDecimal (negative : Bool) (digits : Nat) (exponent : Int) :
    (ofDecimal negative digits exponent).Representable := by
  unfold ofDecimal
  by_cases none : digits = 0
  · rw [if_pos none]
    exact representable_zero negative
  · rw [if_neg none]
    by_cases large : (decimalReach : Int) < exponent
    · rw [if_pos large]
      exact representable_infinite negative
    · rw [if_neg large]
      by_cases small : exponent + (digits.log2 / 3 : Nat) + 1 < -(decimalReach : Int)
      · rw [if_pos small]
        exact representable_zero negative
      · rw [if_neg small]
        cases exponent with
        | ofNat e =>
            exact representable_ofRatio negative (digits * Nat.pow 10 e) 1
        | negSucc e =>
            exact representable_ofRatio negative digits (Nat.pow 10 (e + 1))

def signed (negative : Bool) (units : Nat) : Int :=
  if negative then -(units : Int) else units

@[simp] theorem signed_true (units : Nat) :
    signed true units = -(units : Int) :=
  if_pos rfl

@[simp] theorem signed_false (units : Nat) :
    signed false units = units :=
  if_neg Bool.false_ne_true

theorem signed_eq_signed_iff
    {negative other : Bool} {units more : Nat} :
    signed negative units = signed other more ↔
      negative = other ∧ units = more ∨ units = 0 ∧ more = 0 := by
  unfold signed
  cases negative <;> cases other <;> simp <;> omega

theorem sameNumber_iff_of_ranks
    {negative other : Bool} {units more : Nat} (first : left.rank? = some (signed negative units))
    (second : right.rank? = some (signed other more)) :
    SameNumber left right ↔ negative = other ∧ units = more ∨ units = 0 ∧ more = 0 := by
  rw [← signed_eq_signed_iff, SameNumber, first, second]
  constructor
  · intro ranked
    rcases ranked with ⟨rank, one, two⟩
    exact (Option.some.inj one).trans (Option.some.inj two).symm
  · intro same
    exact ⟨_, rfl, congrArg some same.symm⟩

theorem not_sameNumber_nan_left : ¬SameNumber .nan right := by
  intro ranked
  rcases ranked with ⟨_, one, _⟩
  cases one

theorem not_sameNumber_nan_right : ¬SameNumber left .nan := by
  intro ranked
  rcases ranked with ⟨_, _, two⟩
  cases two

theorem rank_infinite (negative : Bool) :
    (infinite negative).rank? = some (signed negative overflowUnits) :=
  rfl

theorem rank_finite (negative : Bool) (units : Nat) :
    (finite negative units).rank? = some (signed negative units) :=
  rfl

theorem sameNumber_iff_of_representable
    (soundLeft : left.Representable) (soundRight : right.Representable) :
    SameNumber left right ↔
      left = right ∧ left ≠ .nan ∨ left.isZero = true ∧ right.isZero = true := by
  have positive := overflowUnits_pos
  cases left with
  | nan =>
      simp [not_sameNumber_nan_left, isZero]
  | infinite negative =>
      cases right with
      | nan =>
          simp [not_sameNumber_nan_right, isZero]
      | infinite other =>
          rw [sameNumber_iff_of_ranks (rank_infinite negative) (rank_infinite other)]
          simp [isZero, Nat.ne_of_gt positive]
      | finite other units =>
          have small := soundRight other units rfl
          rw [sameNumber_iff_of_ranks (rank_infinite negative) (rank_finite other units)]
          simp [isZero, Nat.ne_of_gt positive, Nat.ne_of_gt small]
  | finite negative units =>
      have small := soundLeft negative units rfl
      cases right with
      | nan =>
          simp [not_sameNumber_nan_right, isZero]
      | infinite other =>
          rw [sameNumber_iff_of_ranks (rank_finite negative units) (rank_infinite other)]
          simp [isZero, Nat.ne_of_gt positive, Nat.ne_of_lt small]
      | finite other more =>
          rw [sameNumber_iff_of_ranks (rank_finite negative units) (rank_finite other more)]
          simp [isZero]

end Binary64
end WorkflowWalk
