/-!
# Rounding a quotient

A quotient of natural numbers is rounded to the nearest natural number, and a half to the even
one of its two neighbours.
-/

namespace WorkflowWalk

/-- The natural number nearest to `num / den`, a half going to the even neighbour. -/
def roundHalfEven (num den : Nat) : Nat :=
  let low := num / den
  let twice := 2 * (num % den)
  if den < twice ∨ (twice = den ∧ low % 2 = 1) then low + 1 else low

theorem div_le_roundHalfEven
    (num den : Nat) :
    num / den ≤ roundHalfEven num den := by
  unfold roundHalfEven
  dsimp only
  split
  · omega
  · exact Nat.le_refl _

theorem roundHalfEven_le_div_add_one
    (num den : Nat) :
    roundHalfEven num den ≤ num / den + 1 := by
  unfold roundHalfEven
  dsimp only
  split
  · exact Nat.le_refl _
  · omega

theorem roundHalfEven_mul
    (value den : Nat) (positive : 0 < den) :
    roundHalfEven (value * den) den = value := by
  simp [roundHalfEven, Nat.mul_div_cancel _ positive]
  omega

end WorkflowWalk
