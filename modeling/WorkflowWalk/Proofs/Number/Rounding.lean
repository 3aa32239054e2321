import Mathlib.Algebra.Ring.Nat
import WorkflowWalk.Proofs.Number.Order

/-!
# Rounding to nearest

A quotient is rounded to the count of units that is nearest to it among those with 53 significant
bits, and of two that are equally near to the one whose last significant bit is 0. That alone says
how rounded quotients are ordered: rounding keeps the order, and leaves what needs no rounding as it
is. So integers of up to 53 bits compare as their roundings do, and the roundings of larger ones,
infinite or not, never compare the wrong way round.
-/

namespace WorkflowWalk

/-!
## Whole multiples
-/

def gap (num den factor : Nat) : Nat :=
  ((factor * den : Nat) - (num : Int)).natAbs

variable {num den factor : Nat}

/-- A quotient is rounded up past the middle between its two neighbours, and in the middle if the
lower one is odd. -/
def RoundsUp (num den : Nat) : Prop :=
  den < 2 * (num % den) ∨ 2 * (num % den) = den ∧ num / den % 2 = 1

theorem roundHalfEven_of_up (up : RoundsUp num den) :
    roundHalfEven num den = num / den + 1 :=
  if_pos up

theorem roundHalfEven_of_not_up (down : ¬RoundsUp num den) :
    roundHalfEven num den = num / den :=
  if_neg down

theorem mul_apart {other : Nat} (differs : factor ≠ other) (den : Nat) :
    factor * den + den ≤ other * den ∨ other * den + den ≤ factor * den := by
  rw [← Nat.succ_mul, ← Nat.succ_mul]
  rcases Nat.lt_or_gt_of_ne differs with less | more
  · exact Or.inl (Nat.mul_le_mul_right den less)
  · exact Or.inr (Nat.mul_le_mul_right den more)

/-- No multiple is nearer than the one that a quotient is rounded to, and another one is as near only
if the quotient has been rounded to an even one. -/
theorem gap_roundHalfEven
    (positive : 0 < den) (differs : factor ≠ roundHalfEven num den) :
    gap num den (roundHalfEven num den) ≤ gap num den factor ∧
      (gap num den factor = gap num den (roundHalfEven num den) →
        roundHalfEven num den % 2 = 0) := by
  have whole := Nat.div_add_mod' num den
  have rest := Nat.mod_lt num positive
  have apart := mul_apart differs den
  by_cases up : RoundsUp num den
  · rw [roundHalfEven_of_up up, Nat.succ_mul] at apart
    rw [roundHalfEven_of_up up, gap, gap, Nat.succ_mul]
    unfold RoundsUp at up
    omega
  · rw [roundHalfEven_of_not_up up] at apart ⊢
    rw [gap, gap]
    unfold RoundsUp at up
    omega

theorem gap_roundHalfEven_le (positive : 0 < den) (factor : Nat) :
    gap num den (roundHalfEven num den) ≤ gap num den factor := by
  by_cases same : factor = roundHalfEven num den
  · exact Nat.le_of_eq (congrArg (gap num den) same.symm)
  · exact (gap_roundHalfEven positive same).1

namespace Binary64

/-!
## Counts of units
-/

/-- A count of units has at most 53 significant bits. -/
def Fits (units : Nat) : Prop :=
  2 ^ spareBits units ∣ units

theorem spareBits_le_iff
    {units spare : Nat} (positive : units ≠ 0) :
    spareBits units ≤ spare ↔ units < 2 ^ (significantBits + spare) := by
  rw [← Nat.log2_lt positive, spareBits]
  have some : 0 < significantBits := by decide
  omega

theorem dvd_mul_pow
    {significand zeros : Nat} (few : significand ≤ 2 ^ significantBits) (zero : zeros ≤ 1)
    (ends : 2 ^ zeros ∣ significand) (spare : Nat) :
    2 ^ (spareBits (significand * 2 ^ spare) + zeros) ∣ significand * 2 ^ spare := by
  rcases Nat.eq_zero_or_pos significand with rfl | positive
  · rw [Nat.zero_mul]
    exact Nat.dvd_zero _
  have someUnits : significand * 2 ^ spare ≠ 0 :=
    Nat.mul_ne_zero (Nat.ne_of_gt positive) (Nat.ne_of_gt (Nat.two_pow_pos spare))
  rcases Nat.lt_or_eq_of_le few with less | rfl
  · have bits : spareBits (significand * 2 ^ spare) ≤ spare := by
      rw [spareBits_le_iff someUnits, Nat.pow_add]
      exact Nat.mul_lt_mul_of_pos_right less (Nat.two_pow_pos spare)
    rw [Nat.pow_add, Nat.mul_comm]
    exact Nat.mul_dvd_mul ends (Nat.pow_dvd_pow 2 bits)
  · -- A significand of 54 bits is a power of two, and its last bit counts as one more spare bit.
    rw [← Nat.pow_add] at someUnits ⊢
    have bits : spareBits (2 ^ (significantBits + spare)) ≤ spare + 1 := by
      rw [spareBits_le_iff someUnits]
      exact Nat.pow_lt_pow_right (by decide) (by omega)
    have several : 2 ≤ significantBits := by decide
    exact Nat.pow_dvd_pow 2 (by omega)

theorem fits_mul
    {significand : Nat} (few : significand ≤ 2 ^ significantBits) (spare : Nat) :
    Fits (significand * 2 ^ spare) :=
  dvd_mul_pow few (Nat.zero_le 1) (Nat.one_dvd _) spare

theorem le_of_spareBits
    {units : Nat} (some : 0 < spareBits units) :
    2 ^ (significantBits - 1 + spareBits units) ≤ units := by
  have positive : units ≠ 0 := by
    rintro rfl
    exact absurd some (by decide)
  have several : 1 ≤ significantBits := by decide
  rw [← Nat.le_log2 positive]
  unfold spareBits at some ⊢
  omega

theorem Fits.dvd
    {units spare : Nat} (fits : Fits units) (large : 2 ^ (significantBits - 1 + spare) ≤ units) :
    2 ^ spare ∣ units := by
  have bits : spare ≤ spareBits units := by
    have positive : units ≠ 0 := Nat.ne_of_gt (Nat.lt_of_lt_of_le (Nat.two_pow_pos _) large)
    have log := (Nat.le_log2 positive).mpr large
    unfold spareBits
    unfold significantBits at log ⊢
    omega
  exact Nat.dvd_trans (Nat.pow_dvd_pow 2 bits) fits

/-!
## The nearest count of units
-/

/-- A count of units is the one to which `num / den` is rounded. -/
structure IsNearest (num den units : Nat) : Prop where
  fits : Fits units
  near : ∀ other, Fits other → gap num den units ≤ gap num den other
  even : ∀ other, Fits other → other ≠ units → gap num den other = gap num den units →
    2 ^ (spareBits units + 1) ∣ units

theorem gap_mul (num den factor spacing : Nat) :
    gap num den (factor * spacing) = gap num (den * spacing) factor := by
  rw [gap, gap, Nat.mul_assoc, Nat.mul_comm spacing]

/-- Where rounding takes place, only whole multiples of the spacing matter: of a count of units that
is none, one of them is nearer. -/
theorem exists_multiple
    (num : Nat) {den units : Nat} (positive : 0 < den) (fits : Fits units) :
    ∃ factor, units = factor * 2 ^ spareBits (num / den) ∨
      gap num den (factor * 2 ^ spareBits (num / den)) < gap num den units := by
  rcases Nat.lt_or_ge units (2 ^ (significantBits - 1 + spareBits (num / den))) with less | large
  · rcases Nat.eq_zero_or_pos (spareBits (num / den)) with none | some
    · rw [none]
      exact ⟨units, Or.inl (Nat.mul_one _).symm⟩
    · refine ⟨2 ^ (significantBits - 1), Or.inr ?_⟩
      rw [← Nat.pow_add]
      have least : 2 ^ (significantBits - 1 + spareBits (num / den)) * den ≤ num :=
        (Nat.le_div_iff_mul_le positive).mp (le_of_spareBits some)
      have below := Nat.mul_lt_mul_of_pos_right less positive
      unfold gap
      omega
  · rcases fits.dvd large with ⟨factor, split⟩
    rw [Nat.mul_comm] at split
    exact ⟨factor, Or.inl split⟩

theorem roundHalfEven_le_significand (num den : Nat) :
    roundHalfEven num (den * 2 ^ spareBits (num / den)) ≤ 2 ^ significantBits := by
  have quotient : num / (den * 2 ^ spareBits (num / den)) < 2 ^ significantBits := by
    rw [← Nat.div_div_eq_div_mul, Nat.div_lt_iff_lt_mul (Nat.two_pow_pos _), ← Nat.pow_add]
    rcases Nat.eq_zero_or_pos (num / den) with none | some
    · rw [none]
      exact Nat.two_pow_pos _
    · exact (spareBits_le_iff (Nat.ne_of_gt some)).mp (Nat.le_refl _)
  exact Nat.le_trans (roundHalfEven_le_div_add_one _ _) quotient

/-- Rounding is rounding to nearest, and to even in the middle. -/
theorem roundUnits_isNearest (num : Nat) {den : Nat} (positive : 0 < den) :
    IsNearest num den (roundUnits num den) := by
  have spaced : 0 < den * 2 ^ spareBits (num / den) :=
    Nat.mul_pos positive (Nat.two_pow_pos _)
  have few := roundHalfEven_le_significand num den
  have made : gap num den (roundUnits num den) = gap num (den * 2 ^ spareBits (num / den))
      (roundHalfEven num (den * 2 ^ spareBits (num / den))) :=
    gap_mul num den _ _
  have least (factor : Nat) : gap num den (roundUnits num den) ≤
      gap num den (factor * 2 ^ spareBits (num / den)) := by
    rw [made, gap_mul]
    exact gap_roundHalfEven_le spaced factor
  constructor
  · exact fits_mul few _
  · intro other fits
    rcases exists_multiple num positive fits with ⟨factor, rfl | nearer⟩
    · exact least factor
    · exact Nat.le_trans (least factor) (Nat.le_of_lt nearer)
  · intro other fits differs same
    rcases exists_multiple num positive fits with ⟨factor, rfl | nearer⟩
    · rw [made, gap_mul] at same
      have apart : factor ≠ roundHalfEven num (den * 2 ^ spareBits (num / den)) := by
        rintro rfl
        exact differs rfl
      have even := (gap_roundHalfEven spaced apart).2 same
      exact dvd_mul_pow few (Nat.le_refl 1) (Nat.dvd_of_mod_eq_zero even) _
    · exact absurd same (Nat.ne_of_gt (Nat.lt_of_le_of_lt (least factor) nearer))

/-!
## Rounding and order
-/

theorem roundUnits_of_fits
    {units den : Nat} (fits : Fits units) (positive : 0 < den) :
    roundUnits (units * den) den = units := by
  have near := (roundUnits_isNearest (units * den) positive).near units fits
  unfold gap at near
  have same : roundUnits (units * den) den * den = units * den := by omega
  exact Nat.eq_of_mul_eq_mul_right positive same

theorem roundUnits_mono
    {num more den : Nat} (positive : 0 < den) (atMost : num ≤ more) :
    roundUnits num den ≤ roundUnits more den := by
  rcases Nat.lt_or_eq_of_le atMost with less | rfl
  · -- If not, each of the two would be nearer to what the other one is rounded to.
    apply Nat.le_of_not_lt
    intro crossed
    have near := roundUnits_isNearest num positive
    have nearMore := roundUnits_isNearest more positive
    have down := near.near _ nearMore.fits
    have up := nearMore.near _ near.fits
    have apart := Nat.mul_lt_mul_of_pos_right crossed positive
    unfold gap at down up
    omega
  · exact Nat.le_refl _

/-!
## Integers
-/

/-- The count of units by which the magnitude of an integer is compared. From a certain size on all
integers are infinite. -/
def magnitude (n : Nat) : Nat :=
  min (roundUnits (n * unitsPerOne) 1) overflowUnits

theorem rank_ofRatio (negative : Bool) (n : Nat) :
    (ofRatio negative n 1).rank? = some (signed negative (magnitude n)) := by
  unfold ofRatio magnitude
  by_cases small : roundUnits (n * unitsPerOne) 1 < overflowUnits
  · rw [if_pos small, Nat.min_eq_left (Nat.le_of_lt small)]
    rfl
  · rw [if_neg small, Nat.min_eq_right (Nat.le_of_not_lt small)]
    rfl

theorem magnitude_mono
    {n k : Nat} (atMost : n ≤ k) :
    magnitude n ≤ magnitude k := by
  have rounded : roundUnits (n * unitsPerOne) 1 ≤ roundUnits (k * unitsPerOne) 1 :=
    roundUnits_mono Nat.one_pos (Nat.mul_le_mul_right unitsPerOne atMost)
  unfold magnitude
  omega

theorem fits_mul_unitsPerOne
    {significand : Nat} (few : significand ≤ 2 ^ significantBits) :
    Fits (significand * unitsPerOne) := by
  unfold unitsPerOne
  generalize 1074 = places
  exact fits_mul few places

theorem mul_unitsPerOne_le
    {significand : Nat} (few : significand ≤ 2 ^ significantBits) :
    significand * unitsPerOne ≤ overflowUnits := by
  have room : significantBits + 1074 ≤ 2098 := by decide
  unfold unitsPerOne overflowUnits
  generalize 1074 = places at room ⊢
  generalize 2098 = reach at room ⊢
  calc
    significand * 2 ^ places ≤ 2 ^ significantBits * 2 ^ places := Nat.mul_le_mul_right _ few
    _ = 2 ^ (significantBits + places) := (Nat.pow_add ..).symm
    _ ≤ 2 ^ reach := Nat.pow_le_pow_right (by decide) room

theorem magnitude_of_le
    {n : Nat} (few : n ≤ 2 ^ significantBits) :
    magnitude n = n * unitsPerOne := by
  have kept := roundUnits_of_fits (fits_mul_unitsPerOne few) Nat.one_pos
  rw [Nat.mul_one] at kept
  rw [magnitude, kept, Nat.min_eq_left (mul_unitsPerOne_le few)]

theorem magnitude_zero : magnitude 0 = 0 := by
  rw [magnitude_of_le (Nat.zero_le _), Nat.zero_mul]

def integerRank (n : Int) : Int :=
  signed (decide (n < 0)) (magnitude n.natAbs)

theorem rank_ofInt (n : Int) :
    (ofInt n).rank? = some (integerRank n) :=
  rank_ofRatio _ _

theorem integerRank_natCast (n : Nat) :
    integerRank n = magnitude n := by
  rw [integerRank, decide_eq_false (by omega), signed_false, Int.natAbs_natCast]

theorem integerRank_neg_natCast (n : Nat) :
    integerRank (-n) = -magnitude n := by
  rcases Nat.eq_zero_or_pos n with rfl | positive
  · rw [Int.natCast_zero, Int.neg_zero, ← Int.natCast_zero, integerRank_natCast, magnitude_zero]
    rfl
  · rw [integerRank, decide_eq_true (by omega), signed_true, Int.natAbs_neg,
      Int.natAbs_natCast]

theorem integerRank_mono
    {n k : Int} (atMost : n ≤ k) :
    integerRank n ≤ integerRank k := by
  rcases Int.eq_nat_or_neg n with ⟨a, rfl | rfl⟩ <;> rcases Int.eq_nat_or_neg k with ⟨b, rfl | rfl⟩
  · rw [integerRank_natCast, integerRank_natCast]
    exact Int.ofNat_le.mpr (magnitude_mono (Int.ofNat_le.mp atMost))
  · have noughts : a = 0 ∧ b = 0 := by omega
    rw [integerRank_natCast, integerRank_neg_natCast, noughts.1, noughts.2, magnitude_zero]
    decide
  · rw [integerRank_neg_natCast, integerRank_natCast]
    omega
  · rw [integerRank_neg_natCast, integerRank_neg_natCast]
    exact Int.neg_le_neg (Int.ofNat_le.mpr (magnitude_mono (by omega)))

theorem integerRank_of_le
    {n : Int} (few : n.natAbs ≤ 2 ^ significantBits) :
    integerRank n = n * unitsPerOne := by
  rcases Int.eq_nat_or_neg n with ⟨m, rfl | rfl⟩
  · rw [Int.natAbs_natCast] at few
    rw [integerRank_natCast, magnitude_of_le few, Int.natCast_mul]
  · rw [Int.natAbs_neg, Int.natAbs_natCast] at few
    rw [integerRank_neg_natCast, magnitude_of_le few, Int.natCast_mul, Int.neg_mul]

theorem unitsPerOne_pos : 0 < unitsPerOne := by
  unfold unitsPerOne
  apply Nat.pow_pos
  decide

theorem integerRank_lt_iff
    {n k : Int} (few : n.natAbs ≤ 2 ^ significantBits) (fewToo : k.natAbs ≤ 2 ^ significantBits) :
    integerRank n < integerRank k ↔ n < k := by
  have positive : (0 : Int) < unitsPerOne := Int.natCast_pos.mpr unitsPerOne_pos
  rw [integerRank_of_le few, integerRank_of_le fewToo]
  exact Int.mul_lt_mul_right positive

theorem integerRank_le_iff
    {n k : Int} (few : n.natAbs ≤ 2 ^ significantBits) (fewToo : k.natAbs ≤ 2 ^ significantBits) :
    integerRank n ≤ integerRank k ↔ n ≤ k := by
  rw [← Int.not_lt, integerRank_lt_iff fewToo few, Int.not_lt]

end Binary64
end WorkflowWalk
