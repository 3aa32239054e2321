import WorkflowWalk.Number.Rounding

/-!
# Binary floating point numbers

The finite numbers of the 64-bit binary format are whole multiples of two to the power -1074, so a
finite number is kept as a sign and a count of such units. Comparing two of them is comparing two
integers, and a result is rounded by rounding its count to 53 significant bits.
-/

namespace WorkflowWalk

/-- A number of the 64-bit binary format. -/
inductive Binary64
  | nan
  | infinite (negative : Bool)
  | finite (negative : Bool) (units : Nat)
deriving DecidableEq, Repr, Inhabited

namespace Binary64

def unitsPerOne : Nat := Nat.pow 2 1074

/-- The least count of units that is too large to be finite. -/
def overflowUnits : Nat := Nat.pow 2 2098

def significantBits : Nat := 53

/-! ## Rounding -/

/-- The bits that a count of units has beyond the significant ones. -/
def spareBits (units : Nat) : Nat :=
  units.log2 + 1 - significantBits

/-- The count of units nearest to `num / den` that has 53 significant bits. -/
def roundUnits (num den : Nat) : Nat :=
  let spacing := Nat.pow 2 (spareBits (num / den))
  roundHalfEven num (den * spacing) * spacing

def ofRatio (negative : Bool) (num den : Nat) : Binary64 :=
  let units := roundUnits (num * unitsPerOne) den
  if units < overflowUnits then .finite negative units else .infinite negative

/-- The number nearest to an integer; an integer that is too large becomes infinite. -/
def ofInt (n : Int) : Binary64 :=
  ofRatio (decide (n < 0)) n.natAbs 1

/-- The exponents beyond which a decimal is certainly too large or too small. -/
def decimalReach : Nat := 400

/-- The number nearest to `digits · 10 ^ exponent`. Exponents far out of range are not multiplied
out. -/
def ofDecimal (negative : Bool) (digits : Nat) (exponent : Int) : Binary64 :=
  if digits = 0 then
    .finite negative 0
  else if (decimalReach : Int) < exponent then
    .infinite negative
  else if exponent + (digits.log2 / 3 : Nat) + 1 < -(decimalReach : Int) then
    .finite negative 0
  else
    match exponent with
    | .ofNat e => ofRatio negative (digits * Nat.pow 10 e) 1
    | .negSucc e => ofRatio negative digits (Nat.pow 10 (e + 1))

/-! ## Order -/

/-- The count of units with its sign; the infinities are put beyond all finite numbers. -/
def rank? : Binary64 → Option Int
  | .nan => none
  | .infinite negative => some (if negative then -overflowUnits else overflowUnits)
  | .finite negative units => some (if negative then -(units : Int) else units)

/-- Less than. Nothing compares with the number that is none. -/
def lt (left right : Binary64) : Bool :=
  match rank? left, rank? right with
  | some a, some b => decide (a < b)
  | _, _ => false

def le (left right : Binary64) : Bool :=
  match rank? left, rank? right with
  | some a, some b => decide (a ≤ b)
  | _, _ => false

/-! ## Whole part -/

def truncate? : Binary64 → Option Int
  | .finite negative units =>
      let whole : Int := (units / unitsPerOne : Nat)
      some (if negative then -whole else whole)
  | _ => none

def isWhole : Binary64 → Bool
  | .finite _ units => units % unitsPerOne == 0
  | _ => false

def isFinite : Binary64 → Bool
  | .finite .. => true
  | _ => false

def isZero : Binary64 → Bool
  | .finite _ units => units == 0
  | _ => false

/-! ## Arithmetic -/

def scale (factor : Nat) : Binary64 → Binary64
  | .finite negative units => ofRatio negative (units * factor) unitsPerOne
  | other => other

/-- The number rounded to a number of decimal places: first the exact value to that many places, a
half to even, then the decimal to the nearest number. -/
def roundPlaces (places : Nat) : Binary64 → Binary64
  | .finite negative units =>
      ofRatio negative (roundHalfEven (units * Nat.pow 10 places) unitsPerOne)
        (Nat.pow 10 places)
  | other => other

end Binary64
end WorkflowWalk
