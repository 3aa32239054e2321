import WorkflowWalk.Number.Binary64

/-!
# Shortest decimals

A finite number is written with the fewest digits that read back as the same number, and of the
decimals with that many digits with the nearest one.

The decimals that read back are those between the midpoints to the two neighbouring numbers, the
midpoints included when the last significant bit is 0. All comparisons are exact: a count of units
times five to the power 1074 is the number of decimal places of order -1074.
-/

namespace WorkflowWalk
namespace Binary64

def decimalPlaces : Nat := 1074

structure Decimal where
  digits : Nat
  exponent : Int
deriving DecidableEq, Repr

/-- The decimals that read back, in quarters of a unit. -/
structure Interval where
  low : Nat
  high : Nat
  closed : Bool

/-- The decimals that read back as a given count of units. Below a power of two the numbers lie
twice as close. -/
def interval (units : Nat) : Interval :=
  let spare := spareBits units
  let spacing := Nat.pow 2 spare
  let below := if 0 < spare && units == Nat.pow 2 (significantBits - 1 + spare) then spacing else 2 * spacing
  { low := 4 * units - below
    high := 4 * units + 2 * spacing
    closed := units / spacing % 2 == 0 }

/-- Whether a number of decimal places of order -1074 lies in the interval. -/
def Interval.holds (range : Interval) (places : Nat) : Bool :=
  let quarters := 4 * places
  let scale := Nat.pow 5 decimalPlaces
  if range.closed then range.low * scale ≤ quarters && quarters ≤ range.high * scale
  else range.low * scale < quarters && quarters < range.high * scale

/-- The nearer of the two multiples of `10 ^ order` about `places` that reads back. -/
def onGrid? (range : Interval) (places order : Nat) : Option Decimal :=
  let step := Nat.pow 10 order
  let low := places / step
  let high := low + 1
  let exponent : Int := (order : Int) - decimalPlaces
  let past := places - low * step
  let short := high * step - places
  match range.holds (low * step), range.holds (high * step) with
  | true, true =>
      some ⟨if past < short || (past == short && low % 2 == 0) then low else high, exponent⟩
  | true, false => some ⟨low, exponent⟩
  | false, true => some ⟨high, exponent⟩
  | false, false => none

def Decimal.trim : Nat → Decimal → Decimal
  | 0, decimal => decimal
  | fuel + 1, decimal =>
      if decimal.digits % 10 = 0 then
        Decimal.trim fuel ⟨decimal.digits / 10, decimal.exponent + 1⟩
      else
        decimal

def enoughDigits : Nat := 17

/-- The decimal with the fewest digits that reads back as a positive count of units. -/
def shortest (units : Nat) : Decimal :=
  let places := units * Nat.pow 5 decimalPlaces
  let length := (Nat.toDigits 10 places).length
  let range := interval units
  let found := (List.range enoughDigits).findSome? fun fewer =>
    onGrid? range places (length - (fewer + 1))
  (found.getD ⟨places, -(decimalPlaces : Int)⟩).trim enoughDigits

/-! ## Layout -/

structure Names where
  nan : String
  infinity : String

/-- The decimal exponents from which on, and below which, a number is written with an exponent. -/
def positionalEnd : Int := 16

def positionalStart : Int := -4

/-- A decimal as text: without exponent with a digit on either side of the point, or one digit, the
others as a fraction, and a signed exponent of at least two digits. -/
def Decimal.text (decimal : Decimal) : String :=
  let digits := Nat.toDigits 10 decimal.digits
  let leading : Int := digits.length + decimal.exponent - 1
  if positionalStart ≤ leading ∧ leading < positionalEnd then
    if leading < 0 then
      String.ofList (['0', '.'] ++ List.replicate (-leading - 1).toNat '0' ++ digits)
    else
      let whole := leading.toNat + 1
      let fraction := digits.drop whole
      String.ofList
        (digits.take whole ++ List.replicate (whole - digits.length) '0' ++ ['.'] ++
          if fraction.isEmpty then ['0'] else fraction)
  else
    let fraction := digits.drop 1
    let exponent := Nat.toDigits 10 leading.natAbs
    String.ofList
      (digits.take 1 ++ (if fraction.isEmpty then [] else '.' :: fraction) ++
        ['e', if leading < 0 then '-' else '+'] ++
        List.replicate (2 - exponent.length) '0' ++ exponent)

def text (names : Names) : Binary64 → String
  | .nan => names.nan
  | .infinite negative => (if negative then "-" else "") ++ names.infinity
  | .finite negative units =>
      (if negative then "-" else "") ++ if units = 0 then "0.0" else (shortest units).text

end Binary64
end WorkflowWalk
