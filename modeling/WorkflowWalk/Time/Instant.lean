import WorkflowWalk.Number.Binary64
import WorkflowWalk.Number.Numeral
import WorkflowWalk.Time.Calendar

/-!
# Points in time

A point in time is given by a local time and, if it is known, the distance of the local time from
universal time. Both are counted in microseconds. Points with and without that distance cannot be
compared with each other.
-/

namespace WorkflowWalk
namespace Time

/-- A point in time: the local time since the start of the year 1, and how far it is ahead of
universal time. -/
structure Instant where
  clock : Int
  offset : Option Int
deriving DecidableEq, Repr

def second : Nat := 1000000

def day : Nat := 86400 * second

namespace Instant

/-! ## Distances -/

inductive Fault
  | mixed
deriving DecidableEq, Repr

def Fault.message : Fault → String
  | .mixed => "can't subtract offset-naive and offset-aware datetimes"

def distance (start finish : Instant) : Except Fault Int :=
  match start.offset, finish.offset with
  | none, none => .ok (finish.clock - start.clock)
  | some before, some after => .ok ((finish.clock - after) - (start.clock - before))
  | _, _ => .error .mixed

/-- Microseconds as milliseconds: taken as seconds, times a thousand, to three places. -/
def milliseconds (microseconds : Int) : Binary64 :=
  ((Binary64.ofRatio (decide (microseconds < 0)) microseconds.natAbs second).scale 1000)
    |>.roundPlaces 3

def later (instant : Instant) (microseconds : Int) : Instant :=
  { instant with clock := instant.clock + microseconds }

/-! ## Text -/

def padded (width n : Nat) : String :=
  let digits := Nat.toDigits 10 n
  String.ofList (List.replicate (width - digits.length) '0' ++ digits)

def timeText (microseconds : Nat) (secondsNeeded : Bool) : String :=
  let seconds := microseconds / second
  let fraction := microseconds % second
  let hours := padded 2 (seconds / 3600) ++ ":" ++ padded 2 (seconds / 60 % 60)
  if secondsNeeded || seconds % 60 != 0 || fraction != 0 then
    hours ++ ":" ++ padded 2 (seconds % 60) ++
      if fraction = 0 then "" else "." ++ padded 6 fraction
  else
    hours

def offsetText : Option Int → String
  | none => ""
  | some offset => (if offset < 0 then "-" else "+") ++ timeText offset.natAbs false

def text (instant : Instant) : String :=
  let clock := instant.clock.toNat
  let date := Calendar.ofDayNumber (clock / day)
  padded 4 date.year ++ "-" ++ padded 2 date.month ++ "-" ++ padded 2 date.day ++ "T" ++
    timeText (clock % day) true ++ offsetText instant.offset

end Instant
end Time
end WorkflowWalk
