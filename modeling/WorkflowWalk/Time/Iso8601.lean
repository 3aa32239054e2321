import WorkflowWalk.Text.DecimalDigit
import WorkflowWalk.Text.Point
import WorkflowWalk.Time.Instant

/-!
# Reading points in time

A date is written with or without hyphens, by month and day or by week and day of the week. One
character, whichever it is, separates it from the time of day, which may be left out. A time of day
is written with or without colons and may end after the hours, the minutes or the seconds; behind
the seconds a fraction may stand, of which six digits count. A distance from universal time may
follow: `Z`, or a sign and a time of day.

The text is read byte by byte, so half of a surrogate pair can only stand between the date and the
time of day. The reader is lenient about what stands between the time of day and
the distance: once the time of day is complete, a character that is not understood there is skipped.
-/

namespace WorkflowWalk
namespace Time
namespace Iso8601

open Text

/-! ## Bytes -/

abbrev Bytes := List Nat

def code (c : Char) : Nat := c.toNat

/-- The byte at the start, 0 at the end of the text. -/
def peek (bytes : Bytes) : Nat :=
  bytes.head?.getD 0

def isDigit (byte : Nat) : Bool :=
  code '0' ≤ byte && byte ≤ code '9'

def digits? : Nat → Bytes → Option (Nat × Bytes)
  | 0, bytes => some (0, bytes)
  | count + 1, bytes =>
      match bytes with
      | byte :: rest =>
          if isDigit byte then
            (digits? count rest).map fun (value, left) =>
              ((byte - code '0') * Nat.pow 10 count + value, left)
          else
            none
      | [] => none

/-! ## Dates -/

/-- Where a date by week without hyphens ends: the digits behind it decide whether the day of the
week is among them. -/
def weekEnd (bytes : Bytes) : Nat :=
  let stop := 7 + ((bytes.drop 7).takeWhile isDigit).length
  if stop < 9 then stop
  else if stop % 2 = 0 then 7
  else 8

def dateLength (bytes : Bytes) : Nat :=
  let byteAt (position : Nat) : Nat := peek (bytes.drop position)
  if bytes.length = 7 then 7
  else if byteAt 4 = code '-' then
    if byteAt 5 = code 'W' then
      if 8 < bytes.length ∧ byteAt 8 = code '-' then
        if 10 < bytes.length ∧ isDigit (byteAt 10) = true then 8 else 10
      else
        8
    else
      10
  else if byteAt 4 = code 'W' then weekEnd bytes
  else 8

/-- Skips a hyphen if hyphens are used; where they are used it has to be there. -/
def hyphen? (used : Bool) (bytes : Bytes) : Option Bytes :=
  if used then
    if peek bytes = code '-' then some (bytes.drop 1) else none
  else
    some bytes

/-- Reads the week and the day of the week; the day may be missing and is then Monday. `length` is
how many bytes of the date are left. -/
def week? (year : Nat) (hyphens : Bool) (length : Nat) (bytes : Bytes) : Option Date := do
  let (week, rest) ← digits? 2 bytes
  if length ≤ 2 then
    Calendar.ofWeek? year week 1
  else
    let rest ← hyphen? hyphens rest
    let (day, _) ← digits? 1 rest
    Calendar.ofWeek? year week day

def date? (length : Nat) (bytes : Bytes) : Option Date := do
  let (year, rest) ← digits? 4 bytes
  let hyphens := peek rest = code '-'
  let rest := if hyphens then rest.drop 1 else rest
  if peek rest = code 'W' then
    week? year hyphens (length - (if hyphens then 6 else 5)) (rest.drop 1)
  else
    let (month, rest) ← digits? 2 rest
    let rest ← hyphen? hyphens rest
    let (day, _) ← digits? 2 rest
    let date : Date := ⟨year, month, day⟩
    if Calendar.isDate date then some date else none

/-! ## Times of day -/

structure Parts where
  hour : Nat
  minute : Nat
  second : Nat
  microsecond : Nat

def Parts.total (parts : Parts) : Nat :=
  ((parts.hour * 60 + parts.minute) * 60 + parts.second) * Time.second + parts.microsecond

def Parts.inDay (parts : Parts) : Bool :=
  parts.hour < 24 && parts.minute < 60 && parts.second < 60

/-- Reads a fraction; `left` bytes are left of the time of day. The result says whether the whole
text was read. -/
def fraction? (hour minute second left : Nat) (bytes : Bytes) : Option (Parts × Bool) := do
  let count := min left 6
  let (value, rest) ← digits? count bytes
  let parts : Parts := ⟨hour, minute, second, value * Nat.pow 10 (6 - count)⟩
  some (parts, peek (rest.dropWhile isDigit) = 0)

inductive Follow
  | stop (complete : Bool)
  | number (left : Nat) (bytes : Bytes)
  | fraction (left : Nat) (bytes : Bytes)

def follow? (colons : Bool) (left : Nat) (bytes : Bytes) : Option Follow :=
  let next := peek bytes
  let rest := bytes.drop 1
  if left ≤ 1 then some (.stop (next = 0))
  else if colons ∧ next = code ':' then some (.number (left - 1) rest)
  else if next = code '.' ∨ next = code ',' then some (.fraction (left - 1) rest)
  else if !colons then some (.number left bytes)
  else none

/-- Reads a time of day that takes `length` bytes. The result says whether the text ends there. -/
def parts? (length : Nat) (bytes : Bytes) : Option (Parts × Bool) := do
  let (hour, rest) ← digits? 2 bytes
  let colons := peek rest = code ':'
  match ← follow? colons (length - 2) rest with
  | .stop complete => some (⟨hour, 0, 0, 0⟩, complete)
  | .fraction left rest => fraction? hour 0 0 left rest
  | .number left rest =>
      let (minute, rest) ← digits? 2 rest
      match ← follow? colons (left - 2) rest with
      | .stop complete => some (⟨hour, minute, 0, 0⟩, complete)
      | .fraction left rest => fraction? hour minute 0 left rest
      | .number left rest =>
          let (second, rest) ← digits? 2 rest
          match ← follow? colons (left - 2) rest with
          | .stop complete => some (⟨hour, minute, second, 0⟩, complete)
          | .fraction left rest => fraction? hour minute second left rest
          | .number left rest => fraction? hour minute second left rest

def beginsOffset (byte : Nat) : Bool :=
  byte == code '+' || byte == code '-' || byte == code 'Z'

/-- The distance that a sign and a time of day give. Without whole seconds there is none, and a day
is too far. -/
def offset? (ahead : Bool) (parts : Parts) : Option Int :=
  if parts.total < Time.second then some 0
  else if parts.total < Time.day then some (if ahead then parts.total else -parts.total)
  else none

def time? (bytes : Bytes) : Option (Parts × Option Int) := do
  let length := (bytes.takeWhile (!beginsOffset ·)).length
  let (parts, complete) ← parts? length bytes
  match bytes.drop length with
  | [] => if complete then some (parts, none) else none
  | sign :: rest =>
      if sign = code 'Z' then
        if peek rest = 0 then some (parts, some 0) else none
      else
        let (distance, complete) ← parts? rest.length rest
        if complete then
          let offset ← offset? (sign = code '+') distance
          some (parts, some offset)
        else
          none

/-! ## Points in time -/

def charLength (byte : Nat) : Nat :=
  if byte < 0x80 then 1
  else if byte / 16 = 0xE then 3
  else if byte / 16 = 0xF then 4
  else 2

def separators : List Nat := [7, 8, 10]

/-- The code points of a text with another separator if half of a surrogate pair separates. -/
def separated (ps : List Point) : List Point :=
  match separators.find? fun place => (ps[place]?.map Point.isHalf).getD false with
  | some place => ps.set place (.char 'T')
  | none => ps

def read? (text : String) : Option Instant := do
  let ps := separated (points text.toList)
  if ps.length < 7 ∨ ps.any Point.isHalf then
    none
  else
    let bytes := (String.ofList (ps.map Point.toChar)).toUTF8.toList.map UInt8.toNat
    let length := dateLength bytes
    let date ← date? length bytes
    let rest := bytes.drop length
    let (parts, offset) ←
      if rest.isEmpty then some (⟨0, 0, 0, 0⟩, none)
      else time? (rest.drop (charLength (peek rest)))
    if parts.inDay then
      some ⟨(Calendar.dayNumber date * day : Nat) + (parts.total : Nat), offset⟩
    else
      none

end Iso8601
end Time
end WorkflowWalk
