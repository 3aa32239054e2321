import WorkflowWalk.Number.Binary64
import WorkflowWalk.Text.Blank
import WorkflowWalk.Text.DecimalDigit
import WorkflowWalk.Text.Point

/-!
# Numerals

Texts of numbers. Decimal texts of integers are limited to 4300 digits in both directions; a longer
one is a fault, which is reported and never cut.

Integers and floating point numbers given by a user may stand between blanks, may have single
underscores between digits and may use the digits of any script.
-/

namespace WorkflowWalk
namespace Numeral

open Text

/-- The most digits that the decimal text of an integer may have. -/
def digitLimit : Nat := 4300

/-- The least natural number whose decimal text is too long. -/
def unwritable : Nat := Nat.pow 10 digitLimit

/-- Why a value has no text, a text no value or a text no bytes: a decimal text of an integer is
beyond the limit, or a text holds halves of surrogate pairs. -/
inductive Fault
  | tooLongToWrite
  | tooLongToRead (digits : Nat)
  | unpaired (halves : Unpaired)
deriving DecidableEq, Repr

def Fault.message : Fault → String
  | .tooLongToWrite =>
      "Exceeds the limit (4300 digits) for integer string conversion; " ++
        "use sys.set_int_max_str_digits() to increase the limit"
  | .tooLongToRead digits =>
      "Exceeds the limit (4300 digits) for integer string conversion: value has " ++
        toString digits ++ " digits; use sys.set_int_max_str_digits() to increase the limit"
  | .unpaired halves => halves.message

/-! ## Writing integers -/

def decimal (n : Int) : String :=
  String.ofList ((if n < 0 then ['-'] else []) ++ Nat.toDigits 10 n.natAbs)

/-- Whether the decimal text of an integer is within the limit. -/
def writable (n : Int) : Bool :=
  decide (n.natAbs < unwritable)

def decimal? (n : Int) : Except Fault String :=
  if writable n then .ok (decimal n) else .error .tooLongToWrite

/-! ## Signs and blanks -/

/-- Splits a sign off; `true` stands for minus. -/
def takeSign : List Char → Bool × List Char
  | '-' :: rest => (true, rest)
  | '+' :: rest => (false, rest)
  | rest => (false, rest)

/-- The blanks that may stand about a numeral: of the ASCII characters the narrow ones only. -/
def isNumeralBlank (c : Char) : Bool :=
  if c.toNat < 0x80 then isAsciiBlank c else isBlank c

def trimNumeral (cs : List Char) : List Char :=
  dropEndWhile isNumeralBlank (cs.dropWhile isNumeralBlank)

/-! ## Reading integers -/

inductive IntegerFault
  | malformed
  | limit (fault : Fault)
deriving DecidableEq, Repr

/-- The digits that a text begins with, single underscores between them skipped, and the rest of
the text. An underscore that no digit follows belongs to the rest. -/
def takeDigits : List Char → List Nat × List Char
  | [] => ([], [])
  | '_' :: c :: rest =>
      match digit? c with
      | some d => let (digits, left) := takeDigits rest; (d :: digits, left)
      | none => ([], '_' :: c :: rest)
  | c :: rest =>
      match digit? c with
      | some d => let (digits, left) := takeDigits rest; (d :: digits, left)
      | none => ([], c :: rest)

def readInteger (text : String) : Except IntegerFault Int :=
  let (negative, body) := takeSign (trimNumeral text.toList)
  if body.head? = some '_' then
    .error .malformed
  else
    let (digits, left) := takeDigits body
    if left.head? = some '_' then
      .error .malformed
    else if digitLimit < digits.length then
      .error (.limit (.tooLongToRead digits.length))
    else if digits.isEmpty || !left.isEmpty then
      .error .malformed
    else
      let magnitude : Int := ofDigits 10 digits
      .ok (if negative then -magnitude else magnitude)

/-! ## Reading floating point numbers -/

def takeAsciiDigits (cs : List Char) : List Nat × List Char :=
  (cs.takeWhile (asciiDigit? · |>.isSome) |>.filterMap asciiDigit?,
    cs.dropWhile (asciiDigit? · |>.isSome))

def readExponent? : List Char → Option Int
  | [] => some 0
  | mark :: rest =>
      if mark = 'e' ∨ mark = 'E' then
        let (negative, body) := takeSign rest
        match takeAsciiDigits body with
        | ([], _) => none
        | (digits, []) =>
            let magnitude : Int := ofDigits 10 digits
            some (if negative then -magnitude else magnitude)
        | (_, _ :: _) => none
      else
        none

/-- Reads ASCII digits with an optional point and an optional exponent; at least one digit stands
before the exponent. -/
def readDecimal? (cs : List Char) : Option Binary64 :=
  let (negative, body) := takeSign cs
  let (whole, rest) := takeAsciiDigits body
  let (fraction, rest) :=
    match rest with
    | '.' :: rest => takeAsciiDigits rest
    | rest => ([], rest)
  if whole.isEmpty && fraction.isEmpty then
    none
  else
    (readExponent? rest).map fun exponent =>
      .ofDecimal negative (ofDigits 10 (whole ++ fraction)) (exponent - fraction.length)

/-- Writes the digits of all scripts as ASCII digits. -/
def toAsciiDigit (c : Char) : Char :=
  match digit? c with
  | some d => Nat.digitChar d
  | none => c

/-- Removes the underscores that stand between two digits; another underscore is an error. -/
def dropUnderscores? (afterDigit : Bool) : List Char → Option (List Char)
  | [] => some []
  | '_' :: rest =>
      if afterDigit && (rest.head?.bind asciiDigit?).isSome then
        dropUnderscores? false rest
      else
        none
  | c :: rest => (c :: ·) <$> dropUnderscores? (asciiDigit? c).isSome rest

def asciiLower (cs : List Char) : List Char :=
  cs.map Char.toLower

def readFloat? (text : String) : Option Binary64 := do
  let cs ← dropUnderscores? false ((trimNumeral text.toList).map toAsciiDigit)
  let (negative, body) := takeSign cs
  let name := String.ofList (asciiLower body)
  if name = "inf" ∨ name = "infinity" then
    return .infinite negative
  else if name = "nan" then
    return .nan
  else
    readDecimal? cs

end Numeral
end WorkflowWalk
