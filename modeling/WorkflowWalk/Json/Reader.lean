import WorkflowWalk.Json.Value

/-!
# Reading JSON texts

The reader takes the special numbers besides what JSON allows, keeps integers and floating point
numbers apart and lets a later field of an object replace an earlier one with the same key. The
first fault is reported with the place where it was found.
-/

namespace WorkflowWalk
namespace Json
namespace Reader

open Text

inductive Cause
  | expectingValue
  | expectingName
  | expectingColon
  | expectingComma
  | unterminatedString
  | controlCharacter
  | invalidEscape
  | invalidUnit
  | extraData
  | byteOrderMark
deriving DecidableEq, Repr

/-- A fault with the number of characters that were left at its place. -/
inductive Fault
  | syntaxFault (cause : Cause) (left : Nat)
  | integer (fault : Numeral.Fault)

def faultAt {α : Type} (cause : Cause) (left : List Char) : Except Fault α :=
  .error (.syntaxFault cause left.length)

def skipBlanks (cs : List Char) : List Char :=
  cs.dropWhile fun c => c = ' ' || c = '\t' || c = '\n' || c = '\r'

/-! ## Strings -/

def shortEscape? : Char → Option Char
  | '"' => some '"'
  | '\\' => some '\\'
  | '/' => some '/'
  | 'b' => some (Char.ofNat 0x08)
  | 'f' => some (Char.ofNat 0x0C)
  | 'n' => some '\n'
  | 'r' => some '\r'
  | 't' => some '\t'
  | _ => none

def unit? (a b c d : Char) : Option Nat :=
  ([a, b, c, d].mapM (digitInBase? 16)).map (ofDigits 16)

/-- How a unit is kept that stands alone, which may be half of a pair. -/
def loneUnit (unit : Nat) : List Char :=
  (Point.ofCode unit).kept

def pairChar? (first second : Nat) : Option Char :=
  if 0xD800 ≤ first ∧ first ≤ 0xDBFF ∧ 0xDC00 ≤ second ∧ second ≤ 0xDFFF then
    some (Char.ofNat (0x10000 + (first - 0xD800) * 1024 + (second - 0xDC00)))
  else
    none

/-- A part of a string as it is read: a character of the text, or a unit given by its digits. -/
inductive Piece
  | char (c : Char)
  | unit (n : Nat)

/-- Joins the units that form pairs; `pending` is a unit that may be the first of one. -/
def joinUnits (pending : Option Nat) : List Piece → List Char
  | [] => (pending.map loneUnit).getD []
  | .char c :: rest => (pending.map loneUnit).getD [] ++ c :: joinUnits none rest
  | .unit n :: rest =>
      match pending with
      | none => joinUnits (some n) rest
      | some first =>
          match pairChar? first n with
          | some pair => pair :: joinUnits none rest
          | none => loneUnit first ++ joinUnits (some n) rest

/-- Reads a string from behind its opening quote, where `opening` characters were left before it;
`before` holds what has been read, the last part first. -/
def string (opening : Nat) (before : List Piece) : List Char → Except Fault (String × List Char)
  | [] => .error (.syntaxFault .unterminatedString opening)
  | '"' :: rest => .ok (String.ofList (joinUnits none before.reverse), rest)
  | '\\' :: 'u' :: a :: b :: c :: d :: next :: rest =>
      match unit? a b c d with
      | some n => string opening (.unit n :: before) (next :: rest)
      | none => .error (.syntaxFault .invalidUnit (rest.length + 6))
  | '\\' :: 'u' :: rest => .error (.syntaxFault .invalidUnit (rest.length + 1))
  | '\\' :: escape :: rest =>
      match shortEscape? escape with
      | some c => string opening (.char c :: before) rest
      | none => .error (.syntaxFault .invalidEscape (rest.length + 2))
  | '\\' :: [] => .error (.syntaxFault .unterminatedString opening)
  | c :: rest =>
      if c.toNat < 0x20 then
        .error (.syntaxFault .controlCharacter (rest.length + 1))
      else
        string opening (.char c :: before) rest

/-! ## Numbers -/

/-- Digits of the whole part: a nought stands alone. -/
def wholeDigits (cs : List Char) : List Nat × List Char :=
  match cs with
  | '0' :: rest => ([0], rest)
  | _ => Numeral.takeAsciiDigits cs

def fractionDigits? (cs : List Char) : Option (List Nat × List Char) :=
  match cs with
  | '.' :: rest =>
      match Numeral.takeAsciiDigits rest with
      | ([], _) => none
      | found => some found
  | _ => none

def exponent? (cs : List Char) : Option (Int × List Char) :=
  match cs with
  | mark :: rest =>
      if mark = 'e' ∨ mark = 'E' then
        let (negative, body) := Numeral.takeSign rest
        match Numeral.takeAsciiDigits body with
        | ([], _) => none
        | (digits, left) =>
            let magnitude : Int := ofDigits 10 digits
            some (if negative then -magnitude else magnitude, left)
      else
        none
  | [] => none

/-- Reads a number; `limit` is the most digits that an integer may have. -/
def number (limit : Option Nat) (cs : List Char) : Except Fault (Json × List Char) :=
  let (negative, body) :=
    match cs with
    | '-' :: rest => (true, rest)
    | _ => (false, cs)
  let (whole, rest) := wholeDigits body
  if whole.isEmpty then
    faultAt .expectingValue cs
  else
    let fraction := fractionDigits? rest
    let (fractionDigits, rest) := fraction.getD ([], rest)
    let exponent := exponent? rest
    let (power, left) := exponent.getD (0, rest)
    if fraction.isSome || exponent.isSome then
      .ok (.float (.ofDecimal negative (ofDigits 10 (whole ++ fractionDigits))
        (power - fractionDigits.length)), left)
    else if limit.any (· < whole.length) then
      .error (.integer (.tooLongToRead whole.length))
    else
      let magnitude : Int := ofDigits 10 whole
      .ok (.int (if negative then -magnitude else magnitude), left)

/-! ## Values -/

def constants : List (String × Json) :=
  [
    ("null", .null), ("true", .bool true), ("false", .bool false), ("NaN", .float .nan),
    ("Infinity", .float (.infinite false)), ("-Infinity", .float (.infinite true))]

def constant? (cs : List Char) : Option (Json × List Char) :=
  constants.findSome? fun (name, value) =>
    if name.toList.isPrefixOf cs then some (value, cs.drop name.length) else none

mutual

/-- Reads a value. Each call consumes a character at least, so `fuel` of the length of the text is
enough. -/
def value (limit : Option Nat) (fuel : Nat) (cs : List Char) : Except Fault (Json × List Char) :=
  match fuel with
  | 0 => faultAt .expectingValue cs
  | fuel + 1 =>
      match cs with
      | '"' :: rest => do
          let (text, left) ← string cs.length [] rest
          return (.str text, left)
      | '[' :: rest =>
          match skipBlanks rest with
          | ']' :: left => .ok (.arr [], left)
          | start => do
              let (items, left) ← items limit fuel [] start
              return (.arr items, left)
      | '\x7b' :: rest =>
          match skipBlanks rest with
          | '\x7d' :: left => .ok (.obj [], left)
          | start => do
              let (fields, left) ← members limit fuel [] start
              return (.obj fields, left)
      | _ =>
          match constant? cs with
          | some found => .ok found
          | none => number limit cs

def items (limit : Option Nat) (fuel : Nat) (before : List Json) (cs : List Char) :
    Except Fault (List Json × List Char) :=
  match fuel with
  | 0 => faultAt .expectingValue cs
  | fuel + 1 => do
      let (item, rest) ← value limit fuel cs
      match skipBlanks rest with
      | ',' :: left => items limit fuel (item :: before) (skipBlanks left)
      | ']' :: left => return ((item :: before).reverse, left)
      | left => faultAt .expectingComma left

def members (limit : Option Nat) (fuel : Nat) (before : Fields) (cs : List Char) :
    Except Fault (Fields × List Char) :=
  match fuel with
  | 0 => faultAt .expectingName cs
  | fuel + 1 =>
      match cs with
      | '"' :: rest => do
          let (key, rest) ← string cs.length [] rest
          match skipBlanks rest with
          | ':' :: rest =>
              let (found, rest) ← value limit fuel (skipBlanks rest)
              let fields := Fields.put before key found
              match skipBlanks rest with
              | ',' :: left => members limit fuel fields (skipBlanks left)
              | '\x7d' :: left => return (fields, left)
              | left => faultAt .expectingComma left
          | left => faultAt .expectingColon left
      | _ => faultAt .expectingName cs

end

def document (limit : Option Nat) (cs : List Char) : Except Fault Json :=
  if cs.head? = some (Char.ofNat 0xFEFF) then
    faultAt .byteOrderMark cs
  else do
    let (found, rest) ← value limit (2 * cs.length + 2) (skipBlanks cs)
    match skipBlanks rest with
    | [] => return found
    | left => faultAt .extraData left

/-! ## Places and wording -/

/-- A place in a text: counted in code points from 0, and as line and column from 1. -/
structure Place where
  position : Nat
  line : Nat
  column : Nat
deriving DecidableEq, Repr

def Place.of (cs : List Char) (position : Nat) : Place :=
  let before := points (cs.take position)
  { position := before.length
    line := before.count (.char '\n') + 1
    column := (before.reverse.takeWhile (· ≠ .char '\n')).length + 1 }

def Cause.message : Cause → String
  | .expectingValue => "Expecting value"
  | .expectingName => "Expecting property name enclosed in double quotes"
  | .expectingColon => "Expecting ':' delimiter"
  | .expectingComma => "Expecting ',' delimiter"
  | .unterminatedString => "Unterminated string starting at"
  | .controlCharacter => "Invalid control character at"
  | .invalidEscape => "Invalid \\escape"
  | .invalidUnit => "Invalid \\uXXXX escape"
  | .extraData => "Extra data"
  | .byteOrderMark => "Unexpected UTF-8 BOM (decode using utf-8-sig)"

end Reader

inductive ReadError
  | malformed (cause : Reader.Cause) (place : Reader.Place)
  | integer (fault : Numeral.Fault)

def ReadError.message : ReadError → String
  | .malformed cause place =>
      cause.message ++ ": line " ++ toString place.line ++ " column " ++ toString place.column ++
        " (char " ++ toString place.position ++ ")"
  | .integer fault => fault.message

/-- Reads a JSON text in which integers have at most `limit` digits. -/
def readWithin (limit : Option Nat) (text : String) : Except ReadError Json :=
  let cs := text.toList
  match Reader.document limit cs with
  | .ok found => .ok found
  | .error (.integer fault) => .error (.integer fault)
  | .error (.syntaxFault cause left) =>
      .error (.malformed cause (.of cs (cs.length - left)))

def read (text : String) : Except ReadError Json :=
  readWithin (some Numeral.digitLimit) text

end Json
end WorkflowWalk
