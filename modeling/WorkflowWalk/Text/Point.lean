/-!
# Code points

A text is a sequence of code points. Most of them are characters, but an escape may also give half of
a surrogate pair, which is no character. Texts are kept as strings all the same. A half is kept as
a mark, the character U+E000, with a character behind it that tells which half it is. U+E000 itself
is kept as another mark, U+E001, with a character behind it, and so is U+E001.

So different texts are kept as different strings, in the order of their code points, and the strings
that keep characters only are those in which each mark has one of two signs behind it.
-/

namespace WorkflowWalk
namespace Text

/-- Half of a surrogate pair, counted from U+D800. -/
abbrev Half := Fin 0x800

def Half.code (half : Half) : Nat :=
  0xD800 + half

inductive Point
  | char (c : Char)
  | half (which : Half)
deriving DecidableEq, Repr

/-! ## Marks -/

def halfMark : Char := '\uE000'

def charMark : Char := '\uE001'

def Half.sign (half : Half) : Char :=
  Char.ofNat (0xE800 + half)

def halfMarkSign : Char := '\uE002'

def charMarkSign : Char := '\uE003'

/-! ## Keeping code points in strings -/

namespace Point

def kept : Point → List Char
  | .half which => [halfMark, which.sign]
  | .char c =>
      if c = halfMark then [charMark, halfMarkSign]
      else if c = charMark then [charMark, charMarkSign]
      else [c]

def ofCode (code : Nat) : Point :=
  if h : 0xD800 ≤ code ∧ code ≤ 0xDFFF then .half ⟨code - 0xD800, by omega⟩
  else .char (Char.ofNat code)

def isHalf : Point → Bool
  | .half _ => true
  | .char _ => false

@[simp] theorem isHalf_half (which : Half) : (half which).isHalf = true := rfl

@[simp] theorem isHalf_char (c : Char) : (char c).isHalf = false := rfl

def half? : Point → Option Half
  | .half which => some which
  | .char _ => none

def toChar : Point → Char
  | .char c => c
  | .half _ => '\uFFFD'

end Point

def Half.ofSign (sign : Char) : Half :=
  Fin.ofNat 0x800 sign.toNat

/-- The code points that a string keeps. Each mark of halves counts as a half, and so does a mark
that no string has by which a text is kept. -/
def points : List Char → List Point
  | [] => []
  | [c] => [if c = halfMark ∨ c = charMark then .half 0 else .char c]
  | c :: next :: rest =>
      if c = halfMark then .half (Half.ofSign next) :: points rest
      else if c = charMark then
        if next = halfMarkSign then .char halfMark :: points rest
        else if next = charMarkSign then .char charMark :: points rest
        else .half 0 :: points (next :: rest)
      else .char c :: points (next :: rest)

def ofChars (cs : List Char) : String :=
  String.ofList (cs.flatMap fun c => (Point.char c).kept)

/-- The characters that a text consists of; U+FFFD stands for a half. -/
def characters (text : String) : String :=
  String.ofList ((points text.toList).map Point.toChar)

/-! ## Texts without halves -/

/-- Halves that follow one another in a text, and how many code points stand before them. -/
structure Unpaired where
  position : Nat
  halves : List Half
deriving DecidableEq, Repr

def unpaired? (ps : List Point) : Option Unpaired :=
  if ps.any Point.isHalf then
    some {
      position := (ps.takeWhile (!Point.isHalf ·)).length
      halves := ((ps.dropWhile (!Point.isHalf ·)).takeWhile Point.isHalf).filterMap Point.half? }
  else
    none

/-- The characters of a text, each code point of which has to be one. -/
def plain? (text : String) : Except Unpaired String :=
  match unpaired? (points text.toList) with
  | some unpaired => .error unpaired
  | none => .ok (characters text)

def Unpaired.message (unpaired : Unpaired) : String :=
  let place :=
    match unpaired.halves with
    | [half] =>
        "character '\\u" ++ String.ofList (Nat.toDigits 16 half.code) ++ "' in position " ++
          toString unpaired.position
    | halves =>
        "characters in position " ++ toString unpaired.position ++ "-" ++
          toString (unpaired.position + halves.length - 1)
  "'utf-8' codec can't encode " ++ place ++ ": surrogates not allowed"

end Text
end WorkflowWalk
