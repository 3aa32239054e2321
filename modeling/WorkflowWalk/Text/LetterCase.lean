import WorkflowWalk.Text.CaseTable

/-!
# Letter case

Full case conversion. Most characters have a form of one character. The exceptions are the dotted
capital I, whose lower case form has two, the ligatures and accented letters whose upper case form
has several, and the capital sigma, whose lower case form depends on its place in the word.
-/

namespace WorkflowWalk
namespace Text

def inRanges (ranges : List (Nat × Nat)) (n : Nat) : Bool :=
  ranges.any fun range => range.1 ≤ n && n ≤ range.2

def image? (runs : List (Nat × Nat × Nat × Nat)) (n : Nat) : Option Nat :=
  runs.findSome? fun (first, last, stride, image) =>
    if first ≤ n ∧ n ≤ last ∧ (n - first) % stride = 0 then some (image + (n - first)) else none

/-! ## Single characters -/

def lowerChar (c : Char) : List Char :=
  let n := c.toNat
  if n < 0x80 then
    [if 0x41 ≤ n ∧ n ≤ 0x5A then Char.ofNat (n + 0x20) else c]
  else if n = 0x130 then
    ['i', Char.ofNat 0x307]
  else
    [((image? CaseTable.lowerRuns n).map Char.ofNat).getD c]

def upperChar (c : Char) : List Char :=
  let n := c.toNat
  if n < 0x80 then
    [if 0x61 ≤ n ∧ n ≤ 0x7A then Char.ofNat (n - 0x20) else c]
  else
    match CaseTable.upperSequences.lookup n with
    | some codes => codes.map Char.ofNat
    | none => [((image? CaseTable.upperRuns n).map Char.ofNat).getD c]

/-! ## Words -/

/-- Whether the next character that case can see is a cased one. -/
def meetsCased (cs : List Char) : Bool :=
  match cs.find? fun c => !inRanges CaseTable.invisible c.toNat with
  | some c => inRanges CaseTable.cased c.toNat
  | none => false

/-- Lower case of a text whose characters before it are `before`, the nearest first. A capital
sigma that ends a word takes the final form. -/
def lowerAfter (before : List Char) : List Char → List Char
  | [] => []
  | c :: rest =>
      (if c = 'Σ' then
        [if meetsCased before && !meetsCased rest then 'ς' else 'σ']
      else
        lowerChar c) ++ lowerAfter (c :: before) rest

def lower (text : String) : String :=
  String.ofList (lowerAfter [] text.toList)

def upper (text : String) : String :=
  String.ofList (text.toList.flatMap upperChar)

end Text
end WorkflowWalk
