/-!
# Blank characters

Two notions of white space are in use. The narrow one, the six ASCII blanks, separates the parts
of a condition. The wide one, which also holds the blanks of other scripts and the line and
paragraph separators, is what is cut from the two ends of a text.
-/

namespace WorkflowWalk
namespace Text

def isAsciiBlank (c : Char) : Bool :=
  c.toNat == 0x20 || (0x09 ≤ c.toNat && c.toNat ≤ 0x0D)

/-- The wide notion of white space. Zero width characters are not blank. -/
def isBlank (c : Char) : Bool :=
  let n := c.toNat
  (0x09 ≤ n && n ≤ 0x0D) || (0x1C ≤ n && n ≤ 0x20) || n == 0x85 || n == 0xA0 || n == 0x1680 ||
    (0x2000 ≤ n && n ≤ 0x200A) || n == 0x2028 || n == 0x2029 || n == 0x202F || n == 0x205F ||
    n == 0x3000

theorem isBlank_of_isAsciiBlank
    {c : Char} (h : isAsciiBlank c = true) :
    isBlank c = true := by
  simp only [isAsciiBlank, Bool.or_eq_true, beq_iff_eq, Bool.and_eq_true,
    decide_eq_true_eq] at h
  simp only [isBlank, Bool.or_eq_true, beq_iff_eq, Bool.and_eq_true, decide_eq_true_eq]
  omega

/-! ## Trimming -/

def dropEndWhile (p : Char → Bool) (cs : List Char) : List Char :=
  (cs.reverse.dropWhile p).reverse

def trim (cs : List Char) : List Char :=
  dropEndWhile isBlank (cs.dropWhile isBlank)

@[simp] theorem trim_nil : trim [] = [] := rfl

def strip (text : String) : String :=
  String.ofList (trim text.toList)

end Text
end WorkflowWalk
