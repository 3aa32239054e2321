import WorkflowWalk.Condition.Basic
import WorkflowWalk.Json.Value
import WorkflowWalk.Text.Blank

/-!
# Reading conditions

Blanks about the text are cut. Then a field name of ASCII letters, digits and underscores, an
operator and a value follow. The word `equals`, in any letter case, stands between blanks; the
other operators may stand without. A value runs to the end of the text and holds no line feed.

Of two operators that fit the longer one is taken, unless the text ends right behind it: then the
shorter one is taken and its last character is the value.
-/

namespace WorkflowWalk
namespace Condition

open Text

/-! ## Parts of a condition -/

def isWordChar (c : Char) : Bool :=
  c.isAlphanum || c == '_'

def equalsWord : List Char :=
  ['e', 'q', 'u', 'a', 'l', 's']

/-- What follows the word `equals` between blanks, if the text begins with it. -/
def afterEquals? (cs : List Char) : Option (List Char) :=
  let start := cs.dropWhile isAsciiBlank
  let word := start.take equalsWord.length
  let rest := start.drop equalsWord.length
  if start.length < cs.length ∧ word.map Char.toLower = equalsWord ∧
      (rest.head?.any isAsciiBlank) = true then
    some (rest.dropWhile isAsciiBlank)
  else
    none

def takeSign? : List Char → Option (Operator × List Char)
  | ['>', '='] => some (.above, ['='])
  | ['<', '='] => some (.below, ['='])
  | '>' :: '=' :: rest => some (.atLeast, rest)
  | '<' :: '=' :: rest => some (.atMost, rest)
  | '>' :: rest => some (.above, rest)
  | '<' :: rest => some (.below, rest)
  | '=' :: '=' :: rest => some (.same, rest)
  | '!' :: '=' :: rest => some (.differs, rest)
  | _ => none

def takeOperator? (cs : List Char) : Option (Operator × List Char) :=
  match afterEquals? cs with
  | some rest => some (.equals, rest)
  | none =>
      (takeSign? (cs.dropWhile isAsciiBlank)).map fun (operator, rest) =>
        (operator, rest.dropWhile isAsciiBlank)

/-! ## Whole conditions -/

/-- Reads a condition from a text without blanks at its ends. -/
def ofTrimmed? (cs : List Char) : Option Condition :=
  let field := cs.takeWhile isWordChar
  match field, takeOperator? (cs.dropWhile isWordChar) with
  | _ :: _, some (operator, rest) =>
      if rest.isEmpty || rest.contains '\n' then none
      else some ⟨String.ofList field, operator, String.ofList (trim rest)⟩
  | _, _ => none

def parse? (text : String) : Option Condition :=
  ofTrimmed? (trim text.toList)

def ofJson? : Json → Option Condition
  | .str text => parse? text
  | _ => none

end Condition
end WorkflowWalk
