import WorkflowWalk.Number.Numeral

/-!
# Branch tags

An edge that leaves a condition node is tagged with the branch that it belongs to: `branch-0` for
the first branch, and `else` for the case that no branch matches. Tags are written with ASCII
digits; when one is read, the digits of all scripts count, and one line feed at its end is ignored.
-/

namespace WorkflowWalk
namespace BranchTag

open Text

/-- The tag of the edge that is followed when no branch matches. -/
def otherwise : String := "else"

def lead : String := "branch-"

def branch (index : Int) : String :=
  lead ++ Numeral.decimal index

/-- The tag of the branch with an index, if the index has a decimal text within the limit. -/
def branch? (index : Int) : Except Numeral.Fault String :=
  (lead ++ ·) <$> Numeral.decimal? index

def dropLineFeed (cs : List Char) : List Char :=
  if cs.getLast? = some '\n' then cs.dropLast else cs

def digits? (tag : String) : Option (List Nat) :=
  let cs := dropLineFeed tag.toList
  if lead.toList.isPrefixOf cs then
    match (cs.drop lead.length).mapM digit? with
    | some (first :: rest) => some (first :: rest)
    | _ => none
  else
    none

/-- The index of the branch that a tag names. -/
def index? (tag : String) : Except Numeral.Fault (Option Nat) :=
  match digits? tag with
  | none => .ok none
  | some digits =>
      if Numeral.digitLimit < digits.length then .error (.tooLongToRead digits.length)
      else .ok (some (ofDigits 10 digits))

end BranchTag
end WorkflowWalk
