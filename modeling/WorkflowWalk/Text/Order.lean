/-!
# The order of texts

Texts are ordered by code points, one after the other.
-/

namespace WorkflowWalk
namespace Text

def le (left right : String) : Bool :=
  !decide (right < left)

def sorted (texts : List String) : List String :=
  texts.mergeSort le

end Text
end WorkflowWalk
