import WorkflowWalk.Document.BranchTag
import WorkflowWalk.Proofs.Number.Text

/-!
# Branch tags that are read back

The tag of a branch is read as the index of that branch. There are more texts that are read as an
index than there are tags: with noughts in front, with the digits of other scripts, or with a line
feed at the end.
-/

namespace WorkflowWalk

/-!
## Decimal texts
-/

namespace Text

theorem digit?_digitChar
    {digit : Nat} (below : digit < 10) :
    digit? digit.digitChar = some digit := by
  have each : ∀ digit < 10, digit? (Nat.digitChar digit) = some digit := by
    decide
  exact each digit below

theorem getLast?_toDigits (n : Nat) :
    (Nat.toDigits 10 n).getLast? = some (n % 10).digitChar := by
  rw [Nat.toDigits_eq_if (by decide)]
  split
  · rename_i small
    rw [Nat.mod_eq_of_lt small]
    rfl
  · exact List.getLast?_concat

theorem digitChar_ne_lineFeed
    {digit : Nat} (below : digit < 10) :
    digit.digitChar ≠ '\n' := by
  have each : ∀ digit < 10, Nat.digitChar digit ≠ '\n' := by
    decide
  exact each digit below

end Text

/-!
## Tags of branches
-/

namespace BranchTag

open Text

theorem toList_branch (index : Nat) :
    (branch index).toList = lead.toList ++ Nat.toDigits 10 index := by
  have signless : ¬(index : Int) < 0 := by
    omega
  rw [branch, Numeral.decimal, String.toList_append, String.toList_ofList, if_neg signless]
  rfl

theorem dropLineFeed_branch (index : Nat) :
    dropLineFeed (branch index).toList = (branch index).toList := by
  have last : (branch index).toList.getLast? ≠ some '\n' := by
    rw [toList_branch, List.getLast?_append, getLast?_toDigits]
    intro same
    exact digitChar_ne_lineFeed (Nat.mod_lt index (by decide)) (Option.some.inj same)
  rw [dropLineFeed, if_neg last]

theorem exists_digits?_branch (index : Nat) :
    ∃ digits, digits? (branch index) = some digits ∧ ofDigits 10 digits = index := by
  rcases exists_digits_of_toDigits digit? (by decide) digit?_digitChar index with
    ⟨digits, written, read, value⟩
  refine ⟨digits, ?_, value⟩
  have leads : lead.toList.isPrefixOf (branch index).toList = true := by
    rw [toList_branch, List.isPrefixOf_iff_prefix]
    exact List.prefix_append _ _
  have rest : (branch index).toList.drop lead.length = Nat.toDigits 10 index := by
    rw [toList_branch]
    exact List.drop_left
  rw [digits?, dropLineFeed_branch]
  simp only [leads, rest, read, if_true]
  cases digits with
  | nil =>
      exact absurd rfl written
  | cons =>
      rfl

theorem index?_branch
    {index : Nat} {read : Option Nat} (reads : index? (branch index) = .ok read) :
    read = some index := by
  rcases exists_digits?_branch index with ⟨digits, found, value⟩
  rw [index?, found] at reads
  simp only at reads
  split at reads
  · cases reads
  · cases reads
    rw [value]

/-!
## Other texts that are read as an index
-/

/-- A text is read as the index of one of a number of branches, but it is not the tag of that
branch. -/
def Misspelt (branches : Nat) (tag : String) : Prop :=
  ∃ index < branches, index? tag = .ok (some index) ∧ tag ≠ branch index

/-- A text would be read as an index if it had not too many digits. -/
def Endless (tag : String) : Prop :=
  ∃ digits, digits? tag = some digits ∧ Numeral.digitLimit < digits.length

theorem not_endless
    {tag : String} {digits : List Nat} (found : digits? tag = some digits)
    (few : digits.length ≤ Numeral.digitLimit) :
    ¬Endless tag := by
  intro endless
  rcases endless with ⟨others, same, many⟩
  cases found.symm.trans same
  omega

theorem endless_of_index?
    {tag : String} {fault : Numeral.Fault} (failed : index? tag = .error fault) :
    Endless tag := by
  unfold index? at failed
  split at failed
  · cases failed
  · rename_i digits found
    split at failed
    · rename_i many
      exact ⟨digits, found, many⟩
    · cases failed

theorem exists_fault_of_endless
    {tag : String} (endless : Endless tag) :
    ∃ fault, index? tag = .error fault := by
  rcases endless with ⟨digits, found, many⟩
  exact ⟨_, by rw [index?, found]; exact if_pos many⟩

theorem Endless.ne_empty
    {tag : String} (endless : Endless tag) :
    tag ≠ "" := by
  rintro rfl
  rcases endless with ⟨digits, found, _⟩
  cases found

theorem mapM_digit?_replicate (count : Nat) :
    (List.replicate count '1').mapM digit? = some (List.replicate count 1) := by
  induction count with
  | zero =>
      rfl
  | succ count ih =>
      have one : digit? '1' = some 1 := by
        decide
      rw [List.replicate_succ, List.mapM_cons, one, ih]
      rfl

theorem digits?_replicate (count : Nat) :
    digits? (lead ++ String.ofList (List.replicate (count + 1) '1')) =
      some (List.replicate (count + 1) 1) := by
  have text : (lead ++ String.ofList (List.replicate (count + 1) '1')).toList =
      lead.toList ++ List.replicate (count + 1) '1' := by
    rw [String.toList_append, String.toList_ofList]
  have ends : (lead.toList ++ List.replicate (count + 1) '1').getLast? ≠ some '\n' := by
    rw [List.getLast?_append, List.getLast?_replicate]
    simp
  have leads : lead.toList.isPrefixOf (lead.toList ++ List.replicate (count + 1) '1') = true :=
    List.isPrefixOf_iff_prefix.mpr (List.prefix_append _ _)
  have behind : (lead.toList ++ List.replicate (count + 1) '1').drop lead.length =
      List.replicate (count + 1) '1' :=
    List.drop_left
  rw [digits?, text, dropLineFeed, if_neg ends]
  simp only [leads, behind, mapM_digit?_replicate, if_true]
  rfl

theorem endless_replicate
    {count : Nat} (many : Numeral.digitLimit ≤ count) :
    Endless (lead ++ String.ofList (List.replicate (count + 1) '1')) := by
  refine ⟨_, digits?_replicate count, ?_⟩
  rw [List.length_replicate]
  exact Nat.lt_succ_of_le many

end BranchTag
end WorkflowWalk
