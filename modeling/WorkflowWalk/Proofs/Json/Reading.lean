import Mathlib.Algebra.Ring.Nat
import Mathlib.Data.List.Induction
import WorkflowWalk.Json.Reader
import WorkflowWalk.Proofs.Document.Writable
import WorkflowWalk.Proofs.Result

/-!
# Integers that are read

The reader refuses integers with more digits than can be written, so every integer in a value that
was read from a text has a decimal text within the limit.
-/

namespace WorkflowWalk

/-!
## Digits
-/

namespace Text

theorem ofDigits_lt
    {base : Nat} {digits : List Nat} (below : ∀ digit ∈ digits, digit < base) :
    ofDigits base digits < base ^ digits.length := by
  induction digits using List.reverseRecOn with
  | nil =>
      exact Nat.one_pos
  | append_singleton digits last ih =>
      have small := below last (by simp)
      have rest := ih fun digit member => below digit (List.mem_append_left _ member)
      rw [ofDigits_append_one, List.length_append, List.length_singleton, Nat.pow_succ]
      calc
        ofDigits base digits * base + last < ofDigits base digits * base + base := by omega
        _ = (ofDigits base digits + 1) * base := (Nat.succ_mul _ _).symm
        _ ≤ base ^ digits.length * base := Nat.mul_le_mul_right base rest

end Text

namespace Numeral

theorem asciiDigit?_lt
    {c : Char} {digit : Nat} (read : Text.asciiDigit? c = some digit) :
    digit < 10 := by
  unfold Text.asciiDigit? at read
  split at read
  · cases read
    omega
  · cases read

theorem lt_of_mem_takeAsciiDigits
    {cs : List Char} {digit : Nat} (member : digit ∈ (takeAsciiDigits cs).1) :
    digit < 10 := by
  rcases List.mem_filterMap.mp member with ⟨c, _, read⟩
  exact asciiDigit?_lt read

theorem pow_digitLimit : Nat.pow 10 digitLimit = unwritable := by
  decide +kernel

theorem lt_unwritable
    {n count : Nat} (small : n < 10 ^ count) (few : count ≤ digitLimit) :
    n < unwritable := by
  have bound := pow_digitLimit
  generalize digitLimit = limit at few bound
  rw [← bound]
  exact Nat.lt_of_lt_of_le small (Nat.pow_le_pow_right (by decide) few)

end Numeral

namespace Json
namespace Reader

/-!
## Numbers and constants
-/

theorem lt_of_mem_wholeDigits
    {cs : List Char} {digit : Nat} (member : digit ∈ (wholeDigits cs).1) :
    digit < 10 := by
  unfold wholeDigits at member
  split at member
  · rw [List.mem_singleton.mp member]
    decide
  · exact Numeral.lt_of_mem_takeAsciiDigits member

theorem writable_of_magnitude
    {digits : List Nat} (below : ∀ digit ∈ digits, digit < 10)
    (few : digits.length ≤ Numeral.digitLimit) (negative : Bool) :
    (Json.int (if negative then -(Text.ofDigits 10 digits : Int)
      else Text.ofDigits 10 digits)).writable = true := by
  have size :
      (if negative then -(Text.ofDigits 10 digits : Int)
        else Text.ofDigits 10 digits).natAbs = Text.ofDigits 10 digits := by
    cases negative <;> simp
  rw [Json.writable, Numeral.writable, size, decide_eq_true_iff]
  exact Numeral.lt_unwritable (Text.ofDigits_lt below) few

theorem writable_of_number
    {cs rest : List Char} {found : Json}
    (read : number (some Numeral.digitLimit) cs = .ok (found, rest)) :
    found.writable = true := by
  unfold number at read
  split at read
  rename_i negative body _
  split at read
  rename_i whole left written
  have below : ∀ digit ∈ whole, digit < 10 := by
    intro digit member
    rw [← show (wholeDigits body).1 = whole by rw [written]] at member
    exact lt_of_mem_wholeDigits member
  split at read
  · cases read
  simp only at read
  split at read
  · cases read
    rfl
  split at read
  · cases read
  · rename_i short
    cases read
    have few : whole.length ≤ Numeral.digitLimit := by
      simpa using short
    exact writable_of_magnitude below few negative

theorem writable_of_constant?
    {cs rest : List Char} {found : Json} (read : constant? cs = some (found, rest)) :
    found.writable = true := by
  rcases List.exists_of_findSome?_eq_some read with ⟨⟨name, value⟩, member, here⟩
  have each : ∀ constant ∈ constants, constant.2.writable = true := by
    decide
  simp only [Option.ite_none_right_eq_some, Option.some.injEq, Prod.mk.injEq] at here
  rw [← here.2.1]
  exact each _ member

/-!
## Values
-/

structure ReadsWritable (fuel : Nat) : Prop where
  value : ∀ {cs found rest}, value (some Numeral.digitLimit) fuel cs = .ok (found, rest) →
    found.writable = true
  items : ∀ {before cs found rest}, writableItems before = true →
    items (some Numeral.digitLimit) fuel before cs = .ok (found, rest) → writableItems found = true
  members : ∀ {before cs found rest}, writableFields before = true →
    members (some Numeral.digitLimit) fuel before cs = .ok (found, rest) →
      writableFields found = true

theorem ReadsWritable.value_succ
    {fuel : Nat} (reads : ReadsWritable fuel) {cs rest : List Char} {found : Json}
    (read : Reader.value (some Numeral.digitLimit) (fuel + 1) cs = .ok (found, rest)) :
    found.writable = true := by
  unfold Reader.value at read
  split at read
  · rcases ok_of_bind read with ⟨text, _, made⟩
    cases made
    rfl
  · split at read
    · cases read
      rfl
    · rcases ok_of_bind read with ⟨listed, each, made⟩
      cases made
      exact reads.items rfl each
  · split at read
    · cases read
      rfl
    · rcases ok_of_bind read with ⟨listed, each, made⟩
      cases made
      exact reads.members rfl each
  · split at read
    · rename_i constant
      cases read
      exact writable_of_constant? constant
    · exact writable_of_number read

theorem ReadsWritable.items_succ
    {fuel : Nat} (reads : ReadsWritable fuel) {cs rest : List Char} {before found : List Json}
    (writable : writableItems before = true)
    (read : Reader.items (some Numeral.digitLimit) (fuel + 1) before cs = .ok (found, rest)) :
    writableItems found = true := by
  unfold Reader.items at read
  rcases ok_of_bind read with ⟨⟨item, left⟩, first, more⟩
  have both : writableItems (item :: before) = true := by
    rw [writableItems, reads.value first, writable]
    rfl
  simp only at more
  split at more
  · exact reads.items both more
  · cases more
    rw [writableItems_iff] at both ⊢
    intro item member
    exact both item (List.mem_reverse.mp member)
  · cases more

theorem ReadsWritable.members_succ
    {fuel : Nat} (reads : ReadsWritable fuel) {cs rest : List Char} {before found : Fields}
    (writable : writableFields before = true)
    (read : Reader.members (some Numeral.digitLimit) (fuel + 1) before cs = .ok (found, rest)) :
    writableFields found = true := by
  unfold Reader.members at read
  split at read
  · rcases ok_of_bind read with ⟨⟨key, left⟩, _, more⟩
    simp only at more
    split at more
    · rcases ok_of_bind more with ⟨⟨value, after⟩, here, later⟩
      have both := writableFields_put writable (reads.value here) key
      simp only at later
      split at later
      · exact reads.members both later
      · cases later
        exact both
      · cases later
    · cases more
  · cases read

theorem readsWritable (fuel : Nat) : ReadsWritable fuel := by
  induction fuel with
  | zero =>
      constructor
      · intro cs found rest read
        cases read
      · intro before cs found rest _ read
        cases read
      · intro before cs found rest _ read
        cases read
  | succ fuel ih =>
      exact ⟨ih.value_succ, ih.items_succ, ih.members_succ⟩

end Reader

theorem writable_of_read
    {text : String} {value : Json} (read : Json.read text = .ok value) :
    value.writable = true := by
  unfold Json.read readWithin at read
  simp only at read
  split at read
  · rename_i found made
    cases read
    unfold Reader.document at made
    split at made
    · cases made
    · rcases ok_of_bind made with ⟨⟨first, rest⟩, here, later⟩
      simp only at later
      split at later
      · cases later
        exact (Reader.readsWritable _).value here
      · cases later
  · cases read
  · cases read

end Json
end WorkflowWalk
