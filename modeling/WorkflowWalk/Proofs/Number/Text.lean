import WorkflowWalk.Json.Printer

/-!
# Texts of numbers

An integer is determined by its text. The text of a floating point number begins like that of an
integer, if it is finite, but it has a point, an exponent or a letter, so the two are never the same
text.
-/

namespace WorkflowWalk

/-!
## Digits
-/

theorem isDigit_of_mem_toDigits
    {n : Nat} {c : Char} (member : c ∈ Nat.toDigits 10 n) :
    c.isDigit = true :=
  Nat.isDigit_of_mem_toDigits (by decide) (by decide) member

theorem toDigits_inj
    {m n : Nat} (same : Nat.toDigits 10 m = Nat.toDigits 10 n) :
    m = n := by
  have value := Nat.ofDigitChars_toDigits (b := 10) (n := m) (by decide) (by decide)
  rw [same, Nat.ofDigitChars_toDigits (by decide) (by decide)] at value
  exact value.symm

theorem exists_digits_of_toDigits
    {base : Nat} (read? : Char → Option Nat) (several : 2 ≤ base)
    (reads : ∀ {digit : Nat}, digit < base → read? digit.digitChar = some digit) (n : Nat) :
    ∃ digits, digits ≠ [] ∧ (Nat.toDigits base n).mapM read? = some digits ∧
      Text.ofDigits base digits = n := by
  induction n using Nat.strongRecOn with
  | ind n ih =>
      by_cases small : n < base
      · refine ⟨[n], List.cons_ne_nil _ _, ?_, ?_⟩
        · rw [Nat.toDigits_of_lt_base small, List.mapM_cons, reads small]
          rfl
        · rw [← List.nil_append [n], Text.ofDigits_append_one, Text.ofDigits_nil, Nat.zero_mul,
            Nat.zero_add]
      · have large : base ≤ n := Nat.le_of_not_lt small
        have less : n / base < n := Nat.div_lt_self (by omega) several
        rcases ih (n / base) less with ⟨digits, _, read, value⟩
        have last : n % base < base := Nat.mod_lt n (by omega)
        refine ⟨digits ++ [n % base], by simp, ?_, ?_⟩
        · rw [Nat.toDigits_of_base_le several large, List.mapM_append, read, List.mapM_cons,
            reads last]
          rfl
        · rw [Text.ofDigits_append_one, value]
          exact Nat.div_add_mod' n base

theorem exists_toDigits (n : Nat) :
    ∃ first more, Nat.toDigits 10 n = first :: more ∧ first.isDigit = true := by
  cases written : Nat.toDigits 10 n with
  | nil =>
      exact absurd written Nat.toDigits_ne_nil
  | cons first more =>
      exact ⟨first, more, rfl, isDigit_of_mem_toDigits (written ▸ List.mem_cons_self)⟩

/-!
## Integers
-/

namespace Numeral

theorem toList_decimal (n : Int) :
    (decimal n).toList = (if n < 0 then ['-'] else []) ++ Nat.toDigits 10 n.natAbs := by
  rw [decimal, String.toList_ofList]

theorem mem_decimal
    {n : Int} {c : Char} (member : c ∈ (decimal n).toList) :
    c = '-' ∨ c.isDigit = true := by
  rw [toList_decimal] at member
  rcases List.mem_append.mp member with sign | digit
  · split at sign
    · exact Or.inl (List.mem_singleton.mp sign)
    · cases sign
  · exact Or.inr (isDigit_of_mem_toDigits digit)

theorem decimal_inj
    {m n : Int} (same : (decimal m).toList = (decimal n).toList) :
    m = n := by
  rw [toList_decimal, toList_decimal] at same
  rcases exists_toDigits m.natAbs with ⟨first, more, writtenLeft, digitLeft⟩
  rcases exists_toDigits n.natAbs with ⟨second, others, writtenRight, digitRight⟩
  by_cases negative : m < 0
  · by_cases also : n < 0
    · rw [if_pos negative, if_pos also] at same
      have magnitude := toDigits_inj (List.append_cancel_left same)
      omega
    · rw [if_pos negative, if_neg also, writtenRight] at same
      rw [← (List.cons.inj same).1] at digitRight
      exact absurd digitRight (by decide)
  · by_cases also : n < 0
    · rw [if_neg negative, if_pos also, writtenLeft] at same
      rw [(List.cons.inj same).1] at digitLeft
      exact absurd digitLeft (by decide)
    · rw [if_neg negative, if_neg also] at same
      have magnitude := toDigits_inj same
      omega

end Numeral

/-!
## Floating point numbers
-/

namespace Binary64

def IsNumeric (c : Char) : Prop :=
  c.isDigit = true ∨ c ∈ ['.', 'e', '+', '-']

structure Written (cs : List Char) : Prop where
  first : ∃ c more, cs = c :: more ∧ c.isDigit = true
  numeric : ∀ c ∈ cs, IsNumeric c
  marked : '.' ∈ cs ∨ 'e' ∈ cs

theorem isNumeric_of_mem_toDigits
    {n : Nat} {c : Char} (member : c ∈ Nat.toDigits 10 n) :
    IsNumeric c :=
  Or.inl (isDigit_of_mem_toDigits member)

theorem isNumeric_of_mem_zeros
    {n : Nat} {c : Char} (member : c ∈ List.replicate n '0') :
    IsNumeric c := by
  rw [List.eq_of_mem_replicate member]
  exact Or.inl (by decide)

theorem isNumeric_of_mem_text
    {decimal : Decimal} {c : Char} (member : c ∈ decimal.text.toList) :
    IsNumeric c := by
  have zero : IsNumeric '0' := Or.inl (by decide)
  have point : IsNumeric '.' := Or.inr (by simp)
  have mark : IsNumeric 'e' := Or.inr (by simp)
  unfold Decimal.text at member
  simp only at member
  split at member
  · split at member
    · simp only [String.toList_ofList, List.mem_append, List.mem_cons, List.not_mem_nil,
        or_false] at member
      rcases member with ((rfl | rfl) | zeros) | digit
      · exact zero
      · exact point
      · exact isNumeric_of_mem_zeros zeros
      · exact isNumeric_of_mem_toDigits digit
    · simp only [String.toList_ofList, List.mem_append, List.mem_singleton] at member
      rcases member with ((digit | zeros) | rfl) | fraction
      · exact isNumeric_of_mem_toDigits (List.mem_of_mem_take digit)
      · exact isNumeric_of_mem_zeros zeros
      · exact point
      · split at fraction
        · rw [List.mem_singleton.mp fraction]
          exact zero
        · exact isNumeric_of_mem_toDigits (List.mem_of_mem_drop fraction)
  · simp only [String.toList_ofList, List.mem_append, List.mem_cons, List.not_mem_nil,
      or_false] at member
    rcases member with (((digit | fraction) | (rfl | rfl)) | zeros) | exponent
    · exact isNumeric_of_mem_toDigits (List.mem_of_mem_take digit)
    · split at fraction
      · cases fraction
      · rcases List.mem_cons.mp fraction with rfl | digit
        · exact point
        · exact isNumeric_of_mem_toDigits (List.mem_of_mem_drop digit)
    · exact mark
    · split <;> exact Or.inr (by simp)
    · exact isNumeric_of_mem_zeros zeros
    · exact isNumeric_of_mem_toDigits exponent

theorem written_text (decimal : Decimal) :
    Written decimal.text.toList := by
  rcases exists_toDigits decimal.digits with ⟨first, more, written, digit⟩
  refine ⟨?_, fun c => isNumeric_of_mem_text, ?_⟩
  · unfold Decimal.text
    simp only [written]
    split
    · split
      · exact ⟨'0', _, String.toList_ofList, by decide⟩
      · exact ⟨first, _, String.toList_ofList, digit⟩
    · exact ⟨first, _, String.toList_ofList, digit⟩
  · unfold Decimal.text
    simp only
    split
    · split
      · exact Or.inl (by simp)
      · exact Or.inl (by simp)
    · exact Or.inr (by simp)

theorem exists_written (names : Names) (negative : Bool) (units : Nat) :
    ∃ body, ((finite negative units).text names).toList =
      (if negative then ['-'] else []) ++ body ∧ Written body := by
  have signed : (if negative then "-" else "").toList = if negative then ['-'] else [] := by
    cases negative <;> rfl
  rw [text, String.toList_append, signed]
  refine ⟨_, rfl, ?_⟩
  split
  · exact {
      first := ⟨'0', ['.', '0'], rfl, by decide⟩
      numeric := by
        have zero : IsNumeric '0' := Or.inl (by decide)
        have point : IsNumeric '.' := Or.inr (by simp)
        exact List.forall_mem_cons.mpr ⟨zero, List.forall_mem_cons.mpr ⟨point,
          List.forall_mem_singleton.mpr zero⟩⟩
      marked := Or.inl (by decide) }
  · exact written_text _

end Binary64
end WorkflowWalk
