import Mathlib.Data.List.TakeWhile
import WorkflowWalk.Text.Blank

/-!
# Runs of characters and trimmed texts

A text splits in one way into the longest run of characters of a kind that it begins with and the
rest. What is left of a text when the blanks are cut from its two ends has no blank there, and a
text without blanks there is not changed.
-/

namespace WorkflowWalk
namespace Text

/-!
## The run that a text begins with
-/

/-- A text begins with a run of characters that satisfy `p`, and the run cannot be made longer. -/
structure Splits (p : Char → Bool) (cs run rest : List Char) : Prop where
  whole : cs = run ++ rest
  inside : ∀ c ∈ run, p c = true
  stop : ∀ c, rest.head? = some c → p c = false

namespace Splits

variable {p : Char → Bool} {cs run rest : List Char}

theorem takeWhile_eq (splits : Splits p cs run rest) :
    cs.takeWhile p = run := by
  have none : rest.takeWhile p = [] := by
    cases rest with
    | nil =>
        rfl
    | cons c more =>
        simp [splits.stop c rfl]
  rw [splits.whole, List.takeWhile_append_of_pos splits.inside, none, List.append_nil]

theorem dropWhile_eq (splits : Splits p cs run rest) :
    cs.dropWhile p = rest := by
  have both := List.takeWhile_append_dropWhile (p := p) (l := cs)
  rw [splits.takeWhile_eq, splits.whole] at both
  rw [splits.whole]
  exact List.append_cancel_left both

end Splits

theorem splits_dropWhile (p : Char → Bool) (cs : List Char) :
    Splits p cs (cs.takeWhile p) (cs.dropWhile p) where
  whole := List.takeWhile_append_dropWhile.symm
  inside := by
    intro c member
    exact List.all_eq_true.mp List.all_takeWhile c member
  stop := by
    intro c first
    have stopped := List.head?_dropWhile_not p cs
    rw [first] at stopped
    exact stopped

section Separator

variable {c : Char} {run rest : List Char}

theorem splits_until (clear : c ∉ run) :
    Splits (· ≠ c) (run ++ c :: rest) run (c :: rest) where
  whole := rfl
  inside := by
    intro d member
    exact decide_eq_true fun same => clear (same ▸ member)
  stop := by
    intro d first
    rw [← Option.some.inj first]
    simp

theorem not_mem_takeWhile (c : Char) (cs : List Char) :
    c ∉ cs.takeWhile (· ≠ c) := by
  intro member
  have inside := (splits_dropWhile (· ≠ c) cs).inside c member
  simp at inside

theorem append_cons_inj
    (clear : c ∉ run) {other more : List Char} (clearToo : c ∉ other)
    (same : run ++ c :: rest = other ++ c :: more) :
    run = other ∧ rest = more := by
  have runs : (run ++ c :: rest).takeWhile (· ≠ c) = run := (splits_until clear).takeWhile_eq
  rw [same, (splits_until clearToo).takeWhile_eq] at runs
  rw [runs] at same
  exact ⟨runs.symm, (List.cons.inj (List.append_cancel_left same)).2⟩

end Separator

/-!
## Cutting one end
-/

structure Trimmed (cs : List Char) : Prop where
  first : ∀ c, cs.head? = some c → isBlank c = false
  last : ∀ c, cs.getLast? = some c → isBlank c = false

theorem head?_dropWhile_isBlank
    {cs : List Char} {c : Char} (first : (cs.dropWhile isBlank).head? = some c) :
    isBlank c = false :=
  (splits_dropWhile isBlank cs).stop c first

theorem dropWhile_isBlank_eq_self
    {cs : List Char} (kept : ∀ c, cs.head? = some c → isBlank c = false) :
    cs.dropWhile isBlank = cs := by
  cases cs with
  | nil =>
      rfl
  | cons c rest =>
      have solid : ¬isBlank c = true := by
        rw [kept c rfl]
        exact Bool.false_ne_true
      rw [List.dropWhile_cons_of_neg solid]

theorem dropEndWhile_isPrefix (p : Char → Bool) (cs : List Char) :
    dropEndWhile p cs <+: cs := by
  unfold dropEndWhile
  rw [← List.reverse_suffix, List.reverse_reverse]
  exact List.dropWhile_suffix p

/-!
## Cutting both ends
-/

theorem trim_of_trimmed
    {cs : List Char} (trimmed : Trimmed cs) :
    trim cs = cs := by
  unfold trim dropEndWhile
  rw [dropWhile_isBlank_eq_self trimmed.first, dropWhile_isBlank_eq_self, List.reverse_reverse]
  intro c last
  rw [List.head?_reverse] at last
  exact trimmed.last c last

theorem trimmed_trim (cs : List Char) :
    Trimmed (trim cs) := by
  constructor
  · intro c first
    rcases dropEndWhile_isPrefix isBlank (cs.dropWhile isBlank) with ⟨cut, whole⟩
    have start : (cs.dropWhile isBlank).head? = some c := by
      rw [← whole, List.head?_append]
      unfold trim at first
      rw [first]
      rfl
    exact head?_dropWhile_isBlank start
  · intro c last
    unfold trim dropEndWhile at last
    rw [List.getLast?_reverse] at last
    exact head?_dropWhile_isBlank last

theorem trim_dropWhile_isAsciiBlank (cs : List Char) :
    trim (cs.dropWhile isAsciiBlank) = trim cs := by
  induction cs with
  | nil =>
      rfl
  | cons c rest ih =>
      by_cases blank : isAsciiBlank c = true
      · rw [List.dropWhile_cons_of_pos blank, ih]
        unfold trim
        rw [List.dropWhile_cons_of_pos (isBlank_of_isAsciiBlank blank)]
      · rw [List.dropWhile_cons_of_neg blank]

theorem trim_sublist (cs : List Char) :
    List.Sublist (trim cs) cs :=
  (dropEndWhile_isPrefix _ _).sublist.trans (List.dropWhile_sublist _)

theorem trim_ne_nil
    {cs : List Char} {c : Char} (member : c ∈ cs) (solid : isBlank c = false) :
    trim cs ≠ [] := by
  intro none
  have start : cs.dropWhile isBlank = [] := by
    unfold trim dropEndWhile at none
    rw [List.reverse_eq_nil_iff, List.dropWhile_eq_nil_iff] at none
    cases first : cs.dropWhile isBlank with
    | nil =>
        rfl
    | cons d rest =>
        have stopped := head?_dropWhile_isBlank (by rw [first, List.head?_cons])
        rw [none d (by simp [first])] at stopped
        cases stopped
  rw [List.dropWhile_eq_nil_iff.mp start c member] at solid
  cases solid

end Text
end WorkflowWalk
