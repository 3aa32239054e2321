import WorkflowWalk.Proofs.Text.Blank
import WorkflowWalk.Text.LetterCase

/-!
# Lower case is settled

What a text becomes in lower case has no other lower case form, and it is blank only where the text
was. For single characters both can be seen from the bounds of the runs in the case table: none of
the images of a run lies in any run, or among the blanks.
-/

namespace WorkflowWalk
namespace Text

/-!
## Runs
-/

/-- A run of code points: the first, the last, the stride, and the image of the first. -/
abbrev CaseRun := Nat × Nat × Nat × Nat

namespace CaseRun

def Holds (run : CaseRun) (n : Nat) : Prop :=
  run.1 ≤ n ∧ n ≤ run.2.1 ∧ (n - run.1) % run.2.2.1 = 0

def image (run : CaseRun) (n : Nat) : Nat :=
  run.2.2.2 + (n - run.1)

def apart (run other : CaseRun) : Bool :=
  Nat.blt (run.2.2.2 + (run.2.1 - run.1)) other.1 || Nat.blt other.2.1 run.2.2.2 ||
    ((Nat.beq (run.2.2.1 % 2) 0 || Nat.beq run.1 run.2.1) && Nat.beq (other.2.2.1 % 2) 0 &&
      !Nat.beq (run.2.2.2 % 2) (other.1 % 2))

theorem mod_two_of_even_stride
    {n stride : Nat} (even : stride % 2 = 0) (multiple : n % stride = 0) :
    n % 2 = 0 :=
  Nat.mod_eq_zero_of_dvd
    (Nat.dvd_trans (Nat.dvd_of_mod_eq_zero even) (Nat.dvd_of_mod_eq_zero multiple))

theorem not_holds_image
    {run other : CaseRun} (clear : run.apart other = true) {n : Nat} (holds : run.Holds n) :
    ¬other.Holds (run.image n) := by
  rcases run with ⟨first, last, stride, image⟩
  rcases other with ⟨low, high, step, _⟩
  simp only [apart, Bool.or_eq_true, Bool.and_eq_true, Nat.blt_eq, Bool.not_eq_true',
    Nat.beq_eq] at clear
  rintro ⟨above, below, grid⟩
  rcases holds with ⟨start, finish, multiple⟩
  simp only [CaseRun.image] at *
  rcases clear with (before | after) | ⟨⟨single, even⟩, odd⟩
  · omega
  · omega
  · have offset : (n - first) % 2 = 0 := by
      rcases single with evenRun | onlyOne
      · exact mod_two_of_even_stride evenRun multiple
      · have none : n - first = 0 := by omega
        rw [none]
    have position := mod_two_of_even_stride even grid
    have differ : image % 2 ≠ low % 2 := by
      intro same
      simp [same] at odd
    omega

end CaseRun

theorem image?_eq_some
    {runs : List CaseRun} {n m : Nat} (found : image? runs n = some m) :
    ∃ run ∈ runs, run.Holds n ∧ run.image n = m := by
  rcases List.exists_of_findSome?_eq_some found with ⟨run, member, taken⟩
  refine ⟨run, member, ?_⟩
  split at taken
  split at taken
  · rename_i holds
    cases taken
    exact ⟨holds, rfl⟩
  · cases taken

theorem image?_eq_none_iff
    {runs : List CaseRun} {n : Nat} :
    image? runs n = none ↔ ∀ run ∈ runs, ¬run.Holds n := by
  unfold image?
  rw [List.findSome?_eq_none_iff]
  constructor
  · intro missed run member holds
    have taken := missed run member
    simp only [ite_eq_right_iff, reduceCtorEq, imp_false] at taken
    exact taken holds
  · intro missed run member
    simp only [ite_eq_right_iff, reduceCtorEq, imp_false]
    exact missed run member

/-!
## The case table
-/

/-- The blanks, and the capital letter that has a lower case form of two characters, as runs. -/
def reserved : List CaseRun :=
  [(0x130, 0x130, 1, 0), (0x09, 0x0D, 1, 0), (0x1C, 0x20, 1, 0), (0x85, 0x85, 1, 0),
    (0xA0, 0xA0, 1, 0), (0x1680, 0x1680, 1, 0), (0x2000, 0x200A, 1, 0), (0x2028, 0x2028, 1, 0),
    (0x2029, 0x2029, 1, 0), (0x202F, 0x202F, 1, 0), (0x205F, 0x205F, 1, 0),
    (0x3000, 0x3000, 1, 0)]

def CaseRun.scalar (run : CaseRun) : Bool :=
  Nat.blt (run.2.2.2 + (run.2.1 - run.1)) 0xD800 ||
    (Nat.blt 0xDFFF run.2.2.2 && Nat.blt (run.2.2.2 + (run.2.1 - run.1)) 0x110000)

theorem lowerRuns_apart :
    CaseTable.lowerRuns.all (fun run => CaseTable.lowerRuns.all (CaseRun.apart run)) = true := by
  decide +kernel

theorem lowerRuns_apart_reserved :
    CaseTable.lowerRuns.all (fun run => reserved.all (CaseRun.apart run)) = true := by
  decide +kernel

theorem lowerRuns_scalar :
    CaseTable.lowerRuns.all CaseRun.scalar = true := by
  decide +kernel

/-!
## Lower case forms of characters
-/

theorem toNat_ofNat_of_valid
    {n : Nat} (valid : n.isValidChar) :
    (Char.ofNat n).toNat = n := by
  unfold Char.ofNat
  rw [dif_pos valid]
  rfl

structure LowerImage (n m : Nat) : Prop where
  valid : m.isValidChar
  settled : image? CaseTable.lowerRuns m = none
  unreserved : ∀ run ∈ reserved, ¬CaseRun.Holds run m

theorem lowerImage_of_image?
    {n m : Nat} (found : image? CaseTable.lowerRuns n = some m) :
    LowerImage n m := by
  rcases image?_eq_some found with ⟨run, member, holds, rfl⟩
  constructor
  · have scalar := List.all_eq_true.mp lowerRuns_scalar run member
    rcases holds with ⟨start, finish, _⟩
    simp only [CaseRun.scalar, Bool.or_eq_true, Bool.and_eq_true, Nat.blt_eq] at scalar
    unfold CaseRun.image Nat.isValidChar
    omega
  · rw [image?_eq_none_iff]
    intro other among
    have clear := List.all_eq_true.mp (List.all_eq_true.mp lowerRuns_apart run member) other among
    exact CaseRun.not_holds_image clear holds
  · intro other among
    have clear :=
      List.all_eq_true.mp (List.all_eq_true.mp lowerRuns_apart_reserved run member) other among
    exact CaseRun.not_holds_image clear holds

theorem lowerChar_eq_self
    {c : Char} (plain : c.toNat ≠ 0x130) (settled : image? CaseTable.lowerRuns c.toNat = none) :
    lowerChar c = [c] := by
  have small : ¬(0x41 ≤ c.toNat ∧ c.toNat ≤ 0x5A) := by
    rintro ⟨start, finish⟩
    have outside := image?_eq_none_iff.mp settled (0x41, 0x5A, 1, 0x61) List.mem_cons_self
    exact outside ⟨start, finish, Nat.mod_one _⟩
  unfold lowerChar
  simp only [if_neg small, if_neg plain, settled, Option.map_none, Option.getD_none, ite_self]

/-- A lower case form of a character: it is its own lower case form, and it is blank only if the
character is. -/
structure LowerForm (c d : Char) : Prop where
  settled : lowerChar d = [d]
  solid : isBlank c = false → isBlank d = false

theorem lowerForm_self
    {c : Char} (settled : lowerChar c = [c]) :
    LowerForm c c :=
  ⟨settled, fun solid => solid⟩

theorem not_isBlank_of_unreserved
    {c : Char} (unreserved : ∀ run ∈ reserved, ¬CaseRun.Holds run c.toNat) :
    isBlank c = false := by
  simp only [reserved, List.forall_mem_cons, CaseRun.Holds, Nat.mod_one, not_and, imp_false,
    not_true_eq_false] at unreserved
  simp only [isBlank, Bool.or_eq_false_iff, Bool.and_eq_false_iff, decide_eq_false_iff_not,
    beq_eq_false_iff_ne]
  omega

theorem lowerForm_of_ascii
    {c : Char} (ascii : c.toNat < 0x80) :
    ∃ d, lowerChar c = [d] ∧ LowerForm c d := by
  by_cases capital : 0x41 ≤ c.toNat ∧ c.toNat ≤ 0x5A
  · have code : (Char.ofNat (c.toNat + 0x20)).toNat = c.toNat + 0x20 :=
      toNat_ofNat_of_valid (Or.inl (by omega))
    refine ⟨Char.ofNat (c.toNat + 0x20), ?_, ?_, ?_⟩
    · simp only [lowerChar, if_pos ascii, if_pos capital]
    · simp only [lowerChar, code]
      rw [if_pos (by omega), if_neg (by omega)]
    · intro _
      simp only [isBlank, code, Bool.or_eq_false_iff, Bool.and_eq_false_iff,
        decide_eq_false_iff_not, beq_eq_false_iff_ne]
      omega
  · have settled : lowerChar c = [c] := by
      simp only [lowerChar, if_pos ascii, if_neg capital]
    exact ⟨c, settled, lowerForm_self settled⟩

theorem lowerForm_of_mem_lowerChar
    {c d : Char} (member : d ∈ lowerChar c) :
    LowerForm c d := by
  by_cases ascii : c.toNat < 0x80
  · rcases lowerForm_of_ascii ascii with ⟨only, whole, form⟩
    rw [whole, List.mem_singleton] at member
    rw [member]
    exact form
  by_cases dotted : c.toNat = 0x130
  · simp only [lowerChar, if_neg ascii, if_pos dotted] at member
    rcases List.mem_cons.mp member with rfl | mark
    · exact ⟨by decide, fun _ => by decide⟩
    · rw [List.mem_singleton.mp mark]
      exact ⟨by decide, fun _ => by decide⟩
  · simp only [lowerChar, if_neg ascii, if_neg dotted, List.mem_singleton] at member
    cases found : image? CaseTable.lowerRuns c.toNat with
    | none =>
        rw [member, found]
        exact lowerForm_self (lowerChar_eq_self dotted found)
    | some m =>
        have image := lowerImage_of_image? found
        have code : d.toNat = m := by
          rw [member, found]
          exact toNat_ofNat_of_valid image.valid
        rw [← code] at image
        constructor
        · apply lowerChar_eq_self
          · intro same
            exact image.unreserved (0x130, 0x130, 1, 0) List.mem_cons_self
              ⟨Nat.le_of_eq same.symm, Nat.le_of_eq same, Nat.mod_one _⟩
          · exact image.settled
        · intro _
          exact not_isBlank_of_unreserved image.unreserved

/-!
## Lower case forms of texts

The capital sigma is the only character whose lower case form depends on its place, and no lower
case form contains it.
-/

theorem lowerChar_ne_nil (c : Char) :
    lowerChar c ≠ [] := by
  unfold lowerChar
  simp only
  split
  · exact List.cons_ne_nil _ _
  · split <;> exact List.cons_ne_nil _ _

def lowerFirst (before : List Char) (c : Char) (rest : List Char) : List Char :=
  if c = 'Σ' then [if meetsCased before && !meetsCased rest then 'ς' else 'σ'] else lowerChar c

theorem lowerAfter_cons (before : List Char) (c : Char) (rest : List Char) :
    lowerAfter before (c :: rest) = lowerFirst before c rest ++ lowerAfter (c :: before) rest :=
  rfl

theorem lowerFirst_ne_nil (before : List Char) (c : Char) (rest : List Char) :
    lowerFirst before c rest ≠ [] := by
  unfold lowerFirst
  split
  · exact List.cons_ne_nil _ _
  · exact lowerChar_ne_nil c

theorem lowerForm_of_mem_lowerFirst
    {before rest : List Char} {c d : Char} (member : d ∈ lowerFirst before c rest) :
    LowerForm c d := by
  unfold lowerFirst at member
  split at member
  · rw [List.mem_singleton] at member
    split at member <;> rw [member] <;> exact ⟨by decide, fun _ => by decide⟩
  · exact lowerForm_of_mem_lowerChar member

theorem settled_of_mem_lowerAfter
    {before cs : List Char} {d : Char} (member : d ∈ lowerAfter before cs) :
    lowerChar d = [d] := by
  induction cs generalizing before with
  | nil =>
      cases member
  | cons c rest ih =>
      rw [lowerAfter_cons] at member
      rcases List.mem_append.mp member with here | later
      · exact (lowerForm_of_mem_lowerFirst here).settled
      · exact ih later

theorem lowerAfter_of_settled
    {cs : List Char} (settled : ∀ c ∈ cs, lowerChar c = [c]) (before : List Char) :
    lowerAfter before cs = cs := by
  induction cs generalizing before with
  | nil =>
      rfl
  | cons c rest ih =>
      have own : lowerChar c = [c] := settled c List.mem_cons_self
      have small : c ≠ 'Σ' := by
        intro capital
        rw [capital] at own
        exact absurd own (by decide)
      have later := ih (fun d member => settled d (List.mem_cons_of_mem _ member)) (c :: before)
      rw [lowerAfter_cons, lowerFirst, if_neg small, own, later]
      rfl

theorem lower_lower (text : String) :
    lower (lower text) = lower text := by
  unfold lower
  rw [String.toList_ofList, lowerAfter_of_settled]
  intro c member
  exact settled_of_mem_lowerAfter member

/-!
## Lower case and blanks
-/

theorem lowerForm_of_head?
    {before rest : List Char} {c d : Char}
    (first : (lowerAfter before (c :: rest)).head? = some d) :
    LowerForm c d := by
  rw [lowerAfter_cons] at first
  cases forms : lowerFirst before c rest with
  | nil =>
      exact absurd forms (lowerFirst_ne_nil before c rest)
  | cons form more =>
      rw [forms, List.cons_append, List.head?_cons, Option.some.injEq] at first
      apply lowerForm_of_mem_lowerFirst
      rw [forms, first]
      exact List.mem_cons_self

theorem lowerForm_of_getLast?
    {before cs : List Char} {d : Char} (last : (lowerAfter before cs).getLast? = some d) :
    ∃ c, cs.getLast? = some c ∧ LowerForm c d := by
  induction cs generalizing before with
  | nil =>
      cases last
  | cons c rest ih =>
      rw [lowerAfter_cons, List.getLast?_append] at last
      cases ending : (lowerAfter (c :: before) rest).getLast? with
      | none =>
          have nothing : rest = [] := by
            cases rest with
            | nil =>
                rfl
            | cons next more =>
                rw [List.getLast?_eq_none_iff, lowerAfter_cons, List.append_eq_nil_iff] at ending
                exact absurd ending.1 (lowerFirst_ne_nil _ next more)
          rw [ending, Option.none_or] at last
          exact ⟨c, by rw [nothing]; rfl, lowerForm_of_mem_lowerFirst (List.mem_of_getLast? last)⟩
      | some final =>
          rw [ending, Option.some_or] at last
          rcases ih (ending.trans last) with ⟨own, final, form⟩
          refine ⟨own, ?_, form⟩
          rw [List.getLast?_cons, final]
          rfl

theorem Trimmed.lowerAfter
    {cs : List Char} (trimmed : Trimmed cs) (before : List Char) :
    Trimmed (lowerAfter before cs) := by
  constructor
  · intro d first
    cases cs with
    | nil =>
        cases first
    | cons c rest =>
        exact (lowerForm_of_head? first).solid (trimmed.first c rfl)
  · intro d last
    rcases lowerForm_of_getLast? last with ⟨c, own, form⟩
    exact form.solid (trimmed.last c own)

theorem strip_lower_strip (text : String) :
    strip (lower (strip text)) = lower (strip text) := by
  unfold strip lower
  simp only [String.toList_ofList]
  rw [trim_of_trimmed ((trimmed_trim text.toList).lowerAfter [])]

end Text
end WorkflowWalk
