import Mathlib.Data.List.Perm.Basic
import Mathlib.Data.Prod.Lex
import Mathlib.Data.String.Basic
import WorkflowWalk.Check.Diagnostic

/-!
# Diagnostics as they are listed

Diagnostics are listed in the order of their places: by how severe they are, by their codes and by
the ids of their nodes. Those with one place keep the order in which they are given. These two rules
leave no choice, so whatever keeps the order among diagnostics with one place commutes with the
listing: to leave some out, or to give the diagnostics in another order.
-/

namespace WorkflowWalk

/-!
## Lists in order
-/

section Order

variable {α κ : Type} [LinearOrder κ] {key : α → κ} {items others : List α}

/-- Two lists have at each key the same items in the same order. -/
def SameByKey (key : α → κ) (items others : List α) : Prop :=
  ∀ value, items.filter (key · = value) = others.filter (key · = value)

theorem SameByKey.trans
    {more : List α} (same : SameByKey key items others) (also : SameByKey key others more) :
    SameByKey key items more :=
  fun value => (same value).trans (also value)

theorem SameByKey.symm
    (same : SameByKey key items others) :
    SameByKey key others items :=
  fun value => (same value).symm

theorem SameByKey.filter
    (same : SameByKey key items others) (keep : α → Bool) :
    SameByKey key (items.filter keep) (others.filter keep) := by
  intro value
  rw [List.filter_filter, List.filter_filter, List.filter_congr fun item _ => Bool.and_comm _ _,
    ← List.filter_filter, same value, List.filter_filter,
    List.filter_congr fun item _ => Bool.and_comm _ _]

theorem SameByKey.mem_of_mem
    (same : SameByKey key items others) {item : α} (member : item ∈ items) :
    item ∈ others := by
  have among : item ∈ items.filter (key · = key item) :=
    List.mem_filter.mpr ⟨member, decide_eq_true rfl⟩
  rw [same] at among
  exact (List.mem_filter.mp among).1

theorem SameByKey.of_cons
    {first second : α} (same : SameByKey key (first :: items) (second :: others))
    (keys : key first = key second) :
    first = second ∧ SameByKey key items others := by
  have here := same (key second)
  rw [List.filter_cons_of_pos (by simpa using keys), List.filter_cons_of_pos (by simp)] at here
  rcases List.cons.inj here with ⟨rfl, _⟩
  refine ⟨rfl, ?_⟩
  intro value
  have there := same value
  by_cases reached : key first = value
  · rw [List.filter_cons_of_pos (by simpa using reached),
      List.filter_cons_of_pos (by simpa using reached)] at there
    exact (List.cons.inj there).2
  · rw [List.filter_cons_of_neg (by simpa using reached),
      List.filter_cons_of_neg (by simpa using reached)] at there
    exact there

theorem key_le_of_mem
    {first item : α} (ordered : (first :: items).Pairwise (key · ≤ key ·))
    (member : item ∈ first :: items) :
    key first ≤ key item := by
  rcases List.mem_cons.mp member with rfl | later
  · exact le_refl _
  · exact List.rel_of_pairwise_cons ordered later

/-- A list in order is determined by its items at each key. -/
theorem SameByKey.eq_of_pairwise
    (same : SameByKey key items others) (ordered : items.Pairwise (key · ≤ key ·))
    (orderedToo : others.Pairwise (key · ≤ key ·)) :
    items = others := by
  induction items generalizing others with
  | nil =>
      cases others with
      | nil =>
          rfl
      | cons second rest =>
          exact absurd (same.symm.mem_of_mem List.mem_cons_self) List.not_mem_nil
  | cons first rest ih =>
      cases others with
      | nil =>
          exact absurd (same.mem_of_mem List.mem_cons_self) List.not_mem_nil
      | cons second more =>
          have keys : key first = key second :=
            le_antisymm (key_le_of_mem ordered (same.symm.mem_of_mem List.mem_cons_self))
              (key_le_of_mem orderedToo (same.mem_of_mem List.mem_cons_self))
          rcases same.of_cons keys with ⟨rfl, later⟩
          rw [ih later ordered.of_cons orderedToo.of_cons]

end Order

namespace Diagnostic

/-!
## Places
-/

/-- What diagnostics are put in order by: how severe they are, their codes and the ids of their
nodes. A diagnostic without a node goes first. -/
def place (diagnostic : Diagnostic) : Nat ×ₗ String ×ₗ String :=
  toLex (diagnostic.severity.rank, toLex (diagnostic.code, diagnostic.nodeId.getD ""))

theorem le_iff
    {one other : Diagnostic} :
    le one other = true ↔ one.place ≤ other.place := by
  unfold le place
  rw [Prod.Lex.toLex_le_toLex, Prod.Lex.toLex_le_toLex]
  by_cases ranks : one.severity.rank = other.severity.rank
  · by_cases codes : one.code = other.code
    · simp [ranks, codes, -String.lt_iff_ltb]
    · simp [ranks, codes, -String.lt_iff_ltb]
  · simp [ranks]

/-!
## Sorting
-/

theorem trans_le (first second third : Diagnostic) :
    le first second = true → le second third = true → le first third = true := by
  rw [le_iff, le_iff, le_iff]
  exact le_trans

theorem total_le (one other : Diagnostic) :
    (le one other || le other one) = true := by
  rw [Bool.or_eq_true, le_iff, le_iff]
  exact le_total one.place other.place

theorem sorted_perm (diagnostics : List Diagnostic) :
    (sorted diagnostics).Perm diagnostics :=
  List.mergeSort_perm diagnostics le

theorem pairwise_sorted (diagnostics : List Diagnostic) :
    (sorted diagnostics).Pairwise (place · ≤ place ·) := by
  apply (List.pairwise_mergeSort trans_le total_le diagnostics).imp
  intro one other
  exact le_iff.mp

theorem sameByKey_sorted (diagnostics : List Diagnostic) :
    SameByKey place (sorted diagnostics) diagnostics := by
  intro value
  have level : (diagnostics.filter (place · = value)).Pairwise fun one other => le one other := by
    apply List.pairwise_of_forall_mem_list
    intro one memberOne other memberOther
    rw [le_iff, of_decide_eq_true (List.mem_filter.mp memberOne).2,
      of_decide_eq_true (List.mem_filter.mp memberOther).2]
  have kept : (diagnostics.filter (place · = value)).Sublist (sorted diagnostics) :=
    List.sublist_mergeSort trans_le total_le level List.filter_sublist
  have among := kept.filter (place · = value)
  rw [List.filter_filter] at among
  simp only [Bool.and_self] at among
  exact (among.eq_of_length ((sorted_perm diagnostics).filter _).length_eq.symm).symm

/-!
## Listings
-/

def lines (diagnostics : List Diagnostic) : String :=
  String.intercalate "\n" (diagnostics.map ("- " ++ ·.text))

theorem sorted_eq_of_sameByKey
    {diagnostics others : List Diagnostic} (same : SameByKey place others diagnostics) :
    sorted others = sorted diagnostics := by
  have agree : SameByKey place (sorted others) (sorted diagnostics) :=
    (sameByKey_sorted others).trans (same.trans (sameByKey_sorted diagnostics).symm)
  exact agree.eq_of_pairwise (pairwise_sorted others) (pairwise_sorted diagnostics)

/-- It does not matter whether diagnostics are left out before or after the others are sorted. -/
theorem sorted_filter (diagnostics : List Diagnostic) (keep : Diagnostic → Bool) :
    sorted (diagnostics.filter keep) = (sorted diagnostics).filter keep := by
  have agree : SameByKey place (sorted (diagnostics.filter keep))
      ((sorted diagnostics).filter keep) :=
    (sameByKey_sorted _).trans ((sameByKey_sorted diagnostics).symm.filter keep)
  exact agree.eq_of_pairwise (pairwise_sorted _) ((pairwise_sorted diagnostics).filter keep)

/-- Diagnostics are written as one list of all of them, each once, in the order of their places and,
with one place, in the order in which they are given. Without those that only inform it is the same
list with these left out. The list does not change if the diagnostics are given in another order, as
long as those with one place keep theirs. -/
theorem render_stable (diagnostics : List Diagnostic) :
    ∃ listed : List Diagnostic,
      listed.Perm diagnostics ∧ listed.Pairwise (place · ≤ place ·) ∧
      (∀ value, listed.filter (place · = value) = diagnostics.filter (place · = value)) ∧
      render diagnostics true = lines listed ∧
      render diagnostics false = lines (listed.filter (·.severity ≠ .info)) ∧
      ∀ others, others.Perm diagnostics →
        (∀ value, others.filter (place · = value) = diagnostics.filter (place · = value)) →
        ∀ withInfo, render others withInfo = render diagnostics withInfo := by
  refine ⟨sorted diagnostics, sorted_perm diagnostics, pairwise_sorted diagnostics,
    sameByKey_sorted diagnostics, ?_, ?_, ?_⟩
  · simp only [render, lines, Bool.true_or, List.filter_true]
  · simp only [render, lines, Bool.false_or, sorted_filter]
  · intro others _ same withInfo
    rw [render, render, sorted_filter, sorted_filter, sorted_eq_of_sameByKey same]

def misread (message : String) : Diagnostic where
  code := "SCHEMA_VALIDATION_FAILED"
  severity := .error
  message := message
  nodeId := none
  path := none
  hint := none

def endless (id : String) : Diagnostic where
  code := "CONDITION_NO_ELSE"
  severity := .info
  message := "Runs end at '" ++ id ++ "' when no branch matches."
  nodeId := some id
  path := none
  hint := none

theorem render_stable_misread :
    [misread "nodes", endless "gate", misread "edges"].Perm
      [endless "gate", misread "nodes", misread "edges"] ∧
    (∀ value,
      [misread "nodes", endless "gate", misread "edges"].filter (place · = value) =
        [endless "gate", misread "nodes", misread "edges"].filter (place · = value)) ∧
    ∀ withInfo,
      render [misread "nodes", endless "gate", misread "edges"] withInfo =
        render [endless "gate", misread "nodes", misread "edges"] withInfo := by
  have order : [misread "nodes", endless "gate", misread "edges"].Perm
      [endless "gate", misread "nodes", misread "edges"] :=
    .swap _ _ _
  have same : ∀ value,
      [misread "nodes", endless "gate", misread "edges"].filter (place · = value) =
        [endless "gate", misread "nodes", misread "edges"].filter (place · = value) := by
    intro value
    by_cases reached : place (misread "nodes") = value
    · have other : place (endless "gate") ≠ value := by
        rw [← reached]
        intro places
        exact absurd (congrArg (fun position => (ofLex position).1) places) (by decide)
      simp [List.filter_cons, reached, other]
    · simp [List.filter_cons, reached]
  rcases render_stable [endless "gate", misread "nodes", misread "edges"] with
    ⟨_, _, _, _, _, _, stable⟩
  exact ⟨order, same, stable _ order same⟩

end Diagnostic
end WorkflowWalk
