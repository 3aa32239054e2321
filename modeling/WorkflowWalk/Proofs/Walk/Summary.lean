import Mathlib.Algebra.Ring.Nat
import Mathlib.Data.List.Induction
import WorkflowWalk.Proofs.Json.Fields
import WorkflowWalk.Walk.Printer

/-!
# What summaries count

The kinds of the steps are counted one after the other, and the branches taken are shown under the
ids of their nodes. Neither loses anything: each kind has the number of its steps, in the order in
which the kinds appear first, and no branch takes the place of another one as long as no node is
visited twice.
-/

namespace WorkflowWalk
namespace Walk
namespace Summary

/-!
## Kinds in the order in which they appear
-/

theorem eraseDups_concat (kinds : List String) (kind : String) :
    (kinds ++ [kind]).eraseDups =
      if kind ∈ kinds then kinds.eraseDups else kinds.eraseDups ++ [kind] := by
  rw [List.eraseDups_append]
  by_cases known : kind ∈ kinds
  · simp [List.removeAll, known]
  · simp [List.removeAll, known, List.eraseDups_cons]

theorem nodup_eraseDups (kinds : List String) :
    kinds.eraseDups.Nodup := by
  induction kinds using List.reverseRecOn with
  | nil =>
      exact List.nodup_nil
  | append_singleton kinds kind ih =>
      rw [eraseDups_concat]
      split
      · exact ih
      · rename_i unknown
        refine List.nodup_append.mpr ⟨ih, List.pairwise_singleton _ kind, ?_⟩
        intro earlier member last isLast same
        rw [same, List.mem_singleton.mp isLast] at member
        exact unknown (List.mem_eraseDups.mp member)

/-!
## Counts
-/

theorem countIn_of_not_mem
    {kind : String} {kinds : List String} (unknown : kind ∉ kinds) (count : String → Nat) :
    countIn kind (kinds.map fun key => (key, count key)) =
      (kinds.map fun key => (key, count key)) ++ [(kind, 1)] := by
  induction kinds with
  | nil =>
      rfl
  | cons first rest ih =>
      have differs : first ≠ kind := fun same => unknown (same ▸ List.mem_cons_self)
      have later : kind ∉ rest := fun member => unknown (List.mem_cons_of_mem _ member)
      rw [List.map_cons, countIn, if_neg differs, ih later]
      rfl

theorem countIn_of_mem
    {kind : String} {kinds : List String} (known : kind ∈ kinds) (distinct : kinds.Nodup)
    (count : String → Nat) :
    countIn kind (kinds.map fun key => (key, count key)) =
      kinds.map fun key => (key, count key + if key = kind then 1 else 0) := by
  induction kinds with
  | nil =>
      cases known
  | cons first rest ih =>
      rcases List.nodup_cons.mp distinct with ⟨once, distinctRest⟩
      rw [List.map_cons, List.map_cons, countIn]
      by_cases same : first = kind
      · have others : ∀ key ∈ rest, (key, count key) =
            (key, count key + if key = kind then 1 else 0) := by
          intro key member
          have differs : key ≠ kind := fun again => once (same ▸ again ▸ member)
          rw [if_neg differs, Nat.add_zero]
        rw [if_pos same, if_pos same, List.map_congr_left others]
      · have later : kind ∈ rest := List.mem_of_ne_of_mem (Ne.symm same) known
        rw [if_neg same, if_neg same, ih later distinctRest]
        rfl

theorem countKinds_concat (kinds : List String) (kind : String) :
    countKinds (kinds ++ [kind]) = countIn kind (countKinds kinds) := by
  rw [countKinds, List.foldl_append]
  rfl

/-- Each kind has its count, and the kinds stand in the order in which they appear first. -/
theorem countKinds_eq (kinds : List String) :
    countKinds kinds = kinds.eraseDups.map fun kind => (kind, kinds.count kind) := by
  induction kinds using List.reverseRecOn with
  | nil =>
      rfl
  | append_singleton kinds kind ih =>
      have counted : ∀ key, (kinds ++ [kind]).count key =
          kinds.count key + if key = kind then 1 else 0 := by
        intro key
        rw [List.count_append, List.count_singleton]
        simp only [beq_iff_eq, eq_comm (a := key)]
      rw [countKinds_concat, ih, eraseDups_concat]
      by_cases known : kind ∈ kinds
      · rw [if_pos known,
          countIn_of_mem (List.mem_eraseDups.mpr known) (nodup_eraseDups kinds)]
        simp only [counted]
      · have apart : kind ∉ kinds.eraseDups := fun member => known (List.mem_eraseDups.mp member)
        have same : ∀ key ∈ kinds.eraseDups, (key, kinds.count key) =
            (key, (kinds ++ [kind]).count key) := by
          intro key member
          have differs : key ≠ kind := fun again => apart (again ▸ member)
          rw [counted, if_neg differs, Nat.add_zero]
        rw [if_neg known, countIn_of_not_mem apart, List.map_append, List.map_congr_left same]
        simp [counted, List.count_eq_zero_of_not_mem known]

theorem sum_countIn (kind : String) (counts : List (String × Nat)) :
    ((countIn kind counts).map Prod.snd).sum = (counts.map Prod.snd).sum + 1 := by
  induction counts with
  | nil =>
      rfl
  | cons first rest ih =>
      rcases first with ⟨name, count⟩
      rw [countIn]
      split
      · simp only [List.map_cons, List.sum_cons]
        omega
      · simp only [List.map_cons, List.sum_cons, ih]
        omega

theorem sum_countKinds (kinds : List String) :
    ((countKinds kinds).map Prod.snd).sum = kinds.length := by
  induction kinds using List.reverseRecOn with
  | nil =>
      rfl
  | append_singleton kinds kind ih =>
      rw [countKinds_concat, sum_countIn, ih, List.length_append, List.length_singleton]

/-!
## Branches by node
-/

theorem branchOf?_id
    {step : Step} {taken : String × String} (took : branchOf? step = some taken) :
    taken.1 = step.nodeId := by
  rcases Option.map_eq_some_iff.mp took with ⟨branch, _, rfl⟩
  rfl

theorem branchesJson_of_nodup
    {steps : List Step} (distinct : (steps.map (·.nodeId)).Nodup) :
    branchesJson (steps.filterMap branchOf?) =
      .obj ((steps.filterMap branchOf?).map fun (id, branch) => (id, .str branch)) := by
  have ids : ((steps.filterMap branchOf?).map Prod.fst).Sublist (steps.map (·.nodeId)) := by
    induction steps with
    | nil =>
        exact List.Sublist.slnil
    | cons step rest ih =>
        have later := ih (List.nodup_cons.mp distinct).2
        cases took : branchOf? step with
        | none =>
            rw [List.filterMap_cons_none took]
            exact later.cons _
        | some taken =>
            rw [List.filterMap_cons_some took, List.map_cons, List.map_cons, branchOf?_id took]
            exact later.cons_cons _
  have keys : Fields.Distinct
      ((steps.filterMap branchOf?).map fun (id, branch) => (id, Json.str branch)) := by
    unfold Fields.Distinct
    rw [List.map_map]
    exact distinct.sublist ids
  rw [branchesJson, Fields.ofList_of_distinct keys]

end Summary
end Walk
end WorkflowWalk
