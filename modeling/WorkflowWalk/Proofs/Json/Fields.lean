import WorkflowWalk.Json.Value

/-!
# Fields of objects

What is found under a key, what is put there, and which fields there are.
-/

namespace WorkflowWalk
namespace Fields

/-!
## What is found
-/

theorem get?_append (first second : Fields) (key : String) :
    get? (first ++ second) key = (first.get? key).or (second.get? key) := by
  induction first with
  | nil =>
      rfl
  | cons field rest ih =>
      rcases field with ⟨name, value⟩
      rw [List.cons_append, get?_cons, get?_cons, ih]
      split <;> rfl

theorem get?_eq_none_iff
    {fields : Fields} {key : String} :
    fields.get? key = none ↔ ∀ field ∈ fields, field.1 ≠ key := by
  induction fields with
  | nil =>
      simp
  | cons field rest ih =>
      rcases field with ⟨name, value⟩
      rw [get?_cons, List.forall_mem_cons]
      by_cases same : name = key
      · simp [same]
      · simp [same, ih]

theorem mem_of_get?
    {fields : Fields} {key : String} {value : Json} (found : fields.get? key = some value) :
    (key, value) ∈ fields := by
  induction fields with
  | nil =>
      cases found
  | cons field rest ih =>
      rcases field with ⟨first, other⟩
      rw [get?_cons] at found
      split at found
      · rename_i same
        cases found
        rw [same]
        exact List.mem_cons_self
      · exact List.mem_cons_of_mem _ (ih found)

/-!
## What is changed
-/

theorem put_eq_self
    {fields : Fields} {key : String} {value : Json} (found : fields.get? key = some value) :
    fields.put key value = fields := by
  induction fields with
  | nil =>
      cases found
  | cons field rest ih =>
      rcases field with ⟨first, old⟩
      rw [get?_cons] at found
      unfold put
      by_cases same : first = key
      · rw [if_pos same, Option.some.injEq] at found
        rw [if_pos same, found]
      · rw [if_neg same] at found
        rw [if_neg same, ih found]

theorem get?_erase_of_ne
    (fields : Fields) {key other : String} (differs : other ≠ key) :
    (fields.erase key).get? other = fields.get? other := by
  induction fields with
  | nil =>
      rfl
  | cons field rest ih =>
      rcases field with ⟨first, value⟩
      unfold erase at ih ⊢
      by_cases dropped : first = key
      · have other : first ≠ other := fun same => differs (same.symm.trans dropped)
        rw [List.filter_cons_of_neg (by simpa using dropped), ih, get?_cons, if_neg other]
      · rw [List.filter_cons_of_pos (by simpa using dropped), get?_cons, get?_cons, ih]

theorem mem_put
    {fields : Fields} {key : String} {value : Json} {field : String × Json}
    (member : field ∈ fields.put key value) :
    field = (key, value) ∨ field ∈ fields := by
  induction fields with
  | nil =>
      exact Or.inl (List.mem_singleton.mp member)
  | cons first rest ih =>
      rcases first with ⟨name, old⟩
      unfold put at member
      split at member
      · rename_i same
        rw [same] at member
        rcases List.mem_cons.mp member with here | later
        · exact Or.inl here
        · exact Or.inr (List.mem_cons_of_mem _ later)
      · rcases List.mem_cons.mp member with here | later
        · exact Or.inr (here ▸ List.mem_cons_self)
        · rcases ih later with new | old
          · exact Or.inl new
          · exact Or.inr (List.mem_cons_of_mem _ old)

theorem put_of_absent
    {fields : Fields} {key : String} {value : Json} (absent : ∀ field ∈ fields, field.1 ≠ key) :
    fields.put key value = fields ++ [(key, value)] := by
  induction fields with
  | nil =>
      rfl
  | cons first rest ih =>
      rcases first with ⟨name, old⟩
      rw [List.forall_mem_cons] at absent
      rw [put, if_neg absent.1, ih absent.2]
      rfl

theorem foldl_put_of_distinct
    {before fields : Fields} (distinct : Distinct (before ++ fields)) :
    fields.foldl (fun collected field => put collected field.1 field.2) before =
      before ++ fields := by
  induction fields generalizing before with
  | nil =>
      rw [List.foldl_nil, List.append_nil]
  | cons first rest ih =>
      have absent : ∀ field ∈ before, field.1 ≠ first.1 := by
        intro field member same
        rw [Distinct, List.map_append, List.nodup_append] at distinct
        exact distinct.2.2 _ (List.mem_map_of_mem member) _ List.mem_cons_self same
      have further : before ++ first :: rest = (before ++ [first]) ++ rest := by
        rw [List.append_assoc, List.singleton_append]
      rw [further] at distinct ⊢
      rw [List.foldl_cons, put_of_absent absent, ih distinct]

theorem ofList_of_distinct
    {fields : Fields} (distinct : Distinct fields) :
    ofList fields = fields :=
  foldl_put_of_distinct distinct

theorem mem_of_mem_erase
    {fields : Fields} {key : String} {field : String × Json} (member : field ∈ fields.erase key) :
    field ∈ fields :=
  (List.mem_filter.mp member).1

end Fields
end WorkflowWalk
