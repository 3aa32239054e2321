import WorkflowWalk.Proofs.Document.Canonical

/-!
# Integers with a text

If each integer in a value has a text, then so has each one that is met when the value is brought into
canonical form, and the canonical form has no other integers.
-/

namespace WorkflowWalk

open Json

/-!
## Values
-/

namespace Json

theorem writableItems_iff
    {items : List Json} :
    writableItems items = true ↔ ∀ item ∈ items, item.writable = true := by
  induction items with
  | nil =>
      simp [writableItems]
  | cons item rest ih =>
      simp [writableItems, ih]

theorem writableFields_iff
    {fields : Fields} :
    writableFields fields = true ↔ ∀ field ∈ fields, field.2.writable = true := by
  induction fields with
  | nil =>
      simp [writableFields]
  | cons field rest ih =>
      simp [writableFields, ih]

theorem writable_of_get?
    {fields : Fields} (writable : writableFields fields = true) {key : String} {value : Json}
    (found : fields.get? key = some value) :
    value.writable = true :=
  writableFields_iff.mp writable _ (Fields.mem_of_get? found)

theorem writable_of_mem
    {fields : Fields} (writable : writableFields fields = true) {key : String} {items : List Json}
    (found : fields.get? key = some (.arr items)) {item : Json} (member : item ∈ items) :
    item.writable = true :=
  writableItems_iff.mp (writable_of_get? writable found) item member

theorem writable_field
    {fields : Fields} (writable : writableFields fields = true) (key : String) :
    (Json.field fields key).writable = true := by
  unfold field
  cases found : fields.get? key with
  | none =>
      rfl
  | some value =>
      exact writable_of_get? writable found

theorem writableFields_put
    {fields : Fields} (writable : writableFields fields = true) {value : Json}
    (written : value.writable = true) (key : String) :
    writableFields (fields.put key value) = true := by
  rw [writableFields_iff] at writable ⊢
  intro field member
  rcases Fields.mem_put member with rfl | among
  · exact written
  · exact writable field among

theorem writableFields_erase
    {fields : Fields} (writable : writableFields fields = true) (key : String) :
    writableFields (fields.erase key) = true := by
  rw [writableFields_iff] at writable ⊢
  intro field member
  exact writable field (Fields.mem_of_mem_erase member)

end Json

/-!
## Canonical form
-/

namespace Canonical

theorem nodeWritable_of_writable
    {item : Json} (writable : item.writable = true) :
    nodeWritable item = true := by
  cases item with
  | obj fields =>
      exact writable_field writable "id"
  | null | bool | int | float | str | arr =>
      rfl

theorem edgeWritable_of_writable
    {item : Json} (writable : item.writable = true) :
    edgeWritable item = true := by
  cases item with
  | obj fields =>
      have id := writable_field writable "id"
      have source := writable_field writable "source"
      have target := writable_field writable "target"
      simp [edgeWritable, id, source, target]
  | null | bool | int | float | str | arr =>
      rfl

theorem allItems_of_writable
    {payload : Fields} (writable : writableFields payload = true) {p : Json → Bool}
    (holds : ∀ {item : Json}, item.writable = true → p item = true) (key : String) :
    allItems key p payload = true := by
  unfold allItems
  split
  · rename_i items found
    rw [List.all_eq_true]
    intro item member
    exact holds (writable_of_mem writable found member)
  · rfl

theorem writable_of_writableFields
    {payload : Fields} (fields : writableFields payload = true) :
    writable payload = true := by
  rw [writable, allItems_of_writable fields nodeWritable_of_writable,
    allItems_of_writable fields edgeWritable_of_writable]
  rfl

theorem writableFields_node
    {fields : Fields} (writable : writableFields fields = true) :
    writableFields (node fields).1 = true := by
  have named : writableFields (nameKind fields).1 = true := by
    unfold nameKind
    split
    · rename_i kind _ found
      exact writableFields_put (writableFields_erase writable _) (writable_of_get? writable found) _
    · exact writable
  rcases plainifyKind_cases (nameKind fields).1 with same | ⟨kind, _, changed⟩
  · show writableFields (plainifyKind (nameKind fields).1).1 = true
    rw [same]
    exact named
  · show writableFields (plainifyKind (nameKind fields).1).1 = true
    rw [changed]
    exact writableFields_put named rfl _

theorem writableFields_edge
    {fields : Fields} (writable : writableFields fields = true) (taken : List String) :
    writableFields (edge taken fields).1 = true := by
  have named : writableFields (nameEdge taken fields).1 = true := by
    unfold nameEdge
    split
    · exact writable
    · exact writableFields_put writable rfl _
  show writableFields (nameTag (nameEdge taken fields).1).1 = true
  unfold nameTag
  split
  · rename_i key _ _
    exact writableFields_put (writableFields_erase named _) (writable_field named key) _
  · exact named

theorem writable_nodeItems
    {items : List Json} (writable : ∀ item ∈ items, item.writable = true) :
    ∀ item ∈ (nodeItems items).1, item.writable = true := by
  intro item member
  rcases List.mem_map.mp member with ⟨before, among, rfl⟩
  cases before with
  | obj fields =>
      exact writableFields_node (writable _ among)
  | null | bool | int | float | str | arr =>
      exact writable _ among

theorem writable_edgeItems
    {items : List Json} (writable : ∀ item ∈ items, item.writable = true) (taken : List String) :
    ∀ item ∈ (edgeItems taken items).1, item.writable = true := by
  induction items generalizing taken with
  | nil =>
      intro item member
      cases member
  | cons first rest ih =>
      have later := ih fun item among => writable item (List.mem_cons_of_mem _ among)
      have here := writable first List.mem_cons_self
      cases first with
      | obj fields =>
          intro item member
          rcases List.mem_cons.mp member with rfl | among
          · exact writableFields_edge here taken
          · exact later _ item among
      | null | bool | int | float | str | arr =>
          intro item member
          rcases List.mem_cons.mp member with rfl | among
          · exact here
          · exact later _ item among

theorem writableFields_overList
    {change : List Json → List Json × List Note}
    (keeps : ∀ items : List Json, (∀ item ∈ items, item.writable = true) →
      ∀ item ∈ (change items).1, item.writable = true)
    (key : String) {fields : Fields} (writable : writableFields fields = true) :
    writableFields (overList key change fields).1 = true := by
  unfold overList
  split
  · rename_i items found
    have changed : (Json.arr (change items).1).writable = true :=
      writableItems_iff.mpr (keeps items fun _ member => writable_of_mem writable found member)
    exact writableFields_put writable changed _
  · exact writable

theorem writableFields_normalize
    {payload : Fields} (writable : writableFields payload = true) :
    writableFields (normalize payload).1 = true :=
  writableFields_overList (fun items keeps => writable_edgeItems keeps (givenIds items)) _
    (writableFields_overList (fun _ => writable_nodeItems) _ writable)

end Canonical

end WorkflowWalk
