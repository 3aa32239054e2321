import WorkflowWalk.Document.Canonical
import WorkflowWalk.Proofs.Json.Fields
import WorkflowWalk.Proofs.Text.LetterCase

/-!
# Canonical form is reached at once

What is in canonical form is not changed by bringing it into canonical form again, and that leaves
no notes. It is so for each part on its own: the kinds of nodes, the ids of edges, and their tags.
-/

namespace WorkflowWalk
namespace Canonical

open Fields

/-!
## Nodes
-/

theorem plainKind_plainKind (kind : String) :
    plainKind (plainKind kind) = plainKind kind := by
  unfold plainKind
  rw [Text.strip_lower_strip, Text.lower_lower]

theorem nameKind_of_kind
    {fields : Fields} {kind : Json} (named : fields.get? "kind" = some kind) :
    nameKind fields = (fields, []) := by
  unfold nameKind
  rw [named]

theorem nameKind_nameKind (fields : Fields) :
    nameKind (nameKind fields).1 = ((nameKind fields).1, []) := by
  unfold nameKind
  cases named : fields.get? "kind" with
  | some kind =>
      simp only [named]
  | none =>
      cases known : fields.get? "type" with
      | some kind =>
          simp only [get?_put_self]
      | none =>
          simp only [named, known]

theorem plainifyKind_of_plain
    {fields : Fields} {kind : String} (named : fields.get? "kind" = some (.str kind))
    (plain : plainKind kind = kind) :
    plainifyKind fields = (fields, []) := by
  unfold plainifyKind
  rw [named]
  simp only [if_pos plain]

theorem plainifyKind_cases (fields : Fields) :
    plainifyKind fields = (fields, []) ∨
      ∃ kind, plainKind kind = kind ∧ (plainifyKind fields).1 = fields.put "kind" (.str kind) := by
  unfold plainifyKind
  split
  · rename_i kind _
    by_cases plain : plainKind kind = kind
    · rw [if_pos plain]
      exact Or.inl rfl
    · rw [if_neg plain]
      exact Or.inr ⟨plainKind kind, plainKind_plainKind kind, rfl⟩
  · exact Or.inl rfl

theorem plainifyKind_plainifyKind (fields : Fields) :
    plainifyKind (plainifyKind fields).1 = ((plainifyKind fields).1, []) := by
  rcases plainifyKind_cases fields with same | ⟨kind, plain, changed⟩
  · rw [same]
    exact same
  · rw [changed]
    exact plainifyKind_of_plain (get?_put_self ..) plain

theorem nameKind_plainifyKind
    {fields : Fields} (settled : nameKind fields = (fields, [])) :
    nameKind (plainifyKind fields).1 = ((plainifyKind fields).1, []) := by
  rcases plainifyKind_cases fields with same | ⟨kind, _, changed⟩
  · rw [same]
    exact settled
  · rw [changed]
    exact nameKind_of_kind (get?_put_self ..)

theorem node_node (fields : Fields) :
    node (node fields).1 = ((node fields).1, []) := by
  have settled : nameKind (node fields).1 = ((node fields).1, []) :=
    nameKind_plainifyKind (nameKind_nameKind fields)
  have plain : plainifyKind (node fields).1 = ((node fields).1, []) :=
    plainifyKind_plainifyKind (nameKind fields).1
  rw [node, settled]
  simp only [plain, List.append_nil]

theorem get?_node
    (fields : Fields) {key : String} (apart : key ∉ ["kind", "type"]) :
    (node fields).1.get? key = fields.get? key := by
  have kind : key ≠ "kind" := List.ne_of_not_mem_cons apart
  have type : key ≠ "type" := List.ne_of_not_mem_cons (List.not_mem_of_not_mem_cons apart)
  have named : (nameKind fields).1.get? key = fields.get? key := by
    unfold nameKind
    split
    · rw [get?_put_of_ne _ _ kind, get?_erase_of_ne _ type]
    · rfl
  show (plainifyKind (nameKind fields).1).1.get? key = fields.get? key
  rcases plainifyKind_cases (nameKind fields).1 with same | ⟨plain, _, changed⟩
  · rw [same, named]
  · rw [changed, get?_put_of_ne _ _ kind, named]

theorem nodeItem_nodeItem (item : Json) :
    nodeItem (nodeItem item).1 = ((nodeItem item).1, []) := by
  cases item with
  | obj fields =>
      simp only [nodeItem, node_node]
  | null | bool | int | float | str | arr =>
      rfl

theorem nodeItems_nodeItems (items : List Json) :
    nodeItems (nodeItems items).1 = ((nodeItems items).1, []) := by
  simp only [nodeItems, List.map_map, List.flatMap_map, Prod.mk.injEq, List.map_inj_left,
    List.flatMap_eq_nil_iff, Function.comp]
  constructor
  · intro item _
    rw [nodeItem_nodeItem]
  · intro item _
    rw [nodeItem_nodeItem]

/-!
## Edges
-/

theorem candidate_ne_empty (fields : Fields) (k : Nat) :
    candidate (baseId fields) k ≠ "" := by
  cases k with
  | zero =>
      simp [candidate, baseId]
  | succ k =>
      simp [candidate, baseId]

theorem givenId?_put
    (fields : Fields) {id : String} (solid : id ≠ "") :
    givenId? (fields.put "id" (.str id)) = some id := by
  unfold givenId? Json.field
  rw [get?_put_self]
  simp [Json.isTruthy, Json.shown, solid]

theorem givenId?_congr
    {fields others : Fields} (same : fields.get? "id" = others.get? "id") :
    givenId? fields = givenId? others := by
  unfold givenId? Json.field
  rw [same]

theorem nameEdge_of_given
    {fields : Fields} {id : String} (given : givenId? fields = some id) (taken : List String) :
    nameEdge taken fields = (fields, []) := by
  unfold nameEdge
  rw [given]

theorem givenId?_nameEdge (taken : List String) (fields : Fields) :
    ∃ id, givenId? (nameEdge taken fields).1 = some id := by
  cases given : givenId? fields with
  | some id =>
      exact ⟨id, by rw [nameEdge_of_given given]; exact given⟩
  | none =>
      unfold nameEdge
      rw [given]
      exact ⟨_, givenId?_put fields (candidate_ne_empty fields _)⟩

theorem tagAliases_ne_id : "id" ∉ tagAliases := by
  decide

theorem nameTag_cases (fields : Fields) :
    nameTag fields = (fields, []) ∨
      ∃ key ∈ tagAliases, ∃ tag,
        (nameTag fields).1 = (fields.erase key).put "branchTag" tag := by
  unfold nameTag
  split
  · rename_i key _ found
    exact Or.inr ⟨key, List.mem_of_find?_eq_some found, _, rfl⟩
  · exact Or.inl rfl

theorem nameTag_of_tag
    {fields : Fields} {tag : Json} (tagged : fields.get? "branchTag" = some tag) :
    nameTag fields = (fields, []) := by
  unfold nameTag
  rw [tagged]

theorem nameTag_nameTag (fields : Fields) :
    nameTag (nameTag fields).1 = ((nameTag fields).1, []) := by
  rcases nameTag_cases fields with same | ⟨key, _, tag, changed⟩
  · rw [same]
    exact same
  · rw [changed]
    exact nameTag_of_tag (get?_put_self ..)

theorem givenId?_nameTag (fields : Fields) :
    givenId? (nameTag fields).1 = givenId? fields := by
  rcases nameTag_cases fields with same | ⟨key, among, tag, changed⟩
  · rw [same]
  · rw [changed]
    apply givenId?_congr
    have differs : "id" ≠ key := fun same => tagAliases_ne_id (same ▸ among)
    rw [get?_put_of_ne _ _ (by decide), get?_erase_of_ne _ differs]

theorem givenId?_edge (taken : List String) (fields : Fields) :
    ∃ id, givenId? (edge taken fields).1 = some id := by
  rcases givenId?_nameEdge taken fields with ⟨id, given⟩
  exact ⟨id, (givenId?_nameTag _).trans given⟩

/-- An edge in canonical form has an id, so it does not matter which ids are taken. -/
theorem edge_edge (taken others : List String) (fields : Fields) :
    edge others (edge taken fields).1 = ((edge taken fields).1, []) := by
  rcases givenId?_edge taken fields with ⟨id, given⟩
  have tagged : nameTag (edge taken fields).1 = ((edge taken fields).1, []) :=
    nameTag_nameTag (nameEdge taken fields).1
  rw [edge, nameEdge_of_given given]
  simp only [tagged, List.append_nil]

theorem edgeItems_edgeItems (taken others : List String) (items : List Json) :
    edgeItems others (edgeItems taken items).1 = ((edgeItems taken items).1, []) := by
  induction items generalizing taken others with
  | nil =>
      rfl
  | cons item rest ih =>
      cases item with
      | obj fields =>
          simp only [edgeItems, edge_edge, ih, List.append_nil]
      | null | bool | int | float | str | arr =>
          simp only [edgeItems, ih]

/-!
## Documents
-/

theorem overList_of_settled
    {change : List Json → List Json × List Note} {key : String} {fields : Fields}
    (settled : ∀ items, fields.get? key = some (.arr items) → change items = (items, [])) :
    overList key change fields = (fields, []) := by
  unfold overList
  split
  · rename_i items found
    simp only [settled items found, put_eq_self found]
  · rfl

theorem get?_overList_of_ne
    (change : List Json → List Json × List Note) {key other : String} (differs : other ≠ key)
    (fields : Fields) :
    (overList key change fields).1.get? other = fields.get? other := by
  unfold overList
  split
  · exact get?_put_of_ne _ _ differs
  · rfl

def changed (change : List Json → List Json × List Note) : Option Json → Option Json
  | some (.arr items) => some (.arr (change items).1)
  | other => other

theorem exists_items_of_changed
    {change : List Json → List Json × List Note} {found : Option Json} {items : List Json}
    (listed : changed change found = some (.arr items)) :
    ∃ before, found = some (.arr before) ∧ items = (change before).1 := by
  unfold changed at listed
  split at listed
  · rename_i before
    cases listed
    exact ⟨before, rfl, rfl⟩
  · rename_i other
    exact absurd listed (other items)

theorem get?_overList
    (change : List Json → List Json × List Note) (key : String) (fields : Fields) :
    (overList key change fields).1.get? key = changed change (fields.get? key) := by
  unfold overList
  split
  · rename_i items found
    rw [get?_put_self, found]
    rfl
  · rename_i other
    unfold changed
    split
    · rename_i items found
      exact absurd found (other items)
    · rfl

theorem get?_overList_self
    {change : List Json → List Json × List Note} {key : String} {fields : Fields}
    {items : List Json} (found : (overList key change fields).1.get? key = some (.arr items)) :
    ∃ before, items = (change before).1 := by
  unfold overList at found
  split at found
  · rename_i before _
    rw [get?_put_self] at found
    cases found
    exact ⟨before, rfl⟩
  · rename_i absent
    exact absurd found (absent items)

theorem get?_nodes_normalize (payload : Fields) :
    (normalize payload).1.get? "nodes" = changed nodeItems (payload.get? "nodes") := by
  rw [← get?_overList nodeItems "nodes" payload]
  exact get?_overList_of_ne _ (by decide) _

theorem get?_edges_normalize (payload : Fields) :
    (normalize payload).1.get? "edges" =
      changed (fun items => edgeItems (givenIds items) items) (payload.get? "edges") := by
  rw [← get?_overList_of_ne nodeItems (by decide : "edges" ≠ "nodes") payload]
  exact get?_overList _ "edges" _

theorem normalize_normalize (payload : Fields) :
    normalize (normalize payload).1 = ((normalize payload).1, []) := by
  have nodes : overList "nodes" nodeItems (normalize payload).1 = ((normalize payload).1, []) := by
    apply overList_of_settled
    intro items found
    have same : (overList "nodes" nodeItems payload).1.get? "nodes" = some (.arr items) := by
      rw [← found]
      exact (get?_overList_of_ne _ (by decide) _).symm
    rcases get?_overList_self same with ⟨before, rfl⟩
    exact nodeItems_nodeItems before
  have edges : overList "edges" (fun items => edgeItems (givenIds items) items)
      (normalize payload).1 = ((normalize payload).1, []) := by
    apply overList_of_settled
    intro items found
    rcases get?_overList_self found with ⟨before, rfl⟩
    exact edgeItems_edgeItems ..
  rw [normalize, nodes]
  simp only [edges, List.append_nil]

theorem normalize?_eq_ok_iff
    {payload : Fields} {form : Fields × List Note} :
    normalize? payload = .ok form ↔ writable payload = true ∧ normalize payload = form := by
  unfold normalize?
  cases writable payload <;> simp

end Canonical
end WorkflowWalk
