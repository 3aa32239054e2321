import WorkflowWalk.Proofs.Document.Saved
import WorkflowWalk.Proofs.Json.KeyOrder

/-!
# Keys of saved forms

If no object in a value has a key twice, then none has in the saved form of the document that is
read from the value: what is kept with a node comes from one object, and its keys are not among
those of the fields that the node is written with.
-/

namespace WorkflowWalk
namespace Document

open Json

/-!
## What is kept with a node
-/

theorem keysDistinct_of_get?
    {fields : Fields} (distinct : (Json.obj fields).keysDistinct = true) {key : String}
    {value : Json} (found : fields.get? key = some value) :
    value.keysDistinct = true :=
  (keysDistinct_obj.mp distinct).2 _ (Fields.mem_of_get? found)

theorem keysDistinct_filter
    {fields : Fields} (distinct : (Json.obj fields).keysDistinct = true)
    (p : String × Json → Bool) :
    (Json.obj (fields.filter p)).keysDistinct = true := by
  rw [keysDistinct_obj] at distinct ⊢
  constructor
  · exact distinct.1.sublist (List.filter_sublist.map Prod.fst)
  · intro field member
    exact distinct.2 field (List.mem_filter.mp member).1

theorem keysDistinct_extras_of_readNode
    {item : Json} (distinct : item.keysDistinct = true) {node : Node}
    (read : readNode (Canonical.nodeItem item).1 = .ok node) :
    (Json.obj node.extras).keysDistinct = true := by
  rcases exists_data_of_readNode read with none | ⟨fields, data, written, found, kept⟩
  · rw [none]
    rfl
  · rw [kept]
    cases item with
    | obj before =>
        -- Bringing a node into canonical form changes nothing under the key of its data.
        have canonical : (Canonical.node before).1 = fields := Json.obj.inj written
        rw [← canonical, Canonical.get?_node before (by decide)] at found
        exact keysDistinct_filter (keysDistinct_of_get? distinct found) _
    | null | bool _ | int _ | float _ | str _ | arr _ =>
        cases written

theorem keysDistinct_extras_of_ofFields
    {payload : Fields} {document : Document}
    (distinct : (Json.obj payload).keysDistinct = true)
    (read : ofFields payload = .ok document) {node : Node} (member : node ∈ document.nodes) :
    (Json.obj node.extras).keysDistinct = true := by
  rcases exists_item_of_node read member with ⟨items, found, item, among, one⟩
  have each := keysDistinct_arr.mp (keysDistinct_of_get? distinct found)
  exact keysDistinct_extras_of_readNode (each item among) one

/-!
## Written values
-/

theorem keys_finiteFields (fields : Fields) :
    (finiteFields fields).map Prod.fst = fields.map Prod.fst := by
  rw [finiteFields_eq_map, List.map_map]
  rfl

theorem keysDistinct_finiteOnly
    {value : Json} (distinct : value.keysDistinct = true) :
    (finiteOnly value).keysDistinct = true := by
  induction value using membersInduction with
  | null | bool _ | int _ | str _ =>
      rfl
  | float number =>
      unfold finiteOnly
      split <;> rfl
  | arr items ih =>
      rw [keysDistinct_arr] at distinct
      show (Json.arr (finiteItems items)).keysDistinct = true
      rw [finiteItems_eq_map, keysDistinct_arr]
      intro item member
      rcases List.mem_map.mp member with ⟨before, among, rfl⟩
      exact ih before among (distinct before among)
  | obj fields ih =>
      rw [keysDistinct_obj] at distinct
      show (Json.obj (finiteFields fields)).keysDistinct = true
      rw [keysDistinct_obj]
      constructor
      · unfold Fields.Distinct
        rw [keys_finiteFields]
        exact distinct.1
      · intro field member
        rw [finiteFields_eq_map] at member
        rcases List.mem_map.mp member with ⟨before, among, rfl⟩
        exact ih before among (distinct.2 before among)

theorem keysDistinct_arr_map
    {α : Type} {write : α → Json} {values : List α}
    (each : ∀ value ∈ values, (write value).keysDistinct = true) :
    (Json.arr (values.map write)).keysDistinct = true := by
  rw [keysDistinct_arr]
  intro item member
  rcases List.mem_map.mp member with ⟨value, among, rfl⟩
  exact each value among

theorem keysDistinct_ofText? (text : Option String) :
    (Json.ofText? text).keysDistinct = true := by
  cases text <;> rfl

theorem keysDistinct_keep
    {fields : Fields} (distinct : (Json.obj fields).keysDistinct = true) (form : Form) :
    (Json.obj (form.keep fields)).keysDistinct = true := by
  cases form with
  | full =>
      exact distinct
  | saved =>
      exact keysDistinct_filter distinct _

theorem keysDistinct_actionItemJson (form : Form) (item : ActionItem) :
    (actionItemJson form item).keysDistinct = true := by
  apply keysDistinct_keep
  simp [keysDistinct, keysDistinctFields, keysDistinct_ofText?]

theorem keys_own (form : Form) (label : String) (body : Body) :
    (("label", Json.str label) :: bodyFields form body).map Prod.fst = savedKeys body := by
  cases body <;> rfl

theorem nodup_savedKeys (body : Body) :
    (savedKeys body).Nodup := by
  cases body with
  | level _ _ _ =>
      show ["label", "levelName", "levelType", "steps"].Nodup
      decide
  | condition _ =>
      show ["label", "branches"].Nodup
      decide
  | action _ =>
      show ["label", "actions"].Nodup
      decide

theorem keysDistinct_bodyFields (form : Form) (body : Body) :
    ∀ field ∈ bodyFields form body, field.2.keysDistinct = true := by
  cases body with
  | level name type steps =>
      have texts : (Json.ofTexts steps).keysDistinct = true :=
        keysDistinct_arr_map fun _ _ => rfl
      simp [bodyFields, keysDistinct_ofText?, texts]
  | condition branches =>
      have each : (Json.arr (branches.map branchJson)).keysDistinct = true :=
        keysDistinct_arr_map fun _ _ => rfl
      simp [bodyFields, each]
  | action items =>
      have each : (Json.arr (items.map (actionItemJson form))).keysDistinct = true :=
        keysDistinct_arr_map fun item _ => keysDistinct_actionItemJson form item
      simp [bodyFields, each]

theorem keysDistinct_own (form : Form) (label : String) (body : Body) :
    (Json.obj (("label", .str label) :: bodyFields form body)).keysDistinct = true := by
  rw [keysDistinct_obj, Fields.Distinct, keys_own, List.forall_mem_cons]
  exact ⟨nodup_savedKeys body, rfl, keysDistinct_bodyFields form body⟩

theorem keysDistinct_append
    {first second : Fields} (one : (Json.obj first).keysDistinct = true)
    (two : (Json.obj second).keysDistinct = true)
    (apart : ∀ field ∈ second, field.1 ∉ first.map Prod.fst) :
    (Json.obj (first ++ second)).keysDistinct = true := by
  rw [keysDistinct_obj, Fields.Distinct] at one two ⊢
  constructor
  · rw [List.map_append, List.nodup_append']
    refine ⟨one.1, two.1, ?_⟩
    intro key earlier later
    rcases List.mem_map.mp later with ⟨field, member, rfl⟩
    exact apart field member earlier
  · intro field member
    rcases List.mem_append.mp member with earlier | later
    · exact one.2 field earlier
    · exact two.2 field later

theorem keysDistinct_nodeJson
    {node : Node} (distinct : (Json.obj node.extras).keysDistinct = true) (apart : Apart node) :
    (nodeJson .saved node).keysDistinct = true := by
  have own := keysDistinct_keep (keysDistinct_own .saved node.label node.body) .saved
  have kept := keysDistinct_finiteOnly (keysDistinct_keep distinct .saved)
  have data : (Json.obj (dataFields .saved node)).keysDistinct = true := by
    apply keysDistinct_append own kept
    intro field member among
    rw [finiteFields_eq_map] at member
    rcases List.mem_map.mp member with ⟨before, earlier, rfl⟩
    apply apart before (List.mem_filter.mp earlier).1
    rw [← keys_own .saved node.label node.body]
    exact (List.filter_sublist.map Prod.fst).mem among
  rw [nodeJson, keysDistinct_obj]
  refine ⟨?_, ?_⟩
  · show ["id", "kind", "data"].Nodup
    decide
  · simp only [List.forall_mem_cons]
    exact ⟨rfl, rfl, data, List.forall_mem_nil _⟩

theorem keysDistinct_edgeJson (edge : Edge) :
    (edgeJson .saved edge).keysDistinct = true := by
  apply keysDistinct_keep
  simp [keysDistinct, keysDistinctFields, keysDistinct_ofText?]

/-- In the saved form of a document that is read from a value no object has a key twice, if none has
in the value. -/
theorem keysDistinct_payload_of_ofFields
    {payload : Fields} {document : Document}
    (distinct : (Json.obj payload).keysDistinct = true) (read : ofFields payload = .ok document) :
    document.payload.keysDistinct = true := by
  have nodes : (Json.arr (document.nodes.map (nodeJson .saved))).keysDistinct = true := by
    apply keysDistinct_arr_map
    intro node member
    rcases ofFields_eq_ok.mp read with ⟨_, all, _⟩
    rcases exists_item_of_readItems all member with ⟨_, _, _, _, one⟩
    exact keysDistinct_nodeJson (keysDistinct_extras_of_ofFields distinct read member)
      (apart_of_readNode one)
  have edges : (Json.arr (document.edges.map (edgeJson .saved))).keysDistinct = true :=
    keysDistinct_arr_map fun edge _ => keysDistinct_edgeJson edge
  show (Json.obj (document.toFields .saved)).keysDistinct = true
  rw [toFields, keysDistinct_obj]
  refine ⟨?_, ?_⟩
  · show ["nodes", "edges"].Nodup
    decide
  · simp only [List.forall_mem_cons]
    exact ⟨nodes, edges, List.forall_mem_nil _⟩

end Document
end WorkflowWalk
