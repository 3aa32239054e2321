import WorkflowWalk.Document.Printer
import WorkflowWalk.Proofs.Document.Canonical
import WorkflowWalk.Proofs.Document.Reading

/-!
# Saved forms

The saved form of a document is in canonical form, so it is read item by item. Its edges are read as
they were. Of the data of a node all fields are read that are saved from what the node says, and no
other field that is kept with a node has one of their keys.
-/

namespace WorkflowWalk
namespace Document

open Reading

/-!
## Numbers that are not finite
-/

theorem finiteItems_eq_map (items : List Json) :
    finiteItems items = items.map finiteOnly := by
  induction items with
  | nil =>
      rfl
  | cons item rest ih =>
      rw [finiteItems, ih, List.map_cons]

theorem finiteFields_eq_map (fields : Fields) :
    finiteFields fields = fields.map fun field => (field.1, finiteOnly field.2) := by
  induction fields with
  | nil =>
      rfl
  | cons field rest ih =>
      rw [finiteFields, ih, List.map_cons]

mutual

theorem finiteOnly_finiteOnly (value : Json) :
    finiteOnly (finiteOnly value) = finiteOnly value := by
  cases value with
  | float number =>
      cases finite : number.isFinite <;> simp [finiteOnly, finite]
  | arr items =>
      exact congrArg Json.arr (finiteItems_finiteItems items)
  | obj fields =>
      exact congrArg Json.obj (finiteFields_finiteFields fields)
  | null | bool | int | str =>
      rfl

theorem finiteItems_finiteItems (items : List Json) :
    finiteItems (finiteItems items) = finiteItems items := by
  cases items with
  | nil =>
      rfl
  | cons item rest =>
      rw [finiteItems, finiteItems, finiteOnly_finiteOnly item, finiteItems_finiteItems rest]

theorem finiteFields_finiteFields (fields : List (String × Json)) :
    finiteFields (finiteFields fields) = finiteFields fields := by
  cases fields with
  | nil =>
      rfl
  | cons field rest =>
      rcases field with ⟨key, value⟩
      rw [finiteFields, finiteFields, finiteOnly_finiteOnly value, finiteFields_finiteFields rest]

end

def isSpecial : Json → Bool
  | .float value => !value.isFinite
  | _ => false

theorem isNull_finiteOnly (value : Json) :
    isNull (finiteOnly value) = (isNull value || isSpecial value) := by
  cases value with
  | float number =>
      cases finite : number.isFinite <;> simp [finiteOnly, finite, isNull, isSpecial]
  | null | bool | int | str | arr | obj =>
      simp [finiteOnly, isNull, isSpecial]

/-!
## Parts of bodies
-/

theorem readBranch_branchJson (branch : Branch) :
    readBranch (branchJson branch) = .ok branch :=
  rfl

theorem readActionItem_actionItemJson (item : ActionItem) :
    readActionItem (actionItemJson .saved item) = .ok item := by
  rcases item with ⟨type, title, value⟩
  cases value <;> rfl

theorem optional_list_of_get?
    {α : Type} {read : Json → Reading α} (write : α → Json)
    (same : ∀ value, read (write value) = .ok value) {fields : Fields} {key : String}
    {values : List α} (listed : fields.get? key = some (.arr (values.map write))) :
    optional [] key (list read) fields = .ok values := by
  rw [optional_eq_ok]
  refine Or.inr ⟨_, listed, ?_⟩
  rw [list_eq_ok]
  refine ⟨_, rfl, ?_⟩
  rw [List.forall₂_map_left_iff, List.forall₂_same]
  intro value _
  exact same value

/-!
## Edges
-/

theorem readEdge_edgeJson (edge : Edge) :
    readEdge (edgeJson .saved edge) = .ok edge := by
  rcases edge with ⟨id, source, target, tag, id_ne, source_ne, target_ne⟩
  rw [readEdge_eq_ok]
  cases tag <;> exact ⟨_, rfl, rfl, rfl, rfl, rfl⟩

/-!
## Items that are read
-/

theorem exists_item_of_node
    {payload : Fields} {document : Document} (read : ofFields payload = .ok document) {node : Node}
    (member : node ∈ document.nodes) :
    ∃ items, payload.get? "nodes" = some (.arr items) ∧ ∃ item ∈ items,
      readNode (Canonical.nodeItem item).1 = .ok node := by
  rcases ofFields_eq_ok.mp read with ⟨_, nodes, _⟩
  rcases exists_item_of_readItems nodes member with ⟨items, listed, item, among, one⟩
  rw [Problem.Collection.name, Canonical.get?_nodes_normalize payload] at listed
  rcases Canonical.exists_items_of_changed listed with ⟨before, found, rfl⟩
  rcases List.mem_map.mp among with ⟨first, earlier, rfl⟩
  exact ⟨before, found, first, earlier, one⟩

theorem exists_edge_of_mem_edgeItems
    {items : List Json} {taken : List String} {fields : Fields}
    (member : .obj fields ∈ (Canonical.edgeItems taken items).1) :
    ∃ others before, .obj before ∈ items ∧ fields = (Canonical.edge others before).1 := by
  induction items generalizing taken with
  | nil =>
      cases member
  | cons item rest ih =>
      have later {known : List String} (among : .obj fields ∈ (Canonical.edgeItems known rest).1) :
          ∃ others before, .obj before ∈ item :: rest ∧
            fields = (Canonical.edge others before).1 := by
        rcases ih among with ⟨others, before, earlier, same⟩
        exact ⟨others, before, List.mem_cons_of_mem _ earlier, same⟩
      cases item with
      | obj before =>
          rcases List.mem_cons.mp member with same | among
          · exact ⟨taken, before, List.mem_cons_self, Json.obj.inj same⟩
          · exact later among
      | null | bool | int | float | str | arr =>
          rcases List.mem_cons.mp member with same | among
          · cases same
          · exact later among

theorem exists_item_of_edge
    {payload : Fields} {document : Document} (read : ofFields payload = .ok document) {edge : Edge}
    (member : edge ∈ document.edges) :
    ∃ items, payload.get? "edges" = some (.arr items) ∧ ∃ taken fields, .obj fields ∈ items ∧
      readEdge (.obj (Canonical.edge taken fields).1) = .ok edge := by
  rcases ofFields_eq_ok.mp read with ⟨_, _, edges⟩
  rcases exists_item_of_readItems edges member with ⟨items, listed, item, among, one⟩
  rw [Problem.Collection.name, Canonical.get?_edges_normalize payload] at listed
  rcases Canonical.exists_items_of_changed listed with ⟨before, found, rfl⟩
  rcases readEdge_eq_ok.mp one with ⟨fields, rfl, _⟩
  rcases exists_edge_of_mem_edgeItems among with ⟨taken, own, earlier, rfl⟩
  exact ⟨before, found, taken, own, earlier, one⟩

/-!
## Canonical form
-/

theorem nodeItem_nodeJson (form : Form) (node : Node) :
    Canonical.nodeItem (nodeJson form node) = (nodeJson form node, []) := by
  have plain : Canonical.plainKind node.kind.name = node.kind.name := by
    cases node.kind <;> rfl
  simp only [nodeJson, Canonical.nodeItem, Canonical.node]
  rw [Canonical.nameKind_of_kind rfl]
  simp only
  rw [Canonical.plainifyKind_of_plain rfl plain]
  rfl

theorem nodeItems_map_nodeJson (form : Form) (nodes : List Node) :
    Canonical.nodeItems (nodes.map (nodeJson form)) = (nodes.map (nodeJson form), []) := by
  simp [Canonical.nodeItems, nodeItem_nodeJson, Function.comp_def]

theorem exists_fields_of_edgeJson (edge : Edge) :
    ∃ fields, edgeJson .saved edge = .obj fields ∧ Json.field fields "id" = .str edge.id ∧
      Canonical.nameTag fields = (fields, []) := by
  rcases edge with ⟨id, source, target, tag, id_ne, source_ne, target_ne⟩
  cases tag <;> exact ⟨_, rfl, rfl, rfl⟩

theorem edge_of_edgeJson
    {edge : Edge} {fields : Fields} (id : Json.field fields "id" = .str edge.id)
    (tagged : Canonical.nameTag fields = (fields, [])) (taken : List String) :
    Canonical.edge taken fields = (fields, []) := by
  have given : Canonical.givenId? fields = some edge.id := by
    simp [Canonical.givenId?, id, Json.isTruthy, Json.shown, edge.id_ne]
  rw [Canonical.edge, Canonical.nameEdge_of_given given]
  simp only [tagged, List.append_nil]

theorem edgeItems_map_edgeJson (taken : List String) (edges : List Edge) :
    Canonical.edgeItems taken (edges.map (edgeJson .saved)) = (edges.map (edgeJson .saved), []) := by
  induction edges with
  | nil =>
      rfl
  | cons edge rest ih =>
      rcases exists_fields_of_edgeJson edge with ⟨fields, written, id, tagged⟩
      rw [List.map_cons, written, Canonical.edgeItems, edge_of_edgeJson id tagged]
      simp only [Canonical.madeIds, List.filterMap_nil, List.nil_append, ih]

theorem normalize_toFields (document : Document) :
    Canonical.normalize (document.toFields .saved) = (document.toFields .saved, []) := by
  have nodes : Canonical.overList "nodes" Canonical.nodeItems (document.toFields .saved) =
      (document.toFields .saved, []) := by
    apply Canonical.overList_of_settled
    intro items found
    cases found
    exact nodeItems_map_nodeJson .saved document.nodes
  have edges : Canonical.overList "edges"
      (fun items => Canonical.edgeItems (Canonical.givenIds items) items)
      (document.toFields .saved) = (document.toFields .saved, []) := by
    apply Canonical.overList_of_settled
    intro items found
    cases found
    exact edgeItems_map_edgeJson _ document.edges
  rw [Canonical.normalize, nodes]
  simp only [edges, List.append_nil]

theorem writable_toFields (document : Document) :
    Canonical.writable (document.toFields .saved) = true := by
  have nodes : ∀ item ∈ document.nodes.map (nodeJson .saved),
      Canonical.nodeWritable item = true := by
    intro item member
    rcases List.mem_map.mp member with ⟨node, _, rfl⟩
    rfl
  have edges : ∀ item ∈ document.edges.map (edgeJson .saved),
      Canonical.edgeWritable item = true := by
    intro item member
    rcases List.mem_map.mp member with ⟨edge, _, rfl⟩
    rcases exists_fields_of_edgeJson edge with ⟨fields, written, id, _⟩
    simp [written, Canonical.edgeWritable, id, Json.isTruthy, Json.writable, edge.id_ne]
  rw [← List.all_eq_true] at nodes edges
  rw [Canonical.writable, Bool.and_eq_true]
  exact ⟨nodes, edges⟩

theorem readItems_map_eq_ok
    {α : Type} {collection : Problem.Collection} {read : Json → Reading α} (write : α → Json)
    {payload : Fields} {values again : List α}
    (listed : payload.get? collection.name = some (.arr (values.map write))) :
    readItems collection read payload = .ok again ↔
      List.Forall₂ (fun value more => read (write value) = .ok more) values again := by
  rw [readItems_eq_ok, listed]
  simp [List.forall₂_map_left_iff]

theorem ofFields_toFields_eq_ok
    {document again : Document} :
    ofFields (document.toFields .saved) = .ok again ↔
      List.Forall₂ (fun node more => readNode (nodeJson .saved node) = .ok more)
        document.nodes again.nodes ∧ again.edges = document.edges := by
  have edges : readItems .edges readEdge (document.toFields .saved) = .ok again.edges ↔
      again.edges = document.edges := by
    rw [readItems_map_eq_ok (edgeJson .saved) rfl]
    simp only [readEdge_edgeJson, Except.ok.injEq]
    rw [List.forall₂_eq_eq_eq]
    exact eq_comm
  rw [ofFields_eq_ok, normalize_toFields, edges, readItems_map_eq_ok (nodeJson .saved) rfl]
  simp [writable_toFields]

/-!
## Data of nodes
-/

def savedKeys : Body → List String
  | .level .. => ["label", "levelName", "levelType", "steps"]
  | .condition _ => ["label", "branches"]
  | .action _ => ["label", "actions"]

/-- What an editor keeps with a node has none of the keys of its data. -/
def Apart (node : Node) : Prop :=
  ∀ field ∈ node.extras, field.1 ∉ savedKeys node.body

theorem presentKey_of_has
    {fields : Fields} {key : String} (has : fields.has key = true) (other : String) :
    presentKey fields key other = key := by
  simp [presentKey, has]

theorem presentKey_of_mem
    {fields : Fields} {key : String} {value : Json} (member : (key, value) ∈ fields)
    (other : String) :
    presentKey fields key other = key := by
  apply presentKey_of_has
  unfold Fields.has
  rw [Option.isSome_iff_ne_none]
  intro none
  exact Fields.get?_eq_none_iff.mp none _ member rfl

theorem mem_readKeys
    {fields : Fields} {field : String × Json} (member : field ∈ fields) {body : Body}
    (saved : field.1 ∈ savedKeys body) :
    field.1 ∈ readKeys fields body := by
  cases body with
  | level name type steps =>
      rcases field with ⟨key, value⟩
      simp only [savedKeys, List.mem_cons, List.not_mem_nil, or_false] at saved
      rcases saved with rfl | rfl | rfl | rfl
      · simp [readKeys, levelKeys]
      · simp [readKeys, levelKeys, presentKey_of_mem member]
      · simp [readKeys, levelKeys, presentKey_of_mem member]
      · simp [readKeys, levelKeys]
  | condition | action =>
      exact saved

theorem apart_of_readNode
    {json : Json} {node : Node} (read : readNode json = .ok node) :
    Apart node := by
  intro field member saved
  rcases exists_data_of_readNode read with none | ⟨fields, data, _, _, kept⟩
  · rw [none] at member
    cases member
  · rw [kept] at member
    rcases mem_extras.mp member with ⟨among, unread⟩
    exact unread (mem_readKeys among saved)

end Document
end WorkflowWalk
