import WorkflowWalk.Document.Rejection
import WorkflowWalk.Proofs.Result

/-!
# What has been read

A reading succeeds exactly if each of its parts does, so what it has read says what stood at which
place. It is so for each reader, up to that of documents.
-/

namespace WorkflowWalk

namespace Document
namespace Reading

variable {ε α β : Type}

/-!
## Parts of items
-/

theorem both_eq_ok
    {first : Except (List ε) α} {second : Except (List ε) β} {pair : α × β} :
    both first second = .ok pair ↔ first = .ok pair.1 ∧ second = .ok pair.2 := by
  rcases pair with ⟨one, two⟩
  cases first <;> cases second <;> simp [both]

theorem under_eq_ok
    {part : Problem.Part} {reading : Reading α} {value : α} :
    under part reading = .ok value ↔ reading = .ok value := by
  cases reading <;> simp [under]

theorem object_eq_ok
    {shape : Problem.Shape} {read : Fields → Reading α} {json : Json} {value : α} :
    object shape read json = .ok value ↔ ∃ fields, json = .obj fields ∧ read fields = .ok value := by
  cases json <;> simp [object, flaw]

theorem optional_eq_ok
    {default : α} {key : String} {read : Json → Reading α} {fields : Fields} {value : α} :
    optional default key read fields = .ok value ↔
      (fields.get? key = none ∧ value = default) ∨
        ∃ json, fields.get? key = some json ∧ read json = .ok value := by
  unfold optional
  cases fields.get? key with
  | none =>
      simp [eq_comm]
  | some json =>
      simp [under_eq_ok]

theorem required_eq_ok
    {key : String} {read : Json → Reading α} {fields : Fields} {value : α} :
    required key read fields = .ok value ↔
      ∃ json, fields.get? key = some json ∧ read json = .ok value := by
  unfold required
  rw [under_eq_ok]
  cases fields.get? key with
  | none =>
      simp [flaw]
  | some json =>
      simp

/-!
## Texts
-/

theorem text_eq_ok
    {json : Json} {value : String} :
    text json = .ok value ↔ json = .str value := by
  cases json <;> simp [text, flaw]

theorem text?_eq_ok
    {json : Json} {value : Option String} :
    text? json = .ok value ↔ json = .ofText? value := by
  cases value <;> cases json <;> simp [text?, flaw, Json.ofText?]

theorem word_eq_ok
    {json : Json} {value : { value : String // value ≠ "" }} :
    word json = .ok value ↔ json = .str value.val := by
  rcases value with ⟨value, solid⟩
  cases json with
  | str other =>
      unfold word
      by_cases given : other = ""
      · have differs : other ≠ value := fun same => solid (same.symm.trans given)
        simp [given, flaw, Ne.symm solid]
      · simp [given]
  | null | bool | int | float | arr | obj =>
      simp [word, flaw]

theorem required_word_eq_ok
    {key : String} {fields : Fields} {value : { value : String // value ≠ "" }} :
    required key word fields = .ok value ↔ fields.get? key = some (.str value.val) := by
  simp [required_eq_ok, word_eq_ok]

/-!
## Lists
-/

theorem eachFrom_cons_eq_ok
    {read : Nat → Json → Except (List ε) α} {item : Json} {rest : List Json} {position : Nat}
    {values : List α} :
    eachFrom read position (item :: rest) = .ok values ↔
      ∃ value others, read position item = .ok value ∧
        eachFrom read (position + 1) rest = .ok others ∧ values = value :: others := by
  rw [eachFrom]
  cases read position item <;> cases eachFrom read (position + 1) rest <;> simp [both, eq_comm]

theorem eachFrom_eq_ok
    {read : Nat → Json → Except (List ε) α} {reader : Json → Reading α}
    (same : ∀ position item value, read position item = .ok value ↔ reader item = .ok value)
    {items : List Json} {position : Nat} {values : List α} :
    eachFrom read position items = .ok values ↔
      List.Forall₂ (fun item value => reader item = .ok value) items values := by
  induction items generalizing position values with
  | nil =>
      simp [eachFrom, eq_comm]
  | cons item rest ih =>
      rw [eachFrom_cons_eq_ok, List.forall₂_cons_left_iff]
      constructor
      · rintro ⟨value, others, one, later, listed⟩
        exact ⟨value, others, (same ..).mp one, ih.mp later, listed⟩
      · rintro ⟨value, others, one, later, listed⟩
        exact ⟨value, others, (same ..).mpr one, ih.mpr later, listed⟩

theorem list_eq_ok
    {read : Json → Reading α} {json : Json} {values : List α} :
    list read json = .ok values ↔
      ∃ items, json = .arr items ∧
        List.Forall₂ (fun item value => read item = .ok value) items values := by
  cases json with
  | arr items =>
      unfold list
      rw [eachFrom_eq_ok (fun _ _ _ => under_eq_ok)]
      simp
  | null | bool | int | float | str | obj =>
      simp [list, flaw]

end Reading

open Reading

/-!
## Data of nodes
-/

theorem presentKey_eq_or (fields : Fields) (key other : String) :
    presentKey fields key other = key ∨ presentKey fields key other = other := by
  unfold presentKey
  split
  · exact Or.inr rfl
  · exact Or.inl rfl

theorem readLevel_eq_ok
    {fields : Fields} {label : String} {body : Body} {rest : Fields} :
    readLevel fields = .ok (label, body, rest) ↔
      ∃ name type steps, body = .level name type steps ∧
        optional "" "label" text fields = .ok label ∧
        optional none (presentKey fields "levelName" "level_name") text? fields = .ok name ∧
        optional none (presentKey fields "levelType" "level_type") text? fields = .ok type ∧
        optional [] "steps" (list text) fields = .ok steps ∧
        rest = extras (levelKeys fields) fields := by
  unfold readLevel
  simp only [map_eq_ok, both_eq_ok, Prod.exists, Prod.mk.injEq]
  constructor
  · rintro ⟨_, name, type, steps, ⟨first, second, third, last⟩, rfl, rfl, rfl⟩
    exact ⟨name, type, steps, rfl, first, second, third, last, rfl⟩
  · rintro ⟨name, type, steps, rfl, first, second, third, last, rfl⟩
    exact ⟨label, name, type, steps, ⟨first, second, third, last⟩, rfl, rfl, rfl⟩

theorem readCondition_eq_ok
    {fields : Fields} {label : String} {body : Body} {rest : Fields} :
    readCondition fields = .ok (label, body, rest) ↔
      ∃ branches, body = .condition branches ∧
        optional "" "label" text fields = .ok label ∧
        optional [] "branches" (list readBranch) fields = .ok branches ∧
        rest = extras ["label", "branches"] fields := by
  unfold readCondition
  simp only [map_eq_ok, both_eq_ok, Prod.exists, Prod.mk.injEq]
  constructor
  · rintro ⟨_, branches, ⟨first, last⟩, rfl, rfl, rfl⟩
    exact ⟨branches, rfl, first, last, rfl⟩
  · rintro ⟨branches, rfl, first, last, rfl⟩
    exact ⟨label, branches, ⟨first, last⟩, rfl, rfl, rfl⟩

theorem readAction_eq_ok
    {fields : Fields} {label : String} {body : Body} {rest : Fields} :
    readAction fields = .ok (label, body, rest) ↔
      ∃ items, body = .action items ∧
        optional "" "label" text fields = .ok label ∧
        optional [] "actions" (list readActionItem) fields = .ok items ∧
        rest = extras ["label", "actions"] fields := by
  unfold readAction
  simp only [map_eq_ok, both_eq_ok, Prod.exists, Prod.mk.injEq]
  constructor
  · rintro ⟨_, items, ⟨first, last⟩, rfl, rfl, rfl⟩
    exact ⟨items, rfl, first, last, rfl⟩
  · rintro ⟨items, rfl, first, last, rfl⟩
    exact ⟨label, items, ⟨first, last⟩, rfl, rfl, rfl⟩

theorem mem_extras
    {keys : List String} {fields : Fields} {field : String × Json} :
    field ∈ extras keys fields ↔ field ∈ fields ∧ field.1 ∉ keys := by
  simp [extras]

def readKeys (fields : Fields) : Body → List String
  | .level .. => levelKeys fields
  | .condition _ => ["label", "branches"]
  | .action _ => ["label", "actions"]

theorem extras_of_readData
    {kind : Kind} {fields : Fields} {label : String} {body : Body} {rest : Fields}
    (read : readData kind fields = .ok (label, body, rest)) :
    rest = extras (readKeys fields body) fields := by
  cases kind with
  | level =>
      rcases readLevel_eq_ok.mp read with ⟨_, _, _, rfl, _, _, _, _, kept⟩
      exact kept
  | condition =>
      rcases readCondition_eq_ok.mp read with ⟨_, rfl, _, _, kept⟩
      exact kept
  | action =>
      rcases readAction_eq_ok.mp read with ⟨_, rfl, _, _, kept⟩
      exact kept

/-!
## Nodes and edges
-/

theorem name_eq_of_named?
    {name : String} {kind : Kind} (named : Kind.named? name = some kind) :
    kind.name = name := by
  simpa using List.find?_some named

theorem eq_of_name_eq
    {one other : Kind} (same : one.name = other.name) :
    one = other := by
  rw [← Option.some.injEq, ← Kind.named?_name one, same, Kind.named?_name]

theorem readNode_eq_ok
    {json : Json} {node : Node} :
    readNode json = .ok node ↔
      ∃ (fields : Fields) (kind : Kind), json = .obj fields ∧
        fields.get? "kind" = some (.str kind.name) ∧ fields.get? "id" = some (.str node.id) ∧
        optional (emptyData kind) "data" (object (dataShape kind) (readData kind)) fields =
          .ok (node.label, node.body, node.extras) := by
  constructor
  · intro read
    unfold readNode at read
    split at read
    · rename_i fields
      split at read
      · cases read
      · rename_i value written
        split at read
        · rename_i name
          split at read
          · rename_i kind named
            rcases ok_of_map read with ⟨⟨id, label, body, rest⟩, parts, rfl⟩
            rcases both_eq_ok.mp parts with ⟨given, data⟩
            rw [← name_eq_of_named? named] at written
            exact ⟨fields, kind, rfl, written, required_word_eq_ok.mp given, data⟩
          · cases read
        · cases read
    · cases read
  · rintro ⟨fields, kind, rfl, written, found, data⟩
    have given : required "id" word fields = .ok ⟨node.id, node.id_ne⟩ :=
      required_word_eq_ok.mpr found
    unfold readNode
    simp only [written, Kind.named?_name]
    rw [map_eq_ok]
    exact ⟨(⟨node.id, node.id_ne⟩, node.label, node.body, node.extras),
      both_eq_ok.mpr ⟨given, data⟩, rfl⟩

theorem exists_data_of_readNode
    {json : Json} {node : Node} (read : readNode json = .ok node) :
    node.extras = [] ∨
      ∃ fields data : Fields, json = .obj fields ∧ fields.get? "data" = some (.obj data) ∧
        node.extras = extras (readKeys data node.body) data := by
  rcases readNode_eq_ok.mp read with ⟨fields, kind, rfl, _, _, data⟩
  rcases optional_eq_ok.mp data with ⟨_, nothing⟩ | ⟨value, found, kept⟩
  · have rest : node.extras = (emptyData kind).2.2 := congrArg (·.2.2) nothing
    left
    rw [rest]
    cases kind <;> rfl
  · rcases object_eq_ok.mp kept with ⟨own, rfl, parts⟩
    exact Or.inr ⟨fields, own, rfl, found, extras_of_readData parts⟩

theorem readEdge_eq_ok
    {json : Json} {edge : Edge} :
    readEdge json = .ok edge ↔
      ∃ fields : Fields, json = .obj fields ∧ fields.get? "id" = some (.str edge.id) ∧
        fields.get? "source" = some (.str edge.source) ∧
        fields.get? "target" = some (.str edge.target) ∧
        optional none "branchTag" text? fields = .ok edge.tag := by
  unfold readEdge
  rw [object_eq_ok]
  simp only [map_eq_ok, both_eq_ok, required_word_eq_ok]
  constructor
  · rintro ⟨fields, rfl, ⟨id, source, target, tag⟩, parts, rfl⟩
    exact ⟨fields, rfl, parts⟩
  · rintro ⟨fields, rfl, parts⟩
    exact ⟨fields, rfl, (⟨edge.id, edge.id_ne⟩, ⟨edge.source, edge.source_ne⟩,
      ⟨edge.target, edge.target_ne⟩, edge.tag), parts, rfl⟩

/-!
## Documents
-/

theorem readItem_eq_ok
    {α : Type} {collection : Problem.Collection} {read : Json → Reading α} {position : Nat}
    {item : Json} {value : α} :
    readItem collection read position item = .ok value ↔ read item = .ok value := by
  unfold readItem
  cases read item <;> simp

theorem readItems_eq_ok
    {α : Type} {collection : Problem.Collection} {read : Json → Reading α} {payload : Fields}
    {values : List α} :
    readItems collection read payload = .ok values ↔
      (payload.get? collection.name = none ∧ values = []) ∨
        ∃ items, payload.get? collection.name = some (.arr items) ∧
          List.Forall₂ (fun item value => read item = .ok value) items values := by
  unfold readItems
  cases listed : payload.get? collection.name with
  | none =>
      simp [eq_comm]
  | some json =>
      cases json with
      | arr items =>
          simp [eachFrom_eq_ok (fun _ _ _ => readItem_eq_ok)]
      | null | bool | int | float | str | obj =>
          simp

theorem exists_item_of_readItems
    {α : Type} {collection : Problem.Collection} {read : Json → Reading α} {payload : Fields}
    {values : List α} (all : readItems collection read payload = .ok values) {value : α}
    (member : value ∈ values) :
    ∃ items, payload.get? collection.name = some (.arr items) ∧
      ∃ item ∈ items, read item = .ok value := by
  rcases readItems_eq_ok.mp all with ⟨_, none⟩ | ⟨items, found, each⟩
  · rw [none] at member
    cases member
  · exact ⟨items, found, exists_item_of_forall₂ each member⟩

theorem readNodes_eq_ok
    {payload : Fields} {nodes : DistinctNodes} :
    readNodes payload = .ok nodes ↔ readItems .nodes readNode payload = .ok nodes.val := by
  unfold readNodes
  cases readItems .nodes readNode payload with
  | error problems =>
      simp
  | ok values =>
      constructor
      · intro checked
        simp only [checkDistinct] at checked
        split at checked
        · cases checked
          rfl
        · cases checked
      · intro same
        cases same
        exact dif_pos nodes.property

theorem ofCanonical_eq_ok
    {payload : Fields} {document : Document} :
    ofCanonical payload = .ok document ↔
      readItems .nodes readNode payload = .ok document.nodes ∧
        readItems .edges readEdge payload = .ok document.edges := by
  have parts : both (readNodes payload) (readEdges payload) =
      .ok (⟨document.nodes, document.distinct⟩, document.edges) ↔
        readItems .nodes readNode payload = .ok document.nodes ∧
          readItems .edges readEdge payload = .ok document.edges := by
    rw [both_eq_ok, readNodes_eq_ok, readEdges]
  rw [← parts]
  unfold ofCanonical
  cases both (readNodes payload) (readEdges payload) with
  | error problems =>
      simp
  | ok pair =>
      constructor
      · intro same
        cases same
        rfl
      · intro same
        cases same
        rfl

theorem ofFields_eq_ok
    {payload : Fields} {document : Document} :
    ofFields payload = .ok document ↔
      Canonical.writable payload = true ∧
        readItems .nodes readNode (Canonical.normalize payload).1 = .ok document.nodes ∧
        readItems .edges readEdge (Canonical.normalize payload).1 = .ok document.edges := by
  rw [← ofCanonical_eq_ok]
  unfold ofFields Canonical.normalize?
  cases Canonical.writable payload with
  | false =>
      simp
  | true =>
      simp only [if_true, true_and]
      cases ofCanonical (Canonical.normalize payload).1 <;> simp

end Document
end WorkflowWalk
