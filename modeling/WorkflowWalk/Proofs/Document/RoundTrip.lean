import WorkflowWalk.Check.Verdict
import WorkflowWalk.Proofs.Document.Saved

/-!
# Saving a document and taking it in again

A document that has been saved is taken in again with the same nodes and edges exactly if nothing
that an editor keeps with a level can be mistaken for a name or a type that the level has not. Then
it is saved in the same form again exactly if no number that an editor keeps with a node is one that
is not finite.
-/

namespace WorkflowWalk
namespace Document

open Reading

/-!
## What is saved of a node
-/

def ownFields (node : Node) : Fields :=
  Form.saved.keep (("label", .str node.label) :: bodyFields .saved node.body)

def savedExtras (node : Node) : Fields :=
  finiteFields (Form.saved.keep node.extras)

theorem dataFields_saved (node : Node) :
    dataFields .saved node = ownFields node ++ savedExtras node :=
  rfl

theorem mem_savedExtras
    {node : Node} {field : String × Json} :
    field ∈ savedExtras node ↔
      ∃ value, (field.1, value) ∈ node.extras ∧ isNull value = false ∧
        finiteOnly value = field.2 := by
  rcases field with ⟨key, written⟩
  simp [savedExtras, finiteFields_eq_map, Form.keep, and_assoc]

theorem not_mem_savedKeys_of_savedExtras
    {node : Node} (apart : Apart node) {field : String × Json}
    (member : field ∈ savedExtras node) :
    field.1 ∉ savedKeys node.body := by
  rcases mem_savedExtras.mp member with ⟨value, among, _⟩
  exact apart (field.1, value) among

theorem get?_dataFields
    {node : Node} (apart : Apart node) {key : String} (own : key ∈ savedKeys node.body) :
    (dataFields .saved node).get? key = (ownFields node).get? key := by
  have none : (savedExtras node).get? key = none := by
    rw [Fields.get?_eq_none_iff]
    intro field member same
    exact not_mem_savedKeys_of_savedExtras apart member (same ▸ own)
  rw [dataFields_saved, Fields.get?_append, none, Option.or_none]

/-!
## Texts that may be absent
-/

def Blank (fields : Fields) (key : String) : Prop :=
  ∀ value, fields.get? key = some value → value = .null

theorem optional_presentKey_eq_ok
    {fields : Fields} {key other : String} {text : Option String}
    (own : fields.get? key = text.map .str) :
    optional none (presentKey fields key other) text? fields = .ok text ↔
      (text = none → Blank fields other) := by
  cases text with
  | some value =>
      have has : fields.has key = true := by
        simp [Fields.has, own]
      rw [presentKey_of_has has, optional_eq_ok]
      simp [own, text?_eq_ok, Json.ofText?]
  | none =>
      cases found : fields.get? other with
      | none =>
          have present : presentKey fields key other = key := by
            simp [presentKey, Fields.has, found]
          rw [present, optional_eq_ok]
          simp [own, Blank, found]
      | some value =>
          have present : presentKey fields key other = other := by
            simp [presentKey, Fields.has, own, found]
          rw [present, optional_eq_ok]
          simp [Blank, found, text?_eq_ok, Json.ofText?]

/-!
## Reading what is saved
-/

/-- Nothing that an editor keeps with a level is mistaken for a name or a type that it has not. -/
def Unmistakable (node : Node) : Prop :=
  match node.body with
  | .level name type _ =>
      (name = none → Blank (dataFields .saved node) "level_name") ∧
        (type = none → Blank (dataFields .saved node) "level_type")
  | .condition _ | .action _ => True

theorem get?_dataFields_of_level
    {node : Node} (apart : Apart node) {name type : Option String} {steps : List String}
    (level : node.body = .level name type steps) :
    (dataFields .saved node).get? "levelName" = name.map .str ∧
      (dataFields .saved node).get? "levelType" = type.map .str ∧
        (dataFields .saved node).get? "steps" = some (.ofTexts steps) := by
  have saved : ∀ key ∈ ["levelName", "levelType", "steps"],
      (dataFields .saved node).get? key = (ownFields node).get? key := by
    intro key among
    apply get?_dataFields apart
    rw [level]
    exact List.mem_cons_of_mem _ among
  rw [saved _ (by decide), saved _ (by decide), saved _ (by decide), ownFields, level]
  cases name <;> cases type <;> exact ⟨rfl, rfl, rfl⟩

theorem readData_dataFields
    {node : Node} (apart : Apart node) {rest : Fields} :
    readData node.kind (dataFields .saved node) = .ok (node.label, node.body, rest) ↔
      Unmistakable node ∧
        rest = extras (readKeys (dataFields .saved node) node.body) (dataFields .saved node) := by
  have label : optional "" "label" text (dataFields .saved node) = .ok node.label :=
    optional_eq_ok.mpr (Or.inr ⟨_, rfl, text_eq_ok.mpr rfl⟩)
  -- Only a level has fields with two keys; the other kinds read exactly what they save.
  unfold Unmistakable Node.kind
  cases body : node.body with
  | level name type steps =>
      rcases get?_dataFields_of_level apart body with ⟨named, typed, listed⟩
      have all := optional_list_of_get? Json.str (fun text => text_eq_ok.mpr rfl) listed
      rw [readData, readLevel_eq_ok]
      constructor
      · intro read
        rcases read with ⟨_, _, _, same, _, first, second, _, others⟩
        cases same
        exact ⟨⟨(optional_presentKey_eq_ok named).mp first,
          (optional_presentKey_eq_ok typed).mp second⟩, others⟩
      · intro unmistaken
        rcases unmistaken with ⟨⟨first, second⟩, others⟩
        exact ⟨name, type, steps, rfl, label, (optional_presentKey_eq_ok named).mpr first,
          (optional_presentKey_eq_ok typed).mpr second, all, others⟩
  | condition branches =>
      have own : "branches" ∈ savedKeys node.body := by
        rw [body]
        simp [savedKeys]
      have listed := get?_dataFields apart own
      rw [ownFields, body] at listed
      have all := optional_list_of_get? branchJson readBranch_branchJson listed
      rw [readData, readCondition_eq_ok]
      constructor
      · intro read
        rcases read with ⟨_, _, _, _, others⟩
        exact ⟨trivial, others⟩
      · intro unmistaken
        exact ⟨branches, rfl, label, all, unmistaken.2⟩
  | action items =>
      have own : "actions" ∈ savedKeys node.body := by
        rw [body]
        simp [savedKeys]
      have listed := get?_dataFields apart own
      rw [ownFields, body] at listed
      have all := optional_list_of_get? (actionItemJson .saved) readActionItem_actionItemJson listed
      rw [readData, readAction_eq_ok]
      constructor
      · intro read
        rcases read with ⟨_, _, _, _, others⟩
        exact ⟨trivial, others⟩
      · intro unmistaken
        exact ⟨items, rfl, label, all, unmistaken.2⟩

/-!
## Nodes
-/

def content (node : Node) : String × String × Body :=
  (node.id, node.label, node.body)

def reread (node : Node) : Node :=
  { node with
    extras := extras (readKeys (dataFields .saved node) node.body) (dataFields .saved node) }

theorem readNode_nodeJson_eq_ok
    {node again : Node} :
    readNode (nodeJson .saved node) = .ok again ↔
      node.id = again.id ∧
        readData node.kind (dataFields .saved node) = .ok (again.label, again.body, again.extras) := by
  rw [readNode_eq_ok]
  constructor
  · intro read
    rcases read with ⟨_, kind, same, kinds, ids, data⟩
    cases same
    have spelt : node.kind = kind := eq_of_name_eq (Json.str.inj (Option.some.inj kinds))
    change under (.key "data") (readData kind (dataFields .saved node)) = _ at data
    rw [spelt]
    exact ⟨Json.str.inj (Option.some.inj ids), under_eq_ok.mp data⟩
  · intro read
    rcases read with ⟨ids, data⟩
    refine ⟨_, node.kind, rfl, rfl, ?_, ?_⟩
    · rw [← ids]
      rfl
    · rw [optional_eq_ok]
      exact Or.inr ⟨_, rfl, data⟩

theorem reread_iff
    {node again : Node} (apart : Apart node) :
    readNode (nodeJson .saved node) = .ok again ∧ content again = content node ↔
      Unmistakable node ∧ again = reread node := by
  rw [readNode_nodeJson_eq_ok]
  constructor
  · intro read
    rcases read with ⟨⟨ids, data⟩, same⟩
    rcases again with ⟨id, label, body, kept, id_ne⟩
    cases same
    rcases (readData_dataFields apart).mp data with ⟨unmistaken, others⟩
    cases others
    exact ⟨unmistaken, rfl⟩
  · intro unmistaken
    rcases unmistaken with ⟨unmistaken, rfl⟩
    exact ⟨⟨rfl, (readData_dataFields apart).mpr ⟨unmistaken, rfl⟩⟩, rfl⟩

theorem forall₂_reread_iff
    {nodes again : List Node} (apart : ∀ node ∈ nodes, Apart node) :
    List.Forall₂ (fun node more => readNode (nodeJson .saved node) = .ok more) nodes again ∧
        again.map content = nodes.map content ↔
      (∀ node ∈ nodes, Unmistakable node) ∧ again = nodes.map reread := by
  induction nodes generalizing again with
  | nil =>
      simp
  | cons node rest ih =>
      have own : Apart node := apart node List.mem_cons_self
      have later := @ih again.tail fun other member => apart other (List.mem_cons_of_mem _ member)
      cases again with
      | nil =>
          simp
      | cons more others =>
          rw [List.forall₂_cons, List.map_cons, List.map_cons, List.map_cons, List.cons.injEq,
            List.cons.injEq, List.forall_mem_cons]
          constructor
          · intro read
            rcases read with ⟨⟨one, each⟩, same, rest⟩
            rcases (reread_iff own).mp ⟨one, same⟩ with ⟨unmistaken, first⟩
            rcases later.mp ⟨each, rest⟩ with ⟨all, further⟩
            exact ⟨⟨unmistaken, all⟩, first, further⟩
          · intro unmistaken
            rcases unmistaken with ⟨⟨unmistaken, all⟩, first, further⟩
            rcases (reread_iff own).mpr ⟨unmistaken, first⟩ with ⟨one, same⟩
            rcases later.mpr ⟨all, further⟩ with ⟨each, rest⟩
            exact ⟨⟨one, each⟩, same, rest⟩

/-!
## Documents
-/

/-- A document has the nodes and the edges of another one, whatever an editor keeps with them. -/
def Resembles (document other : Document) : Prop :=
  document.nodes.map content = other.nodes.map content ∧ document.edges = other.edges

def rereadAll (document : Document) : Document where
  nodes := document.nodes.map reread
  edges := document.edges
  distinct := by
    rw [List.map_map]
    exact document.distinct

theorem ofJson_payload_eq_ok
    {document again : Document} (apart : ∀ node ∈ document.nodes, Apart node) :
    ofJson document.payload = .ok again ∧ again.Resembles document ↔
      (∀ node ∈ document.nodes, Unmistakable node) ∧ again = document.rereadAll := by
  show ofFields (document.toFields .saved) = .ok again ∧ _ ↔ _
  rw [ofFields_toFields_eq_ok]
  constructor
  · intro read
    rcases read with ⟨⟨each, edges⟩, contents, _⟩
    rcases (forall₂_reread_iff apart).mp ⟨each, contents⟩ with ⟨unmistaken, nodes⟩
    rcases again with ⟨_, _, _⟩
    cases nodes
    cases edges
    exact ⟨unmistaken, rfl⟩
  · intro unmistaken
    rcases unmistaken with ⟨unmistaken, rfl⟩
    rcases (forall₂_reread_iff apart).mpr ⟨unmistaken, rfl⟩ with ⟨each, contents⟩
    exact ⟨⟨each, rfl⟩, contents, rfl⟩

/-!
## What is saved again
-/

theorem mem_savedKeys_of_ownFields
    {node : Node} {field : String × Json} (member : field ∈ ownFields node) :
    field.1 ∈ savedKeys node.body := by
  have keys : (("label", .str node.label) :: bodyFields .saved node.body : Fields).map Prod.fst =
      savedKeys node.body := by
    cases node.body <;> rfl
  rw [← keys]
  exact List.mem_map_of_mem (List.mem_filter.mp member).1

/-- All that is kept with a node when it is read from its saved form was kept with it before. -/
theorem extras_reread (node : Node) :
    (reread node).extras =
      extras (readKeys (dataFields .saved node) node.body) (savedExtras node) := by
  have own : extras (readKeys (dataFields .saved node) node.body) (ownFields node) = [] := by
    rw [List.eq_nil_iff_forall_not_mem]
    intro field member
    rcases mem_extras.mp member with ⟨among, unread⟩
    exact unread (mem_readKeys (List.mem_append_left _ among) (mem_savedKeys_of_ownFields among))
  show extras _ (ownFields node ++ savedExtras node) = _
  rw [extras, List.filter_append]
  exact congrArg (· ++ _) own

theorem finiteOnly_of_savedExtras
    {node : Node} {field : String × Json} (member : field ∈ savedExtras node) :
    finiteOnly field.2 = field.2 := by
  rcases mem_savedExtras.mp member with ⟨value, _, _, finite⟩
  rw [← finite, finiteOnly_finiteOnly]

theorem savedExtras_reread (node : Node) :
    savedExtras (reread node) =
      (extras (readKeys (dataFields .saved node) node.body) (savedExtras node)).filter
        (!isNull ·.2) := by
  rw [savedExtras, extras_reread, finiteFields_eq_map]
  apply (List.map_congr_left _).trans (List.map_id _)
  intro field member
  have among := (mem_extras.mp (List.mem_filter.mp member).1).1
  rw [finiteOnly_of_savedExtras among]
  rfl

theorem presentKey_of_blank
    {fields : Fields} {key other : String} (blank : fields.has key = false → Blank fields other)
    (given : ∀ field ∈ fields, field.1 = other → isNull field.2 = false) :
    presentKey fields key other = key := by
  unfold presentKey
  cases has : fields.has key with
  | true =>
      rfl
  | false =>
      cases found : fields.get? other with
      | none =>
          simp [Fields.has, found]
      | some value =>
          have null := blank has value found
          have written := given _ (Fields.mem_of_get? found) rfl
          rw [null] at written
          cases written

theorem readKeys_of_unmistakable
    {node : Node} (apart : Apart node) (unmistaken : Unmistakable node)
    (given : ∀ field ∈ savedExtras node, isNull field.2 = false) :
    readKeys (dataFields .saved node) node.body = savedKeys node.body := by
  unfold Unmistakable at unmistaken
  cases body : node.body with
  | level name type steps =>
      rw [body] at unmistaken
      rcases get?_dataFields_of_level apart body with ⟨named, typed, _⟩
      have kept : ∀ other ∉ savedKeys node.body, ∀ field ∈ dataFields .saved node,
          field.1 = other → isNull field.2 = false := by
        intro other unsaved field member same
        rcases List.mem_append.mp member with own | extra
        · exact absurd (same ▸ mem_savedKeys_of_ownFields own) unsaved
        · exact given field extra
      rw [body] at kept
      have nameless : (dataFields .saved node).has "levelName" = false → name = none := by
        simp [Fields.has, named]
      have typeless : (dataFields .saved node).has "levelType" = false → type = none := by
        simp [Fields.has, typed]
      rw [readKeys, levelKeys,
        presentKey_of_blank (unmistaken.1 ∘ nameless) (kept "level_name" (by simp [savedKeys])),
        presentKey_of_blank (unmistaken.2 ∘ typeless) (kept "level_type" (by simp [savedKeys])),
        savedKeys]
  | condition | action =>
      rfl

/-- If a node is saved in the same form after it has been read, no number that is kept with it was
replaced, and conversely. -/
theorem nodeJson_reread_iff
    {node : Node} (apart : Apart node) (unmistaken : Unmistakable node) :
    nodeJson .saved (reread node) = nodeJson .saved node ↔
      ∀ field ∈ node.extras, isSpecial field.2 = false := by
  have data : nodeJson .saved (reread node) = nodeJson .saved node ↔
      savedExtras (reread node) = savedExtras node := by
    have id : (reread node).id = node.id := rfl
    have kind : (reread node).kind = node.kind := rfl
    have own : ownFields (reread node) = ownFields node := rfl
    rw [nodeJson, nodeJson, id, kind, dataFields_saved, dataFields_saved, own]
    simp
  -- What is kept is saved without null both times, but numbers are replaced by null only after that.
  rw [data, savedExtras_reread, extras, List.filter_filter, List.filter_eq_self]
  constructor
  · intro stays field member
    rcases field with ⟨key, value⟩
    cases null : isNull value with
    | true =>
        cases value with
        | float =>
            cases null
        | _ =>
            rfl
    | false =>
        have kept := stays (key, finiteOnly value) (mem_savedExtras.mpr ⟨value, member, null, rfl⟩)
        have plain : isSpecial value = false ∧
            key ∉ readKeys (dataFields .saved node) node.body := by
          simpa [isNull_finiteOnly, null] using kept
        exact plain.1
  · intro finite
    have given : ∀ field ∈ savedExtras node, isNull field.2 = false := by
      intro field member
      rcases mem_savedExtras.mp member with ⟨value, among, null, same⟩
      rw [← same, isNull_finiteOnly, null, finite _ among]
      rfl
    intro field member
    have unread := not_mem_savedKeys_of_savedExtras apart member
    rw [← readKeys_of_unmistakable apart unmistaken given] at unread
    simp [given field member, unread]

theorem payload_rereadAll_iff
    {document : Document} (apart : ∀ node ∈ document.nodes, Apart node)
    (unmistaken : ∀ node ∈ document.nodes, Unmistakable node) :
    document.rereadAll.payload = document.payload ↔
      ∀ node ∈ document.nodes, ∀ field ∈ node.extras, isSpecial field.2 = false := by
  have nodes : document.rereadAll.payload = document.payload ↔
      document.nodes.map (fun node => nodeJson .saved (reread node)) =
        document.nodes.map (nodeJson .saved) := by
    simp [payload, toFields, rereadAll, Function.comp_def]
  rw [nodes, List.map_inj_left]
  constructor
  · intro same node member
    exact (nodeJson_reread_iff (apart node member) (unmistaken node member)).mp (same node member)
  · intro finite node member
    exact (nodeJson_reread_iff (apart node member) (unmistaken node member)).mpr (finite node member)

theorem apart_of_ofJson
    {value : Json} {document : Document} (read : ofJson value = .ok document) :
    ∀ node ∈ document.nodes, Apart node := by
  intro node member
  cases value with
  | obj payload =>
      rcases ofFields_eq_ok.mp read with ⟨_, nodes, _⟩
      rcases exists_item_of_readItems nodes member with ⟨_, _, item, _, one⟩
      exact apart_of_readNode one
  | null | bool | int | float | str | arr =>
      cases read

/-- A document that was taken in is taken in again from its saved form with the same nodes and edges
exactly if nothing that is kept with a level can be mistaken for a name or a type that it has not.
Then its saved form and its hash are the same again exactly if each number that is kept with a node,
not counting those inside other values, is finite. -/
theorem ofJson_payload
    {value : Json} {document : Document} (read : ofJson value = .ok document) :
    ((∃ again, ofJson document.payload = .ok again ∧ again.Resembles document) ↔
        ∀ node ∈ document.nodes, Unmistakable node) ∧
      ∀ again, ofJson document.payload = .ok again → again.Resembles document →
        (again.payload = document.payload ∧ Check.hashedText again = Check.hashedText document ∧
            Check.hash again = Check.hash document ↔
          ∀ node ∈ document.nodes, ∀ field ∈ node.extras, isSpecial field.2 = false) := by
  have apart := apart_of_ofJson read
  constructor
  · constructor
    · intro taken
      rcases taken with ⟨again, readAgain, resembles⟩
      exact ((ofJson_payload_eq_ok apart).mp ⟨readAgain, resembles⟩).1
    · intro unmistaken
      exact ⟨_, (ofJson_payload_eq_ok apart).mpr ⟨unmistaken, rfl⟩⟩
  · intro again readAgain resembles
    rcases (ofJson_payload_eq_ok apart).mp ⟨readAgain, resembles⟩ with ⟨unmistaken, rfl⟩
    rw [← payload_rereadAll_iff apart unmistaken]
    constructor
    · intro same
      exact same.1
    · intro same
      have hashed : Check.hashed document.rereadAll = Check.hashed document := by
        rw [Check.hashed, Check.hashed, same]
      have texts : Check.hashedText document.rereadAll = Check.hashedText document := by
        rw [Check.hashedText, Check.hashedText, hashed]
      refine ⟨same, texts, ?_⟩
      rw [Check.hash, Check.hash, texts]

def levelWith (data : Fields) : Json :=
  .obj [
    ("nodes", .arr [.obj [("id", .str "intake"), ("kind", .str "level"), ("data", .obj data)]]),
    ("edges", .arr [])]

def renamed : Document where
  nodes := [
    ⟨"intake", "", .level (some "Intake") none [],
      [("level_name", .str "Basics"), ("color", .null), ("isStart", .bool true)], by decide⟩]
  edges := []
  distinct := by decide

theorem ofJson_payload_renamed :
    ofJson (levelWith [("levelName", .str "Intake"), ("level_name", .str "Basics"),
        ("color", .null), ("isStart", .bool true)]) = .ok renamed ∧
      ∃ again, ofJson renamed.payload = .ok again ∧ again.Resembles renamed ∧
        again.payload = renamed.payload ∧ Check.hash again = Check.hash renamed := by
  have read : ofJson (levelWith [("levelName", .str "Intake"), ("level_name", .str "Basics"),
      ("color", .null), ("isStart", .bool true)]) = .ok renamed := rfl
  rcases ofJson_payload read with ⟨taken, saved⟩
  have unmistaken : ∀ node ∈ renamed.nodes, Unmistakable node := by
    intro node member
    rw [List.mem_singleton.mp member]
    constructor
    · intro nameless
      cases nameless
    · intro _ value found
      cases found
  have finite : ∀ node ∈ renamed.nodes, ∀ field ∈ node.extras, isSpecial field.2 = false := by
    intro node member
    rw [List.mem_singleton.mp member]
    decide
  rcases taken.mpr unmistaken with ⟨again, readAgain, resembles⟩
  rcases (saved again readAgain resembles).mpr finite with ⟨same, _, hashes⟩
  exact ⟨read, again, readAgain, resembles, same, hashes⟩

/-- A level without a name is not taken in again if a number is kept with it under the other key for
the name, and if a text is kept there, that is its name afterwards. A number that is not finite is
saved as null, and not at all once it has been taken in again. -/
theorem ofJson_payload_nameless :
    (∃ document, ofJson (levelWith [("levelName", .null), ("level_name", .int 5)]) = .ok document ∧
        ∀ again, ofJson document.payload ≠ .ok again) ∧
      (∃ document, ofJson (levelWith [("levelName", .null), ("level_name", .str "old")]) =
          .ok document ∧
        ∃ again, ofJson document.payload = .ok again ∧ ¬again.Resembles document) ∧
      ∃ document, ofJson (levelWith [("scale", .float .nan)]) = .ok document ∧
        ∃ again, ofJson document.payload = .ok again ∧ again.payload ≠ document.payload := by
  refine ⟨⟨_, rfl, ?_⟩, ⟨_, rfl, _, rfl, ?_⟩, _, rfl, _, rfl, ?_⟩
  · intro again read
    cases read
  · intro resembles
    exact absurd resembles.1 (by decide)
  · intro same
    cases same

end Document
end WorkflowWalk
