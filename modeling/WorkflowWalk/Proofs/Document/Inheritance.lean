import WorkflowWalk.Proofs.Document.EdgeIds
import WorkflowWalk.Proofs.Document.Saved
import WorkflowWalk.Proofs.Json.Whole

/-!
# What saved forms inherit

A property is hereditary if a list has it exactly if its items have, and an object exactly if the
values of its fields have, its keys being texts that may occur. If the value from which a document
is read has such a property, then so has the saved form of the document: all that is written has
been read, or is made of it. That each integer has a text is such a property, and so is that no text
has half of a surrogate pair in it.
-/

namespace WorkflowWalk

open Document

namespace Json

/-- A property of values that comes from their parts, and one of the texts in them. -/
structure Hereditary (P : Json → Prop) (T : String → Prop) : Prop where
  null : P .null
  float : ∀ number, P (.float number)
  str : ∀ {text}, P (.str text) ↔ T text
  arr : ∀ {items}, P (.arr items) ↔ ∀ item ∈ items, P item
  obj : ∀ {fields : Fields}, P (.obj fields) ↔ ∀ field ∈ fields, T field.1 ∧ P field.2
  ascii : ∀ {text}, Text.Ascii text → T text
  append : ∀ {one other}, T one → T other → T (one ++ other)

namespace Hereditary

variable {P : Json → Prop} {T : String → Prop}

/-!
## Fields
-/

section Fields

variable (hereditary : Hereditary P T)
include hereditary

theorem of_get?
    {fields : Fields} (holds : P (.obj fields)) {key : String} {value : Json}
    (found : fields.get? key = some value) :
    P value :=
  (hereditary.obj.mp holds _ (Fields.mem_of_get? found)).2

theorem text_of_get?
    {fields : Fields} (holds : P (.obj fields)) {key text : String}
    (found : fields.get? key = some (.str text)) :
    T text :=
  hereditary.str.mp (hereditary.of_get? holds found)

theorem nil : P (.obj []) :=
  hereditary.obj.mpr (List.forall_mem_nil _)

theorem cons
    {fields : Fields} {key : String} {value : Json} (plain : Text.Ascii key) (holds : P value)
    (rest : P (.obj fields)) :
    P (.obj ((key, value) :: fields)) :=
  hereditary.obj.mpr
    (List.forall_mem_cons.mpr ⟨⟨hereditary.ascii plain, holds⟩, hereditary.obj.mp rest⟩)

theorem filter
    {fields : Fields} (holds : P (.obj fields)) (p : String × Json → Bool) :
    P (.obj (fields.filter p)) :=
  hereditary.obj.mpr fun field member =>
    hereditary.obj.mp holds field (List.mem_filter.mp member).1

theorem keep
    {fields : Fields} (holds : P (.obj fields)) (form : Form) :
    P (.obj (form.keep fields)) := by
  cases form with
  | full =>
      exact holds
  | saved =>
      exact hereditary.filter holds _

theorem fields_append
    {first second : Fields} (one : P (.obj first)) (two : P (.obj second)) :
    P (.obj (first ++ second)) :=
  hereditary.obj.mpr
    (List.forall_mem_append.mpr ⟨hereditary.obj.mp one, hereditary.obj.mp two⟩)

theorem finiteOnly
    {value : Json} (holds : P value) :
    P (Document.finiteOnly value) := by
  induction value using membersInduction with
  | null | bool _ | int _ | str _ =>
      exact holds
  | float number =>
      unfold Document.finiteOnly
      split
      · exact holds
      · exact hereditary.null
  | arr items ih =>
      rw [hereditary.arr] at holds
      show P (.arr (finiteItems items))
      rw [finiteItems_eq_map, hereditary.arr, List.forall_mem_map]
      intro item member
      exact ih item member (holds item member)
  | obj fields ih =>
      rw [hereditary.obj] at holds
      show P (.obj (finiteFields fields))
      rw [finiteFields_eq_map, hereditary.obj, List.forall_mem_map]
      intro field member
      exact ⟨(holds field member).1, ih field member (holds field member).2⟩

end Fields

/-!
## Readers of parts
-/

theorem of_text
    {json : Json} {text : String} (holds : P json) (read : Reading.text json = .ok text) :
    P (.str text) := by
  rw [Reading.text_eq_ok.mp read] at holds
  exact holds

theorem of_text?
    {json : Json} {text : Option String} (holds : P json) (read : Reading.text? json = .ok text) :
    P (.ofText? text) := by
  rw [Reading.text?_eq_ok.mp read] at holds
  exact holds

theorem eq_of_readValue_int
    {value : Int} {text : Option String} (read : readValue (.int value) = .ok text) :
    text = some (Numeral.decimal value) := by
  unfold readValue Numeral.decimal? at read
  cases fits : Numeral.writable value with
  | true =>
      simp only [fits, if_true, Except.ok.injEq] at read
      exact read.symm
  | false =>
      simp [fits, Reading.flaw] at read

section Readers

variable (hereditary : Hereditary P T)
include hereditary

theorem of_optional
    {α : Type} (write : α → Json) {default : α} (absent : P (write default)) {key : String}
    {read : Json → Reading α}
    (reads : ∀ {json : Json} {value : α}, P json → read json = .ok value → P (write value))
    {fields : Fields} (holds : P (.obj fields)) {value : α}
    (done : Reading.optional default key read fields = .ok value) :
    P (write value) := by
  rcases Reading.optional_eq_ok.mp done with ⟨_, rfl⟩ | ⟨json, found, one⟩
  · exact absent
  · exact reads (hereditary.of_get? holds found) one

theorem of_list
    {α : Type} {write : α → Json} {read : Json → Reading α}
    (reads : ∀ {json : Json} {value : α}, P json → read json = .ok value → P (write value))
    {json : Json} {values : List α} (holds : P json) (done : Reading.list read json = .ok values) :
    P (.arr (values.map write)) := by
  rcases Reading.list_eq_ok.mp done with ⟨items, rfl, each⟩
  rw [hereditary.arr, List.forall_mem_map]
  intro value member
  rcases exists_item_of_forall₂ each member with ⟨item, among, one⟩
  exact reads (hereditary.arr.mp holds item among) one

theorem empty : P (.str "") :=
  hereditary.str.mpr (hereditary.ascii (by decide))

theorem nothing : P (.ofText? none) :=
  hereditary.null

theorem of_readValue
    {json : Json} {text : Option String} (holds : P json) (read : readValue json = .ok text) :
    P (.ofText? text) := by
  have plain {own : String} (ascii : Text.Ascii own) : P (.ofText? (some own)) :=
    hereditary.str.mpr (hereditary.ascii ascii)
  cases json with
  | bool value =>
      cases read
      cases value <;> exact plain (by decide)
  | int value =>
      rw [eq_of_readValue_int read]
      exact plain (Text.ascii_decimal value)
  | float number =>
      cases read
      exact plain (Text.ascii_text (by decide) (by decide) number)
  | null | str _ | arr _ | obj _ =>
      exact of_text? holds read

theorem branchJson_of_readBranch
    {json : Json} {branch : Branch} (holds : P json) (read : readBranch json = .ok branch) :
    P (branchJson branch) := by
  rcases Reading.object_eq_ok.mp read with ⟨fields, rfl, parts⟩
  rcases ok_of_map parts with ⟨⟨name, condition⟩, both, rfl⟩
  rcases Reading.both_eq_ok.mp both with ⟨first, second⟩
  exact hereditary.cons (by decide)
    (hereditary.of_optional .str hereditary.empty of_text holds first)
    (hereditary.cons (by decide)
      (hereditary.of_optional .str hereditary.empty of_text holds second) hereditary.nil)

theorem actionItemJson_of_readActionItem
    (form : Form) {json : Json} {item : ActionItem} (holds : P json)
    (read : readActionItem json = .ok item) :
    P (actionItemJson form item) := by
  rcases Reading.object_eq_ok.mp read with ⟨fields, rfl, parts⟩
  rcases ok_of_map parts with ⟨⟨type, title, value⟩, all, rfl⟩
  rcases Reading.both_eq_ok.mp all with ⟨first, more⟩
  rcases Reading.both_eq_ok.mp more with ⟨second, third⟩
  rcases Reading.required_eq_ok.mp first with ⟨own, found, one⟩
  apply hereditary.keep
  exact hereditary.cons (by decide) (of_text (hereditary.of_get? holds found) one)
    (hereditary.cons (by decide)
      (hereditary.of_optional .str hereditary.empty of_text holds second)
      (hereditary.cons (by decide)
        (hereditary.of_optional .ofText? hereditary.nothing hereditary.of_readValue holds third)
        hereditary.nil))

/-!
## Data of nodes
-/

structure Written (P : Json → Prop) (label : String) (body : Body) (rest : Fields) : Prop where
  label : P (.str label)
  body : ∀ form, P (.obj (bodyFields form body))
  rest : P (.obj rest)

theorem written_emptyData (kind : Kind) :
    Written P (emptyData kind).1 (emptyData kind).2.1 (emptyData kind).2.2 := by
  have nothing : P (.arr []) := hereditary.arr.mpr (List.forall_mem_nil _)
  cases kind with
  | level =>
      refine ⟨hereditary.empty, fun form => ?_, hereditary.nil⟩
      exact hereditary.cons (by decide) hereditary.null (hereditary.cons (by decide) hereditary.null
        (hereditary.cons (by decide) nothing hereditary.nil))
  | condition | action =>
      refine ⟨hereditary.empty, fun form => ?_, hereditary.nil⟩
      exact hereditary.cons (by decide) nothing hereditary.nil

theorem written_of_readData
    {kind : Kind} {fields : Fields} (holds : P (.obj fields)) {label : String} {body : Body}
    {rest : Fields} (read : readData kind fields = .ok (label, body, rest)) :
    Written P label body rest := by
  have nothing : P (.arr []) := hereditary.arr.mpr (List.forall_mem_nil _)
  have named {own : String} (labelled : Reading.optional "" "label" Reading.text fields = .ok own) :
      P (.str own) :=
    hereditary.of_optional .str hereditary.empty of_text holds labelled
  cases kind with
  | level =>
      rcases readLevel_eq_ok.mp read with
        ⟨name, type, steps, rfl, labelled, first, second, third, rfl⟩
      have none : P (.ofTexts []) := nothing
      have texts : P (.ofTexts steps) :=
        hereditary.of_optional .ofTexts none (hereditary.of_list of_text) holds third
      refine ⟨named labelled, fun form => ?_, hereditary.filter holds _⟩
      exact hereditary.cons (by decide)
        (hereditary.of_optional .ofText? hereditary.nothing of_text? holds first)
        (hereditary.cons (by decide)
          (hereditary.of_optional .ofText? hereditary.nothing of_text? holds second)
          (hereditary.cons (by decide) texts hereditary.nil))
  | condition =>
      rcases readCondition_eq_ok.mp read with ⟨branches, rfl, labelled, listed, rfl⟩
      refine ⟨named labelled, fun form => ?_, hereditary.filter holds _⟩
      exact hereditary.cons (by decide)
        (hereditary.of_optional (fun values => .arr (values.map branchJson)) nothing
          (hereditary.of_list hereditary.branchJson_of_readBranch) holds listed)
        hereditary.nil
  | action =>
      rcases readAction_eq_ok.mp read with ⟨items, rfl, labelled, listed, rfl⟩
      refine ⟨named labelled, fun form => ?_, hereditary.filter holds _⟩
      exact hereditary.cons (by decide)
        (hereditary.of_optional (fun values => .arr (values.map (actionItemJson form))) nothing
          (hereditary.of_list (hereditary.actionItemJson_of_readActionItem form)) holds listed)
        hereditary.nil

theorem dataFields
    {node : Node} (written : Written P node.label node.body node.extras) (form : Form) :
    P (.obj (Document.dataFields form node)) := by
  have own := hereditary.cons (by decide : Text.Ascii "label") written.label (written.body form)
  have kept := hereditary.finiteOnly (hereditary.keep written.rest form)
  exact hereditary.fields_append (hereditary.keep own form) kept

/-!
## Nodes and edges
-/

theorem nodeJson_of_readNode
    {item : Json} (holds : P item) {node : Node}
    (read : readNode (Canonical.nodeItem item).1 = .ok node) (form : Form) :
    P (nodeJson form node) := by
  rcases readNode_eq_ok.mp read with ⟨fields, kind, same, _, id, data⟩
  cases item with
  | obj before =>
      have canonical : (Canonical.node before).1 = fields := Json.obj.inj same
      rw [← canonical, Canonical.get?_node before (by decide)] at id
      have written : Written P node.label node.body node.extras := by
        rw [← canonical] at data
        rcases Reading.optional_eq_ok.mp data with ⟨_, default⟩ | ⟨own, found, one⟩
        · have empty := hereditary.written_emptyData kind
          rw [← default] at empty
          exact empty
        · rw [Canonical.get?_node before (by decide)] at found
          rcases Reading.object_eq_ok.mp one with ⟨parts, rfl, done⟩
          exact hereditary.written_of_readData (hereditary.of_get? holds found) done
      have name : T node.kind.name := by
        cases node.kind <;> exact hereditary.ascii (by decide)
      exact hereditary.cons (by decide) (hereditary.of_get? holds id)
        (hereditary.cons (by decide) (hereditary.str.mpr name)
          (hereditary.cons (by decide) (hereditary.dataFields written form) hereditary.nil))
  | null | bool _ | int _ | float _ | str _ | arr _ =>
      cases same

theorem text_candidate
    {base : String} (holds : T base) (k : Nat) :
    T (Canonical.candidate base k) := by
  cases k with
  | zero =>
      exact holds
  | succ k =>
      have digits : Text.Ascii (toString (k + 2)) := fun c member =>
        Text.toNat_lt_of_isDigit (isDigit_of_mem_toDigits (by simpa using member))
      exact hereditary.append (hereditary.append holds (hereditary.ascii (by decide)))
        (hereditary.ascii digits)

theorem text_id_of_readEdge
    {fields : Fields} (holds : P (.obj fields)) {taken : List String} {edge : Edge}
    (id : (Canonical.edge taken fields).1.get? "id" = some (.str edge.id))
    (source : fields.get? "source" = some (.str edge.source))
    (target : fields.get? "target" = some (.str edge.target)) :
    T edge.id := by
  cases given : Canonical.givenId? fields with
  | some own =>
      have truthy := Canonical.exists_givenId?_iff.mp ⟨own, given⟩
      rw [(Canonical.edgeKept_edge taken fields).given truthy] at id
      exact hereditary.text_of_get? holds id
  | none =>
      rw [Canonical.get?_id_edge_of_lacking given] at id
      have base : Canonical.baseId fields = edge.source ++ "->" ++ edge.target := by
        simp [Canonical.baseId, Json.field, source, target, Json.shown]
      have ends : T (Canonical.baseId fields) := by
        rw [base]
        exact hereditary.append
          (hereditary.append (hereditary.text_of_get? holds source) (hereditary.ascii (by decide)))
          (hereditary.text_of_get? holds target)
      rcases Canonical.exists_turns_freeId taken (Canonical.baseId fields) with ⟨k, _, first⟩
      have made : edge.id = Canonical.freeId taken (Canonical.baseId fields) :=
        (Json.str.inj (Option.some.inj id)).symm
      rw [made, first.found]
      exact hereditary.text_candidate ends k

theorem edgeJson_of_readEdge
    {fields : Fields} (holds : P (.obj fields)) {taken : List String} {edge : Edge}
    (read : readEdge (.obj (Canonical.edge taken fields).1) = .ok edge) (form : Form) :
    P (edgeJson form edge) := by
  have kept := Canonical.edgeKept_edge taken fields
  rcases readEdge_eq_ok.mp read with ⟨after, same, id, source, target, tagged⟩
  cases same
  rw [kept.others _ (by decide)] at source target
  have tag : P (.ofText? edge.tag) := by
    rcases Reading.optional_eq_ok.mp tagged with ⟨_, none⟩ | ⟨json, found, one⟩
    · rw [none]
      exact hereditary.null
    · refine of_text? ?_ one
      cases own : fields.get? "branchTag" with
      | some value =>
          rw [kept.tagged value own _ List.mem_cons_self] at found
          exact hereditary.of_get? holds found
      | none =>
          rw [kept.untagged own] at found
          rcases List.exists_of_findSome?_eq_some found with ⟨key, _, there⟩
          exact hereditary.of_get? holds there
  apply hereditary.keep
  exact hereditary.cons (by decide)
    (hereditary.str.mpr (hereditary.text_id_of_readEdge holds id source target))
    (hereditary.cons (by decide) (hereditary.of_get? holds source)
      (hereditary.cons (by decide) (hereditary.of_get? holds target)
        (hereditary.cons (by decide) tag hereditary.nil)))

/-!
## Documents
-/

/-- The saved form of a document has each hereditary property of the value it was read from. -/
theorem payload_of_ofFields
    {payload : Fields} (holds : P (.obj payload)) {document : Document}
    (read : ofFields payload = .ok document) :
    P document.payload := by
  have nodes : P (.arr (document.nodes.map (nodeJson .saved))) := by
    rw [hereditary.arr, List.forall_mem_map]
    intro node member
    rcases exists_item_of_node read member with ⟨items, found, item, among, one⟩
    have each := hereditary.arr.mp (hereditary.of_get? holds found)
    exact hereditary.nodeJson_of_readNode (each item among) one .saved
  have edges : P (.arr (document.edges.map (edgeJson .saved))) := by
    rw [hereditary.arr, List.forall_mem_map]
    intro edge member
    rcases exists_item_of_edge read member with ⟨items, found, taken, fields, among, one⟩
    have each := hereditary.arr.mp (hereditary.of_get? holds found)
    exact hereditary.edgeJson_of_readEdge (each _ among) one .saved
  exact hereditary.cons (by decide) nodes (hereditary.cons (by decide) edges hereditary.nil)

end Readers
end Hereditary

/-!
## Integers with a text, and texts without halves
-/

theorem hereditary_writable :
    Hereditary (fun value => value.writable = true) fun _ => True where
  null := rfl
  float _ := rfl
  str := iff_of_true rfl trivial
  arr := writableItems_iff
  obj := by
    intro fields
    rw [writable, writableFields_iff]
    simp
  ascii _ := trivial
  append _ _ := trivial

theorem hereditary_whole :
    Hereditary (fun value => value.whole = true) Text.Whole where
  null := rfl
  float _ := rfl
  str := whole_str
  arr := whole_arr
  obj := whole_obj
  ascii := Text.Ascii.whole
  append := Text.Whole.append

end Json

namespace Document

theorem writable_payload_of_ofFields
    {payload : Fields} {document : Document} (writable : Json.writableFields payload = true)
    (read : ofFields payload = .ok document) :
    document.payload.writable = true :=
  Json.hereditary_writable.payload_of_ofFields writable read

theorem whole_payload_of_ofFields
    {payload : Fields} {document : Document} (whole : Json.wholeFields payload = true)
    (read : ofFields payload = .ok document) :
    document.payload.whole = true :=
  Json.hereditary_whole.payload_of_ofFields whole read

end Document
end WorkflowWalk
