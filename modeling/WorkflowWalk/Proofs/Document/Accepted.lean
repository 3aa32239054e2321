import WorkflowWalk.Proofs.Document.Schema

/-!
# Accepted documents

A reading fails with all that is wrong with a value, so it says the same as a schema does. For
documents this means: those that look as they should are accepted, and no others. Of another
document all that is wrong with it is reported, in the order of its nodes and edges.
-/

namespace WorkflowWalk
namespace Document

open Problem (Cause Collection Part Shape)
open Reading

variable {ε α β : Type}

/-!
## What readings report
-/

def reported : Except (List ε) α → List ε
  | .ok _ => []
  | .error flaws => flaws

theorem reported_eq_nil_iff
    {reading : Except (List ε) α} (telling : Telling reading) :
    reported reading = [] ↔ ∃ value, reading = .ok value := by
  cases reading with
  | ok value =>
      simp [reported]
  | error flaws =>
      simpa [reported, Telling] using telling

@[simp] theorem reported_map (change : α → β) (reading : Except (List ε) α) :
    reported (change <$> reading) = reported reading := by
  cases reading <;> rfl

@[simp] theorem reported_both (first : Except (List ε) α) (second : Except (List ε) β) :
    reported (both first second) = reported first ++ reported second := by
  cases first <;> cases second <;> simp [both, reported]

@[simp] theorem reported_under (part : Part) (reading : Reading α) :
    reported (under part reading) = (reported reading).map (.under part) := by
  cases reading <;> rfl

theorem reported_eachFrom
    (read : Nat → Json → Except (List ε) α) (position : Nat) (items : List Json) :
    reported (eachFrom read position items) =
      (items.zipIdx position).flatMap fun (item, place) => reported (read place item) := by
  induction items generalizing position with
  | nil =>
      rfl
  | cons item rest ih =>
      have step : reported (eachFrom read position (item :: rest)) =
          reported (both (read position item) (eachFrom read (position + 1) rest)) := by
        rw [eachFrom]
        cases both (read position item) (eachFrom read (position + 1) rest) <;> rfl
      rw [step, reported_both, ih, List.zipIdx_cons, List.flatMap_cons]

def Reports (read : Json → Reading α) (schema : Schema) : Prop :=
  ∀ json, reported (read json) = schema.flaws json

theorem reports_text : Reports text .text := by
  intro json
  cases json <;> rfl

theorem reports_text? : Reports text? .textOrNull := by
  intro json
  cases json <;> rfl

theorem reports_word : Reports word .word := by
  intro json
  cases json with
  | str value =>
      by_cases empty : value = "" <;> simp [word, Schema.flaws, reported, flaw, empty]
  | null | bool | int | float | arr | obj =>
      rfl

theorem reports_value : Reports readValue .scalar := by
  intro json
  cases json with
  | int n =>
      unfold readValue Schema.flaws Numeral.decimal?
      cases written : Numeral.writable n <;> simp [written, reported, flaw]
  | null | bool | str | float | arr | obj =>
      rfl

theorem reports_list
    {read : Json → Reading α} {schema : Schema} (reports : Reports read schema) :
    Reports (list read) (.list schema) := by
  intro json
  cases json with
  | arr items =>
      simp only [list, Schema.flaws]
      rw [reported_eachFrom]
      simp only [reported_under, reports _]
  | null | bool | int | float | str | obj =>
      rfl

theorem reports_object
    {read : Fields → Reading α} {schemas : FieldSchemas}
    (reports : ∀ fields, reported (read fields) = schemas.flaws fields) (shape : Shape) :
    Reports (object shape read) (.object shape schemas) := by
  intro json
  cases json with
  | obj fields =>
      exact reports fields
  | null | bool | int | float | str | arr =>
      rfl

theorem reported_optional
    {read : Json → Reading α} {schema : Schema} (reports : Reports read schema) (default : α)
    (key : String) (fields : Fields) :
    reported (optional default key read fields) = fieldFlaws key false schema.flaws fields := by
  unfold Reading.optional fieldFlaws
  cases fields.get? key with
  | none =>
      rfl
  | some value =>
      exact (reported_under ..).trans (congrArg (List.map _) (reports value))

theorem reported_required
    {read : Json → Reading α} {schema : Schema} (reports : Reports read schema) (key : String)
    (fields : Fields) :
    reported (required key read fields) = fieldFlaws key true schema.flaws fields := by
  unfold Reading.required fieldFlaws
  cases fields.get? key with
  | none =>
      rfl
  | some value =>
      exact (reported_under ..).trans (congrArg (List.map _) (reports value))

/-!
## Nodes and edges
-/

theorem reports_branch : Reports readBranch branchSchema := by
  apply reports_object
  intro fields
  simp [reported_optional reports_text]

theorem reports_actionItem : Reports readActionItem actionItemSchema := by
  apply reports_object
  intro fields
  simp [reported_required reports_text, reported_optional reports_text,
    reported_optional reports_value]

theorem reported_readData (kind : Kind) (fields : Fields) :
    reported (readData kind fields) = (dataSchemas kind).flaws fields := by
  cases kind with
  | level =>
      simp [readData, readLevel, dataSchemas, reported_optional reports_text,
        reported_optional reports_text?, reported_optional (reports_list reports_text)]
  | condition =>
      simp [readData, readCondition, dataSchemas, reported_optional reports_text,
        reported_optional (reports_list reports_branch)]
  | action =>
      simp [readData, readAction, dataSchemas, reported_optional reports_text,
        reported_optional (reports_list reports_actionItem)]

theorem reported_readNode (json : Json) :
    reported (readNode json) = nodeFlaws json := by
  cases json with
  | obj fields =>
      unfold readNode nodeFlaws
      cases written : Fields.get? fields "kind" with
      | none =>
          simp only [written]
          rfl
      | some value =>
          cases value with
          | str name =>
              simp only [written]
              cases Kind.named? name with
              | none =>
                  rfl
              | some kind =>
                  have data := reports_object (reported_readData kind) (dataShape kind)
                  simp [nodeSchemas, reported_required reports_word, reported_optional data]
          | null | bool | int | float | arr | obj =>
              simp only [written]
              rfl
  | null | bool | int | float | str | arr =>
      rfl

theorem reports_edge : Reports readEdge edgeSchema := by
  apply reports_object
  intro fields
  simp [reported_required reports_word, reported_optional reports_text?]

/-!
## Documents
-/

theorem reported_readItems
    {read : Json → Reading α} {flaws : Json → List Flaw}
    (reports : ∀ item, reported (read item) = flaws item) (collection : Collection)
    (payload : Fields) :
    reported (readItems collection read payload) = problemsIn collection flaws payload := by
  have one (position : Nat) (item : Json) :
      reported (readItem collection read position item) = (flaws item).map fun flaw =>
        ⟨.item collection position (itemId item) flaw.path, flaw.cause⟩ := by
    rw [← reports, readItem]
    cases read item <;> rfl
  unfold readItems problemsIn
  cases payload.get? collection.name with
  | none =>
      rfl
  | some value =>
      cases value with
      | arr items =>
          simp only [reported_eachFrom, one]
      | null | bool | int | float | str | obj =>
          rfl

theorem textId?_of_readNode
    {item : Json} {node : Node} (read : readNode item = .ok node) :
    textId? item = some node.id := by
  rcases readNode_eq_ok.mp read with ⟨fields, _, rfl, _, found, _⟩
  simp only [textId?, found]

theorem idsOf_of_readItems
    {payload : Fields} {nodes : List Node} (read : readItems .nodes readNode payload = .ok nodes) :
    idsOf payload = nodes.map Node.id := by
  rcases readItems_eq_ok.mp read with ⟨missing, rfl⟩ | ⟨items, found, each⟩
  · simp only [idsOf, itemsOf, missing]
    rfl
  · simp only [idsOf, itemsOf, found]
    clear found read
    induction each with
    | nil =>
        rfl
    | cons one _ ih =>
        rw [List.filterMap_cons_some (textId?_of_readNode one), ih, List.map_cons]

theorem reported_checkDistinct (nodes : List Node) :
    reported (checkDistinct nodes) =
      (firstRepeat? [] (nodes.map Node.id)).toList.map fun id =>
        ⟨.list .nodes, .duplicateId id⟩ := by
  unfold checkDistinct
  split
  · rename_i distinct
    rw [firstRepeat?_eq_none_iff.mpr ⟨distinct, fun _ _ => List.not_mem_nil⟩]
    rfl
  · rfl

theorem reported_readNodes (payload : Fields) :
    reported (readNodes payload) = nodeProblems payload := by
  have items := reported_readItems reported_readNode .nodes payload
  have telling := Telling.readItems Telling.readNode .nodes payload
  unfold readNodes nodeProblems
  rw [← items]
  cases read : readItems .nodes readNode payload with
  | ok nodes =>
      show reported (checkDistinct nodes) = repeatedId payload
      rw [reported_checkDistinct, repeatedId, idsOf_of_readItems read]
  | error problems =>
      rw [read] at telling
      cases problems with
      | nil =>
          exact absurd rfl telling
      | cons problem rest =>
          rfl

theorem reported_ofCanonical (payload : Fields) :
    reported (ofCanonical payload) = listing payload := by
  have parts : reported (ofCanonical payload) =
      reported (both (readNodes payload) (readEdges payload)) := by
    unfold ofCanonical
    cases both (readNodes payload) (readEdges payload) <;> rfl
  rw [parts, reported_both, reported_readNodes, readEdges, reported_readItems reports_edge, listing]

theorem exists_ofCanonical_iff (payload : Fields) :
    (∃ document, ofCanonical payload = .ok document) ↔ WellFormed payload := by
  rw [← reported_eq_nil_iff (Telling.ofCanonical payload), reported_ofCanonical, listing_eq_nil_iff]

theorem exists_ofFields_iff (payload : Fields) :
    (∃ document, ofFields payload = .ok document) ↔
      ∃ canonical notes, Canonical.normalize? payload = .ok (canonical, notes) ∧
        WellFormed canonical := by
  unfold ofFields
  cases Canonical.normalize? payload with
  | error fault =>
      simp
  | ok form =>
      rcases form with ⟨canonical, notes⟩
      have accepted := exists_ofCanonical_iff canonical
      cases read : ofCanonical canonical with
      | ok document =>
          simpa [read] using accepted
      | error found =>
          simpa [read] using accepted

theorem cases_of_ofFields
    {payload : Fields} {rejection : Rejection} (rejected : ofFields payload = .error rejection) :
    (Canonical.normalize? payload = .error .tooLongToWrite ∧ rejection = .limit .tooLongToWrite) ∨
      ∃ canonical notes, Canonical.normalize? payload = .ok (canonical, notes) ∧
        rejection = .problems (listing canonical) := by
  unfold ofFields at rejected
  cases normalized : Canonical.normalize? payload with
  | error fault =>
      have limit : fault = .tooLongToWrite := by
        unfold Canonical.normalize? at normalized
        split at normalized
        · cases normalized
        · exact (Except.error.inj normalized).symm
      rw [normalized] at rejected
      cases rejected
      rw [limit]
      exact Or.inl ⟨rfl, rfl⟩
  | ok form =>
      rcases form with ⟨canonical, notes⟩
      refine Or.inr ⟨canonical, notes, rfl, ?_⟩
      have reports := reported_ofCanonical canonical
      simp only [normalized] at rejected
      cases read : ofCanonical canonical with
      | ok document =>
          rw [read] at rejected
          cases rejected
      | error found =>
          rw [read] at rejected reports
          cases rejected
          rw [← reports]
          rfl

def unsound : Fields :=
  [("nodes", .arr [.obj [("id", .str "intake"), ("type", .str "level"),
      ("data", .obj [("steps", .str "ask")])]]),
    ("edges", .arr [.obj [("id", .str "e1"), ("source", .str "intake")]])]

def unsoundProblems : List Problem :=
  [⟨.item .nodes 0 (some "intake") [.key "data", .key "steps"], .notList⟩,
    ⟨.item .edges 0 (some "e1") [.key "target"], .missing⟩]

/-- A node with an id beyond the limit of digits. -/
def countless : Fields :=
  [("nodes", .arr [.obj [("id", .int Numeral.unwritable), ("kind", .str "level")]])]

theorem normalize?_countless :
    Canonical.normalize? countless = .error .tooLongToWrite := by
  have tooLong : Numeral.writable Numeral.unwritable = false := by
    rw [Numeral.writable, Int.natAbs_natCast]
    exact decide_eq_false (Nat.lt_irrefl _)
  have unwritable : Canonical.writable countless = false := by
    show (((Json.int Numeral.unwritable).writable && true) && _) = false
    rw [Json.writable, tooLong]
    rfl
  rw [Canonical.normalize?, unwritable]
  rfl

end Document
end WorkflowWalk
