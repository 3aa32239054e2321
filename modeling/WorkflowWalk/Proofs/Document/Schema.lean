import WorkflowWalk.Proofs.Document.Reader
import WorkflowWalk.Proofs.Document.Reading

/-!
# Schemas of documents

What a document has to look like is written down once, as schemas of the objects, lists and texts
that it is made of. A schema says which values it admits. It also says what is wrong with a value,
in the order of the fields and of the items, and nothing is wrong with exactly those values that it
admits.
-/

namespace WorkflowWalk
namespace Document

open Problem (Cause Collection Part Shape)

/-!
## Schemas
-/

mutual

/-- What is expected of a value. A word is a text that is not empty. A scalar is a text, a truth
value, a number that has a text, or null. -/
inductive Schema
  | text
  | word
  | textOrNull
  | scalar
  | list (item : Schema)
  | object (shape : Shape) (fields : FieldSchemas)

/-- What is expected of the fields of an object, one after the other. A field stands under its key
or, if there is nothing under it, under another one. -/
inductive FieldSchemas
  | done
  | field (key other : String) (needed : Bool) (schema : Schema) (rest : FieldSchemas)

end

namespace FieldSchemas

def needed (key : String) (schema : Schema) (rest : FieldSchemas) : FieldSchemas :=
  .field key key true schema rest

def given (key : String) (schema : Schema) (rest : FieldSchemas) : FieldSchemas :=
  .field key key false schema rest

def either (key other : String) (schema : Schema) (rest : FieldSchemas) : FieldSchemas :=
  .field key other false schema rest

end FieldSchemas

/-!
## Values that are admitted
-/

mutual

def Schema.Admits : Schema → Json → Prop
  | .text, json => ∃ value, json = .str value
  | .word, json => ∃ value, json = .str value ∧ value ≠ ""
  | .textOrNull, json => json = .null ∨ ∃ value, json = .str value
  | .scalar, json =>
      json = .null ∨ (∃ value, json = .str value) ∨ (∃ value, json = .bool value) ∨
        (∃ n, json = .int n ∧ Numeral.writable n = true) ∨ ∃ x, json = .float x
  | .list item, json => ∃ items, json = .arr items ∧ ∀ value ∈ items, item.Admits value
  | .object _ schemas, json => ∃ fields, json = .obj fields ∧ schemas.Admit fields

def FieldSchemas.Admit : FieldSchemas → Fields → Prop
  | .done, _ => True
  | .field key other needed schema rest, fields =>
      (needed = true → ∃ value, Fields.get? fields (presentKey fields key other) = some value) ∧
        (∀ value, Fields.get? fields (presentKey fields key other) = some value →
          schema.Admits value) ∧
        rest.Admit fields

end

/-!
## What is wrong with values
-/

def Flaw.under (part : Part) (flaw : Flaw) : Flaw :=
  { flaw with path := part :: flaw.path }

def fieldFlaws (key : String) (needed : Bool) (flaws : Json → List Flaw) (fields : Fields) :
    List Flaw :=
  match fields.get? key with
  | some value => (flaws value).map (.under (.key key))
  | none => if needed then [⟨[.key key], .missing⟩] else []

mutual

def Schema.flaws : Schema → Json → List Flaw
  | .text, json =>
      match json with
      | .str _ => []
      | _ => [⟨[], .notText⟩]
  | .word, json =>
      match json with
      | .str value => if value = "" then [⟨[], .emptyText⟩] else []
      | _ => [⟨[], .notText⟩]
  | .textOrNull, json =>
      match json with
      | .null | .str _ => []
      | _ => [⟨[], .notText⟩]
  | .scalar, json =>
      match json with
      | .null | .str _ | .bool _ | .float _ => []
      | .int n => if Numeral.writable n then [] else [⟨[], .valueWithoutText .tooLongToWrite⟩]
      | _ => [⟨[], .notText⟩]
  | .list item, json =>
      match json with
      | .arr items =>
          items.zipIdx.flatMap fun (value, position) =>
            (item.flaws value).map (.under (.index position))
      | _ => [⟨[], .notList⟩]
  | .object shape schemas, json =>
      match json with
      | .obj fields => schemas.flaws fields
      | _ => [⟨[], .notObject shape⟩]

def FieldSchemas.flaws : FieldSchemas → Fields → List Flaw
  | .done, _ => []
  | .field key other needed schema rest, fields =>
      fieldFlaws (presentKey fields key other) needed schema.flaws fields ++ rest.flaws fields

end

theorem presentKey_self (fields : Fields) (key : String) :
    presentKey fields key key = key := by
  simp [presentKey]

namespace FieldSchemas

@[simp] theorem flaws_done (fields : Fields) :
    FieldSchemas.done.flaws fields = [] :=
  rfl

@[simp] theorem flaws_needed
    (key : String) (schema : Schema) (rest : FieldSchemas) (fields : Fields) :
    (needed key schema rest).flaws fields =
      fieldFlaws key true schema.flaws fields ++ rest.flaws fields := by
  rw [needed, FieldSchemas.flaws, presentKey_self]

@[simp] theorem flaws_given
    (key : String) (schema : Schema) (rest : FieldSchemas) (fields : Fields) :
    (given key schema rest).flaws fields =
      fieldFlaws key false schema.flaws fields ++ rest.flaws fields := by
  rw [given, FieldSchemas.flaws, presentKey_self]

@[simp] theorem flaws_either
    (key other : String) (schema : Schema) (rest : FieldSchemas) (fields : Fields) :
    (either key other schema rest).flaws fields =
      fieldFlaws (presentKey fields key other) false schema.flaws fields ++ rest.flaws fields := by
  rw [either, FieldSchemas.flaws]

end FieldSchemas

/-!
## Values with nothing wrong
-/

theorem flatMap_zipIdx_eq_nil_iff
    {α β : Type} {items : List α} {position : Nat} {list : α → Nat → List β}
    {good : α → Prop} (same : ∀ item position, list item position = [] ↔ good item) :
    ((items.zipIdx position).flatMap fun (item, place) => list item place) = [] ↔
      ∀ item ∈ items, good item := by
  induction items generalizing position with
  | nil =>
      simp
  | cons item rest ih =>
      rw [List.zipIdx_cons, List.flatMap_cons, List.append_eq_nil_iff, ih, List.forall_mem_cons,
        same]

mutual

/-- Nothing is wrong with exactly those values that a schema admits. -/
theorem Schema.flaws_eq_nil_iff (schema : Schema) (json : Json) :
    schema.flaws json = [] ↔ schema.Admits json := by
  match schema with
  | .text | .word | .textOrNull | .scalar =>
      cases json <;> simp [Schema.flaws, Schema.Admits]
  | .list item =>
      cases json with
      | arr items =>
          have one (value : Json) (position : Nat) :
              (item.flaws value).map (Flaw.under (.index position)) = [] ↔ item.Admits value := by
            rw [List.map_eq_nil_iff]
            exact Schema.flaws_eq_nil_iff item value
          simpa [Schema.flaws, Schema.Admits] using flatMap_zipIdx_eq_nil_iff one
      | null | bool | int | float | str | obj =>
          simp [Schema.flaws, Schema.Admits]
  | .object shape schemas =>
      cases json with
      | obj fields =>
          have all := FieldSchemas.flaws_eq_nil_iff schemas fields
          simpa [Schema.flaws, Schema.Admits] using all
      | null | bool | int | float | str | arr =>
          simp [Schema.flaws, Schema.Admits]

theorem FieldSchemas.flaws_eq_nil_iff (schemas : FieldSchemas) (fields : Fields) :
    schemas.flaws fields = [] ↔ schemas.Admit fields := by
  match schemas with
  | .done =>
      simp [FieldSchemas.flaws, FieldSchemas.Admit]
  | .field key other needed schema rest =>
      rw [FieldSchemas.flaws, FieldSchemas.Admit, List.append_eq_nil_iff,
        FieldSchemas.flaws_eq_nil_iff rest fields, ← and_assoc]
      apply and_congr_left'
      unfold fieldFlaws
      cases found : Fields.get? fields (presentKey fields key other) with
      | none =>
          simp
      | some value =>
          have one := Schema.flaws_eq_nil_iff schema value
          simpa using one

end

/-!
## Nodes and edges
-/

def branchSchema : Schema :=
  .object .branch (.given "name" .text (.given "condition" .text .done))

def actionItemSchema : Schema :=
  .object .actionItem
    (.needed "type" .text (.given "title" .text (.given "value" .scalar .done)))

def dataSchemas : Kind → FieldSchemas
  | .level =>
      .given "label" .text
        (.either "levelName" "level_name" .textOrNull
          (.either "levelType" "level_type" .textOrNull (.given "steps" (.list .text) .done)))
  | .condition => .given "label" .text (.given "branches" (.list branchSchema) .done)
  | .action => .given "label" .text (.given "actions" (.list actionItemSchema) .done)

def nodeSchemas (kind : Kind) : FieldSchemas :=
  .needed "id" .word (.given "data" (.object (dataShape kind) (dataSchemas kind)) .done)

def edgeSchema : Schema :=
  .object .edge
    (.needed "id" .word
      (.needed "source" .word (.needed "target" .word (.given "branchTag" .textOrNull .done))))

/-- A node says its kind, and the rest of it is what is expected of this kind. -/
def IsNode (json : Json) : Prop :=
  ∃ (fields : Fields) (kind : Kind), json = .obj fields ∧
    fields.get? "kind" = some (.str kind.name) ∧ (nodeSchemas kind).Admit fields

/-- What is wrong with a node. Without a kind nothing else is. -/
def nodeFlaws : Json → List Flaw
  | .obj fields =>
      match Fields.get? fields "kind" with
      | none => [⟨[], .noKind⟩]
      | some (.str name) =>
          match Kind.named? name with
          | some kind => (nodeSchemas kind).flaws fields
          | none => [⟨[], .unknownKind name⟩]
      | some other => [⟨[], .unknownKind (kindText other)⟩]
  | _ => [⟨[], .notNode⟩]

theorem nodeFlaws_eq_nil_iff (json : Json) :
    nodeFlaws json = [] ↔ IsNode json := by
  constructor
  · intro sound
    unfold nodeFlaws at sound
    split at sound
    · rename_i fields
      split at sound
      · cases sound
      · rename_i name written
        split at sound
        · rename_i kind named
          rw [← name_eq_of_named? named] at written
          exact ⟨fields, kind, rfl, written, (FieldSchemas.flaws_eq_nil_iff _ _).mp sound⟩
        · cases sound
      · cases sound
    · cases sound
  · rintro ⟨fields, kind, rfl, written, admitted⟩
    unfold nodeFlaws
    simp only [written, Kind.named?_name]
    exact (FieldSchemas.flaws_eq_nil_iff _ _).mpr admitted

/-!
## Documents
-/

def ListOf (collection : Collection) (good : Json → Prop) (payload : Fields) : Prop :=
  ∀ value, payload.get? collection.name = some value →
    ∃ items, value = .arr items ∧ ∀ item ∈ items, good item

def itemsOf (collection : Collection) (payload : Fields) : List Json :=
  match payload.get? collection.name with
  | some (.arr items) => items
  | _ => []

def textId? : Json → Option String
  | .obj fields =>
      match Fields.get? fields "id" with
      | some (.str id) => some id
      | _ => none
  | _ => none

def idsOf (payload : Fields) : List String :=
  (itemsOf .nodes payload).filterMap textId?

/-- What a document looks like in canonical form. -/
structure WellFormed (payload : Fields) : Prop where
  nodes : ListOf .nodes IsNode payload
  distinct : (idsOf payload).Nodup
  edges : ListOf .edges edgeSchema.Admits payload

def problemsIn (collection : Collection) (flaws : Json → List Flaw) (payload : Fields) :
    List Problem :=
  match payload.get? collection.name with
  | none => []
  | some (.arr items) =>
      items.zipIdx.flatMap fun (item, position) =>
        (flaws item).map fun flaw =>
          ⟨.item collection position (itemId item) flaw.path, flaw.cause⟩
  | some _ => [⟨.list collection, .notList⟩]

def repeatedId (payload : Fields) : List Problem :=
  (firstRepeat? [] (idsOf payload)).toList.map fun id => ⟨.list .nodes, .duplicateId id⟩

/-- What is wrong with the nodes. An id of two nodes counts only if nothing else is. -/
def nodeProblems (payload : Fields) : List Problem :=
  match problemsIn .nodes nodeFlaws payload with
  | [] => repeatedId payload
  | found => found

def listing (payload : Fields) : List Problem :=
  nodeProblems payload ++ problemsIn .edges edgeSchema.flaws payload

theorem problemsIn_eq_nil_iff
    {collection : Collection} {flaws : Json → List Flaw} {good : Json → Prop} {payload : Fields}
    (same : ∀ item, flaws item = [] ↔ good item) :
    problemsIn collection flaws payload = [] ↔ ListOf collection good payload := by
  unfold problemsIn ListOf
  cases payload.get? collection.name with
  | none =>
      simp
  | some value =>
      cases value with
      | arr items =>
          have one (item : Json) (position : Nat) :
              ((flaws item).map fun flaw =>
                (⟨.item collection position (itemId item) flaw.path, flaw.cause⟩ : Problem)) = [] ↔
                good item := by
            rw [List.map_eq_nil_iff, same]
          simpa using flatMap_zipIdx_eq_nil_iff one
      | null | bool | int | float | str | obj =>
          simp

theorem firstRepeat?_eq_none_iff
    {seen ids : List String} :
    firstRepeat? seen ids = none ↔ ids.Nodup ∧ ∀ id ∈ ids, id ∉ seen := by
  refine ⟨nodup_of_firstRepeat?, ?_⟩
  induction ids generalizing seen with
  | nil =>
      intro _
      rfl
  | cons first rest ih =>
      rintro ⟨distinct, fresh⟩
      rcases List.nodup_cons.mp distinct with ⟨once, others⟩
      have unseen : seen.contains first = false := by
        simpa using fresh first List.mem_cons_self
      rw [firstRepeat?, unseen]
      apply ih
      refine ⟨others, ?_⟩
      intro id member known
      rcases List.mem_cons.mp known with rfl | earlier
      · exact once member
      · exact fresh id (List.mem_cons_of_mem _ member) earlier

theorem repeatedId_eq_nil_iff (payload : Fields) :
    repeatedId payload = [] ↔ (idsOf payload).Nodup := by
  rw [repeatedId, List.map_eq_nil_iff, Option.toList_eq_nil_iff, firstRepeat?_eq_none_iff]
  simp

theorem nodeProblems_eq_nil_iff (payload : Fields) :
    nodeProblems payload = [] ↔ ListOf .nodes IsNode payload ∧ (idsOf payload).Nodup := by
  rw [← problemsIn_eq_nil_iff nodeFlaws_eq_nil_iff, ← repeatedId_eq_nil_iff, nodeProblems]
  cases problemsIn .nodes nodeFlaws payload <;> simp

theorem listing_eq_nil_iff (payload : Fields) :
    listing payload = [] ↔ WellFormed payload := by
  rw [listing, List.append_eq_nil_iff, nodeProblems_eq_nil_iff,
    problemsIn_eq_nil_iff edgeSchema.flaws_eq_nil_iff]
  constructor
  · rintro ⟨⟨nodes, distinct⟩, edges⟩
    exact ⟨nodes, distinct, edges⟩
  · rintro ⟨nodes, distinct, edges⟩
    exact ⟨⟨nodes, distinct⟩, edges⟩

end Document
end WorkflowWalk
