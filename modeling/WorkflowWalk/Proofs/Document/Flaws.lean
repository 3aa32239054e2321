import Mathlib.Data.List.Pairwise
import WorkflowWalk.Proofs.Document.Schema

/-!
# Flaws

A flaw of a node or an edge has a path, and what it says is true of the value that the path leads
to. No flaw of an item lies inside another one. The keys on the ways to all the places where there
can be flaws can be listed.
-/

namespace WorkflowWalk
namespace Document

open Problem (Cause Collection Part Shape)

/-!
## Values that paths lead to
-/

def valueAt? : List Part → Json → Option Json
  | [], json => some json
  | .key name :: rest, .obj fields => (Fields.get? fields name).bind (valueAt? rest)
  | .index position :: rest, .arr items => items[position]?.bind (valueAt? rest)
  | _ :: _, _ => none

/-- What a cause says of the value at a place. That a field is missing is said of no value. -/
def Describes : Cause → Json → Prop
  | .notText, value => ∀ text, value ≠ .str text
  | .emptyText, value => value = .str ""
  | .notList, value => ∀ items, value ≠ .arr items
  | .notObject _, value | .notNode, value => ∀ fields, value ≠ .obj fields
  | .noKind, value => ∃ fields : Fields, value = .obj fields ∧ fields.get? "kind" = none
  | .unknownKind _, value =>
      ∃ (fields : Fields) (kind : Json), value = .obj fields ∧ fields.get? "kind" = some kind ∧
        ∀ known : Kind, kind ≠ .str known.name
  | .valueWithoutText _, value => ∃ n, value = .int n ∧ Numeral.writable n = false
  | .missing, _ | .duplicateId _, _ => False

/-- A flaw is about the value that its path leads to. A field that is missing is missing from the
object that the rest of the path leads to. -/
inductive Concerns (item : Json) : Flaw → Prop
  | missing (way : List Part) {key : String} {fields : Fields}
      (held : valueAt? way item = some (.obj fields)) (absent : fields.get? key = none) :
      Concerns item ⟨way ++ [.key key], .missing⟩
  | wrong {path : List Part} {cause : Cause} {value : Json}
      (held : valueAt? path item = some value) (described : Describes cause value) :
      Concerns item ⟨path, cause⟩

namespace Concerns

theorem here
    {cause : Cause} {value : Json} (described : Describes cause value) :
    Concerns value ⟨[], cause⟩ :=
  .wrong rfl described

theorem under_key
    {fields : Fields} {name : String} {value : Json} (found : fields.get? name = some value)
    {flaw : Flaw} (concerns : Concerns value flaw) :
    Concerns (.obj fields) (flaw.under (.key name)) := by
  have deeper (path : List Part) :
      valueAt? (.key name :: path) (.obj fields) = valueAt? path value := by
    rw [valueAt?, found, Option.bind_some]
  cases concerns with
  | missing way held absent =>
      exact .missing (.key name :: way) ((deeper way).trans held) absent
  | wrong held described =>
      exact .wrong ((deeper _).trans held) described

theorem under_index
    {items : List Json} {position : Nat} {value : Json} (placed : items[position]? = some value)
    {flaw : Flaw} (concerns : Concerns value flaw) :
    Concerns (.arr items) (flaw.under (.index position)) := by
  have deeper (path : List Part) :
      valueAt? (.index position :: path) (.arr items) = valueAt? path value := by
    rw [valueAt?, placed, Option.bind_some]
  cases concerns with
  | missing way held absent =>
      exact .missing (.index position :: way) ((deeper way).trans held) absent
  | wrong held described =>
      exact .wrong ((deeper _).trans held) described

end Concerns

theorem mem_fieldFlaws
    {key : String} {needed : Bool} {flaws : Json → List Flaw} {fields : Fields} {flaw : Flaw}
    (member : flaw ∈ fieldFlaws key needed flaws fields) :
    (∃ value, fields.get? key = some value ∧
      ∃ inner ∈ flaws value, flaw = inner.under (.key key)) ∨
    (fields.get? key = none ∧ flaw = ⟨[.key key], .missing⟩) := by
  unfold fieldFlaws at member
  cases found : fields.get? key with
  | some value =>
      rw [found] at member
      rcases List.mem_map.mp member with ⟨inner, among, same⟩
      exact Or.inl ⟨value, rfl, inner, among, same.symm⟩
  | none =>
      rw [found] at member
      cases needed with
      | false =>
          cases member
      | true =>
          exact Or.inr ⟨rfl, List.mem_singleton.mp member⟩

theorem mem_listFlaws
    {items : List Json} {flaws : Json → List Flaw} {flaw : Flaw}
    (member : flaw ∈ items.zipIdx.flatMap fun (value, position) =>
      (flaws value).map (.under (.index position))) :
    ∃ position value, items[position]? = some value ∧
      ∃ inner ∈ flaws value, flaw = inner.under (.index position) := by
  rcases List.mem_flatMap.mp member with ⟨⟨value, position⟩, among, here⟩
  rcases List.mem_map.mp here with ⟨inner, found, same⟩
  exact ⟨position, value, List.mem_zipIdx_iff_getElem?.mp among, inner, found, same.symm⟩

mutual

theorem Schema.concerns_of_mem_flaws
    (schema : Schema) (json : Json) {flaw : Flaw} (member : flaw ∈ schema.flaws json) :
    Concerns json flaw := by
  match schema with
  | .text =>
      cases json with
      | str value =>
          cases member
      | null | bool | int | float | arr | obj =>
          rw [List.mem_singleton.mp member]
          exact .here (by simp [Describes])
  | .word =>
      cases json with
      | str value =>
          have found : flaw ∈ if value = "" then [⟨[], .emptyText⟩] else [] := member
          split at found
          · rename_i empty
            rw [List.mem_singleton.mp found]
            exact .here (by simp [Describes, empty])
          · cases found
      | null | bool | int | float | arr | obj =>
          rw [List.mem_singleton.mp member]
          exact .here (by simp [Describes])
  | .textOrNull =>
      cases json with
      | null | str =>
          cases member
      | bool | int | float | arr | obj =>
          rw [List.mem_singleton.mp member]
          exact .here (by simp [Describes])
  | .scalar =>
      cases json with
      | null | str | bool | float =>
          cases member
      | int n =>
          have found : flaw ∈ if Numeral.writable n then []
              else [⟨[], .valueWithoutText .tooLongToWrite⟩] := member
          split at found
          · cases found
          · rename_i unwritable
            rw [List.mem_singleton.mp found]
            exact .here ⟨n, rfl, by simpa using unwritable⟩
      | arr | obj =>
          rw [List.mem_singleton.mp member]
          exact .here (by simp [Describes])
  | .list item =>
      cases json with
      | arr items =>
          rw [Schema.flaws] at member
          rcases mem_listFlaws member with ⟨position, value, placed, inner, among, rfl⟩
          exact (Schema.concerns_of_mem_flaws item value among).under_index placed
      | null | bool | int | float | str | obj =>
          rw [List.mem_singleton.mp member]
          exact .here (by simp [Describes])
  | .object shape schemas =>
      cases json with
      | obj fields =>
          exact FieldSchemas.concerns_of_mem_flaws schemas fields member
      | null | bool | int | float | str | arr =>
          rw [List.mem_singleton.mp member]
          exact .here (by simp [Describes])

theorem FieldSchemas.concerns_of_mem_flaws
    (schemas : FieldSchemas) (fields : Fields) {flaw : Flaw} (member : flaw ∈ schemas.flaws fields) :
    Concerns (.obj fields) flaw := by
  match schemas with
  | .done =>
      cases member
  | .field key other needed schema rest =>
      rw [FieldSchemas.flaws] at member
      rcases List.mem_append.mp member with own | later
      · rcases mem_fieldFlaws own with ⟨value, found, inner, among, rfl⟩ | ⟨absent, rfl⟩
        · exact (Schema.concerns_of_mem_flaws schema value among).under_key found
        · exact .missing [] rfl absent
      · exact FieldSchemas.concerns_of_mem_flaws rest fields later

end

theorem ne_name_of_named?_eq_none
    {name : String} (unknown : Kind.named? name = none) (kind : Kind) :
    name ≠ kind.name := by
  rintro rfl
  rw [Kind.named?_name] at unknown
  cases unknown

theorem concerns_of_mem_nodeFlaws
    {json : Json} {flaw : Flaw} (member : flaw ∈ nodeFlaws json) :
    Concerns json flaw := by
  unfold nodeFlaws at member
  split at member
  · rename_i fields
    split at member
    · rename_i absent
      rw [List.mem_singleton.mp member]
      exact .here ⟨fields, rfl, absent⟩
    · rename_i name written
      split at member
      · exact FieldSchemas.concerns_of_mem_flaws _ fields member
      · rename_i unknown
        rw [List.mem_singleton.mp member]
        refine .here ⟨fields, .str name, rfl, written, ?_⟩
        intro kind same
        exact ne_name_of_named?_eq_none unknown kind (Json.str.inj same)
    · rename_i other wordless written
      rw [List.mem_singleton.mp member]
      exact .here ⟨fields, other, rfl, written, fun kind => wordless kind.name⟩
  · rename_i other
    rw [List.mem_singleton.mp member]
    exact .here other

/-!
## No flaw lies inside another one
-/

/-- Neither of two flaws lies inside the other. -/
def Flaw.Apart (flaw other : Flaw) : Prop :=
  ¬flaw.path <+: other.path ∧ ¬other.path <+: flaw.path

namespace Flaw.Apart

theorem under {flaw other : Flaw} (apart : flaw.Apart other) (part : Part) :
    (flaw.under part).Apart (other.under part) := by
  unfold Flaw.Apart Flaw.under
  rw [List.prefix_cons_inj, List.prefix_cons_inj]
  exact apart

theorem of_head_ne
    {flaw other : Flaw} {first second : Part} {more others : List Part} (differs : first ≠ second)
    (left : flaw.path = first :: more) (right : other.path = second :: others) :
    flaw.Apart other := by
  unfold Flaw.Apart
  rw [left, right, List.cons_prefix_cons, List.cons_prefix_cons]
  exact ⟨fun inside => differs inside.1, fun inside => differs inside.1.symm⟩

end Flaw.Apart

def FieldSchemas.keys : FieldSchemas → List String
  | .done => []
  | .field key other _ _ rest => key :: other :: rest.keys

mutual

def Schema.KeysApart : Schema → Prop
  | .list item => item.KeysApart
  | .object _ schemas => schemas.KeysApart
  | .text | .word | .textOrNull | .scalar => True

def FieldSchemas.KeysApart : FieldSchemas → Prop
  | .done => True
  | .field key other _ schema rest =>
      key ∉ rest.keys ∧ other ∉ rest.keys ∧ schema.KeysApart ∧ rest.KeysApart

end

theorem exists_path_of_mem_fieldFlaws
    {key : String} {needed : Bool} {flaws : Json → List Flaw} {fields : Fields} {flaw : Flaw}
    (member : flaw ∈ fieldFlaws key needed flaws fields) :
    ∃ more, flaw.path = .key key :: more := by
  rcases mem_fieldFlaws member with ⟨_, _, inner, _, rfl⟩ | ⟨_, rfl⟩
  · exact ⟨inner.path, rfl⟩
  · exact ⟨[], rfl⟩

theorem FieldSchemas.exists_key_of_mem_flaws
    {schemas : FieldSchemas} {fields : Fields} {flaw : Flaw} (member : flaw ∈ schemas.flaws fields) :
    ∃ key ∈ schemas.keys, ∃ more, flaw.path = .key key :: more := by
  match schemas with
  | .done =>
      cases member
  | .field key other needed schema rest =>
      rw [FieldSchemas.flaws] at member
      rcases List.mem_append.mp member with own | later
      · have among : presentKey fields key other ∈ (FieldSchemas.field key other needed schema
            rest).keys := by
          rcases presentKey_eq_or fields key other with same | same
          · rw [same]
            exact List.mem_cons_self
          · rw [same]
            exact List.mem_cons_of_mem _ List.mem_cons_self
        exact ⟨_, among, exists_path_of_mem_fieldFlaws own⟩
      · rcases FieldSchemas.exists_key_of_mem_flaws later with ⟨name, among, leads⟩
        exact ⟨name, List.mem_cons_of_mem _ (List.mem_cons_of_mem _ among), leads⟩

theorem pairwise_under
    {flaws : List Flaw} (apart : flaws.Pairwise Flaw.Apart) (part : Part) :
    (flaws.map (.under part)).Pairwise Flaw.Apart :=
  List.pairwise_map.mpr (apart.imp fun one => one.under part)

theorem pairwise_zipIdx (items : List Json) :
    items.zipIdx.Pairwise fun item other => item.2 ≠ other.2 := by
  rw [← List.pairwise_map, List.zipIdx_map_snd]
  exact List.nodup_range'

theorem pairwise_fieldFlaws
    {flaws : Json → List Flaw} (apart : ∀ value, (flaws value).Pairwise Flaw.Apart) (key : String)
    (needed : Bool) (fields : Fields) :
    (fieldFlaws key needed flaws fields).Pairwise Flaw.Apart := by
  unfold fieldFlaws
  split
  · exact pairwise_under (apart _) _
  · split
    · exact List.pairwise_singleton ..
    · exact .nil

mutual

/-- What is wrong with a value is wrong in places that lie apart. -/
theorem Schema.pairwise_flaws
    (schema : Schema) (keysApart : schema.KeysApart) (json : Json) :
    (schema.flaws json).Pairwise Flaw.Apart := by
  match schema with
  | .text | .textOrNull =>
      cases json <;> simp [Schema.flaws]
  | .word =>
      cases json with
      | str value =>
          by_cases empty : value = "" <;> simp [Schema.flaws, empty]
      | null | bool | int | float | arr | obj =>
          simp [Schema.flaws]
  | .scalar =>
      cases json with
      | int n =>
          cases written : Numeral.writable n <;> simp [Schema.flaws, written]
      | null | bool | float | str | arr | obj =>
          simp [Schema.flaws]
  | .list item =>
      cases json with
      | arr items =>
          rw [Schema.flaws, List.pairwise_flatMap]
          constructor
          · intro placed _
            exact pairwise_under (Schema.pairwise_flaws item keysApart placed.1) _
          · refine (pairwise_zipIdx items).imp ?_
            intro placed other differs flaw here another there
            rcases List.mem_map.mp here with ⟨_, _, rfl⟩
            rcases List.mem_map.mp there with ⟨_, _, rfl⟩
            exact .of_head_ne (fun same => differs (Part.index.inj same)) rfl rfl
      | null | bool | int | float | str | obj =>
          simp [Schema.flaws]
  | .object shape schemas =>
      cases json with
      | obj fields =>
          exact FieldSchemas.pairwise_flaws schemas keysApart fields
      | null | bool | int | float | str | arr =>
          simp [Schema.flaws]

theorem FieldSchemas.pairwise_flaws
    (schemas : FieldSchemas) (keysApart : schemas.KeysApart) (fields : Fields) :
    (schemas.flaws fields).Pairwise Flaw.Apart := by
  match schemas with
  | .done =>
      exact .nil
  | .field key other needed schema rest =>
      rcases keysApart with ⟨freshKey, freshOther, inside, later⟩
      rw [FieldSchemas.flaws, List.pairwise_append]
      refine ⟨pairwise_fieldFlaws (Schema.pairwise_flaws schema inside) _ _ _,
        FieldSchemas.pairwise_flaws rest later fields, ?_⟩
      intro flaw here another there
      rcases exists_path_of_mem_fieldFlaws here with ⟨_, left⟩
      rcases FieldSchemas.exists_key_of_mem_flaws there with ⟨name, among, _, right⟩
      refine .of_head_ne ?_ left right
      intro same
      have fresh : presentKey fields key other ∉ rest.keys := by
        rcases presentKey_eq_or fields key other with chosen | chosen
        · rwa [chosen]
        · rwa [chosen]
      exact fresh (Part.key.inj same ▸ among)

end

/-!
## Ways to places

The keys on the ways to the places where something can be wrong can be listed: there are only so many
of them.
-/

def key? : Part → Option String
  | .key name => some name
  | .index _ => none

/-- The keys on the way to a place. Where it leads through a list, it is left open through which of
the items. -/
abbrev Route := List (Option String)

mutual

def Schema.routes : Schema → List Route
  | .text | .word | .textOrNull | .scalar => [[]]
  | .list item => [] :: item.routes.map (none :: ·)
  | .object _ schemas => [] :: schemas.routes

def FieldSchemas.routes : FieldSchemas → List Route
  | .done => []
  | .field key other _ schema rest =>
      schema.routes.map (some key :: ·) ++ schema.routes.map (some other :: ·) ++ rest.routes

end

theorem nil_mem_routes (schema : Schema) : [] ∈ schema.routes := by
  cases schema <;> exact List.mem_cons_self

mutual

theorem Schema.route_mem
    (schema : Schema) (json : Json) {flaw : Flaw} (member : flaw ∈ schema.flaws json) :
    flaw.path.map key? ∈ schema.routes := by
  have atRoot (cause : Cause) (only : flaw = ⟨[], cause⟩) : flaw.path.map key? ∈ schema.routes := by
    rw [only]
    exact nil_mem_routes schema
  match schema with
  | .text =>
      cases json with
      | str =>
          cases member
      | null | bool | int | float | arr | obj =>
          exact atRoot _ (List.mem_singleton.mp member)
  | .word =>
      cases json with
      | str value =>
          have found : flaw ∈ if value = "" then [⟨[], .emptyText⟩] else [] := member
          split at found
          · exact atRoot _ (List.mem_singleton.mp found)
          · cases found
      | null | bool | int | float | arr | obj =>
          exact atRoot _ (List.mem_singleton.mp member)
  | .textOrNull =>
      cases json with
      | null | str =>
          cases member
      | bool | int | float | arr | obj =>
          exact atRoot _ (List.mem_singleton.mp member)
  | .scalar =>
      cases json with
      | int n =>
          have found : flaw ∈ if Numeral.writable n then []
              else [⟨[], .valueWithoutText .tooLongToWrite⟩] := member
          split at found
          · cases found
          · exact atRoot _ (List.mem_singleton.mp found)
      | null | bool | float | str =>
          cases member
      | arr | obj =>
          exact atRoot _ (List.mem_singleton.mp member)
  | .list item =>
      cases json with
      | arr items =>
          rw [Schema.flaws] at member
          rcases mem_listFlaws member with ⟨position, value, _, inner, among, rfl⟩
          have deeper := Schema.route_mem item value among
          exact List.mem_cons_of_mem _ (List.mem_map_of_mem deeper)
      | null | bool | int | float | str | obj =>
          exact atRoot _ (List.mem_singleton.mp member)
  | .object shape schemas =>
      cases json with
      | obj fields =>
          exact List.mem_cons_of_mem _ (FieldSchemas.route_mem schemas fields member)
      | null | bool | int | float | str | arr =>
          exact atRoot _ (List.mem_singleton.mp member)

theorem FieldSchemas.route_mem
    (schemas : FieldSchemas) (fields : Fields) {flaw : Flaw} (member : flaw ∈ schemas.flaws fields) :
    flaw.path.map key? ∈ schemas.routes := by
  match schemas with
  | .done =>
      cases member
  | .field key other needed schema rest =>
      rw [FieldSchemas.flaws] at member
      rw [FieldSchemas.routes]
      rcases List.mem_append.mp member with own | later
      · have inside : ∃ route ∈ schema.routes,
            flaw.path.map key? = some (presentKey fields key other) :: route := by
          rcases mem_fieldFlaws own with ⟨value, _, inner, among, rfl⟩ | ⟨_, rfl⟩
          · exact ⟨_, Schema.route_mem schema value among, rfl⟩
          · exact ⟨[], nil_mem_routes schema, rfl⟩
        rcases inside with ⟨route, known, leads⟩
        rw [leads]
        apply List.mem_append_left
        rcases presentKey_eq_or fields key other with chosen | chosen
        · rw [chosen]
          exact List.mem_append_left _ (List.mem_map_of_mem known)
        · rw [chosen]
          exact List.mem_append_right _ (List.mem_map_of_mem known)
      · exact List.mem_append_right _ (FieldSchemas.route_mem rest fields later)

end

def itemFlaws : Collection → Json → List Flaw
  | .nodes => nodeFlaws
  | .edges => edgeSchema.flaws

def itemRoutes : List Route :=
  [] :: (Kind.all.flatMap fun kind => (nodeSchemas kind).routes) ++ edgeSchema.routes

theorem mem_kinds (kind : Kind) : kind ∈ Kind.all := by
  cases kind <;> simp [Kind.all]

theorem exists_kind_of_mem_nodeFlaws
    {json : Json} {flaw : Flaw} (member : flaw ∈ nodeFlaws json) :
    flaw.path = [] ∧ nodeFlaws json = [flaw] ∨
      ∃ kind fields, nodeFlaws json = (nodeSchemas kind).flaws fields := by
  unfold nodeFlaws at member ⊢
  split at member
  · split at member
    · exact Or.inl ⟨by rw [List.mem_singleton.mp member], by rw [List.mem_singleton.mp member]⟩
    · split at member
      · exact Or.inr ⟨_, _, rfl⟩
      · exact Or.inl ⟨by rw [List.mem_singleton.mp member], by rw [List.mem_singleton.mp member]⟩
    · exact Or.inl ⟨by rw [List.mem_singleton.mp member], by rw [List.mem_singleton.mp member]⟩
  · exact Or.inl ⟨by rw [List.mem_singleton.mp member], by rw [List.mem_singleton.mp member]⟩

theorem route_mem_itemRoutes
    {collection : Collection} {item : Json} {flaw : Flaw} (member : flaw ∈ itemFlaws collection item) :
    flaw.path.map key? ∈ itemRoutes := by
  cases collection with
  | nodes =>
      rcases exists_kind_of_mem_nodeFlaws member with ⟨root, _⟩ | ⟨kind, fields, same⟩
      · rw [root]
        exact List.mem_cons_self
      · have found : flaw ∈ (nodeSchemas kind).flaws fields := same ▸ member
        have known := FieldSchemas.route_mem _ fields found
        refine List.mem_cons_of_mem _ (List.mem_append_left _ ?_)
        exact List.mem_flatMap.mpr ⟨kind, mem_kinds kind, known⟩
  | edges =>
      exact List.mem_cons_of_mem _ (List.mem_append_right _ (Schema.route_mem edgeSchema item member))

theorem concerns_of_mem_itemFlaws
    {collection : Collection} {item : Json} {flaw : Flaw} (member : flaw ∈ itemFlaws collection item) :
    Concerns item flaw := by
  cases collection with
  | nodes =>
      exact concerns_of_mem_nodeFlaws member
  | edges =>
      exact Schema.concerns_of_mem_flaws edgeSchema item member

theorem keysApart_nodeSchemas (kind : Kind) :
    (nodeSchemas kind).KeysApart := by
  cases kind <;>
    simp [nodeSchemas, dataSchemas, branchSchema, actionItemSchema, FieldSchemas.needed,
      FieldSchemas.given, FieldSchemas.either, FieldSchemas.KeysApart, Schema.KeysApart,
      FieldSchemas.keys]

theorem keysApart_edgeSchema : edgeSchema.KeysApart := by
  simp [edgeSchema, FieldSchemas.needed, FieldSchemas.given, FieldSchemas.KeysApart,
    Schema.KeysApart, FieldSchemas.keys]

theorem pairwise_itemFlaws (collection : Collection) (item : Json) :
    (itemFlaws collection item).Pairwise Flaw.Apart := by
  cases collection with
  | nodes =>
      show (nodeFlaws item).Pairwise Flaw.Apart
      cases found : nodeFlaws item with
      | nil =>
          exact .nil
      | cons flaw rest =>
          have first : flaw ∈ nodeFlaws item := found ▸ List.mem_cons_self
          rw [← found]
          rcases exists_kind_of_mem_nodeFlaws first with ⟨_, only⟩ | ⟨kind, fields, same⟩
          · rw [only]
            exact List.pairwise_singleton ..
          · rw [same]
            exact FieldSchemas.pairwise_flaws _ (keysApart_nodeSchemas kind) fields
  | edges =>
      exact Schema.pairwise_flaws _ keysApart_edgeSchema item

end Document
end WorkflowWalk
