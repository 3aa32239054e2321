import WorkflowWalk.Proofs.Document.Spelling
import WorkflowWalk.Proofs.Document.Writable

/-!
# Normal form

What the canonical form of a document is, said of the document as it stands: the kind of a node
stands under no other key and is plain, an edge has an id, and its tag stands under no other key.
Every document is brought into it. There are notes exactly if the document was not in it before, and
what is no part of it is left as it was.
-/

namespace WorkflowWalk

open Fields

/-!
## Equal values
-/

/-- An equality of values that tells texts apart, and what is given from what is not, and that looks
into lists and objects. It may pass over the order of keys and over the form of numbers. -/
structure Json.Equality (same : Json → Json → Prop) : Prop where
  refl : ∀ fields, same (.obj fields) (.obj fields)
  symm : ∀ {one other}, same one other → same other one
  truth : ∀ {one other}, same one other → one.isTruthy = other.isTruthy
  text : ∀ {text other}, same (.str text) other → other = .str text
  items : ∀ {items other}, same (.arr items) other →
    ∃ others, other = .arr others ∧ List.Forall₂ same items others
  fields : ∀ {fields : Fields} {other}, same (.obj fields) other →
    ∃ others : Fields, other = .obj others ∧
      ∀ key, Option.Rel same (fields.get? key) (others.get? key)

namespace Json

theorem equality_eq : Equality Eq where
  refl _ := rfl
  symm := Eq.symm
  truth := congrArg isTruthy
  text := Eq.symm
  items := by
    intro items other same
    exact ⟨items, same.symm, List.forall₂_same.mpr fun _ _ => rfl⟩
  fields := by
    intro fields other same
    refine ⟨fields, same.symm, ?_⟩
    intro key
    cases fields.get? key with
    | none =>
        exact .none
    | some value =>
        exact .some rfl

namespace Equality

variable {same : Json → Json → Prop} {found other : Option Json}

theorem absent_iff
    (both : Option.Rel same found other) :
    found = none ↔ other = none := by
  cases both with
  | none =>
      exact Iff.rfl
  | some _ =>
      exact iff_of_false (Option.some_ne_none _) (Option.some_ne_none _)

theorem text_there
    (equality : Equality same) (both : Option.Rel same found other) {text : String}
    (here : found = some (.str text)) :
    other = some (.str text) := by
  cases both with
  | none =>
      cases here
  | some alike =>
      cases here
      rw [equality.text alike]

theorem items_there
    (equality : Equality same) (both : Option.Rel same found other) {items : List Json}
    (here : found = some (.arr items)) :
    ∃ others, other = some (.arr others) ∧ List.Forall₂ same items others := by
  cases both with
  | none =>
      cases here
  | some alike =>
      cases here
      rcases equality.items alike with ⟨others, rfl, each⟩
      exact ⟨others, rfl, each⟩

theorem truth_there
    (equality : Equality same) (both : Option.Rel same found other) :
    (found.getD .null).isTruthy = (other.getD .null).isTruthy := by
  cases both with
  | none =>
      rfl
  | some alike =>
      exact equality.truth alike

end Equality
end Json

namespace Canonical

/-!
## Nodes
-/

/-- A node has its kind under no other key, and a kind that is a text is plain. -/
structure NodeNormal (fields : Fields) : Prop where
  named : fields.get? "kind" = none → fields.get? "type" = none
  plain : ∀ kind, fields.get? "kind" = some (.str kind) → plainKind kind = kind

theorem nameKind_of_named
    {fields : Fields} (named : fields.get? "kind" = none → fields.get? "type" = none) :
    nameKind fields = (fields, []) := by
  unfold nameKind
  split
  · rename_i unnamed known
    rw [named unnamed] at known
    cases known
  · rfl

theorem named_of_quiet
    {fields : Fields} (quiet : (nameKind fields).2 = []) (unnamed : fields.get? "kind" = none) :
    fields.get? "type" = none := by
  cases known : fields.get? "type" with
  | none =>
      rfl
  | some kind =>
      rw [nameKind, unnamed, known] at quiet
      cases quiet

theorem plainifyKind_of_settled
    {fields : Fields}
    (plain : ∀ kind, fields.get? "kind" = some (.str kind) → plainKind kind = kind) :
    plainifyKind fields = (fields, []) := by
  unfold plainifyKind
  split
  · rename_i kind named
    rw [if_pos (plain kind named)]
  · rfl

theorem plain_of_quiet
    {fields : Fields} (quiet : (plainifyKind fields).2 = []) {kind : String}
    (named : fields.get? "kind" = some (.str kind)) :
    plainKind kind = kind := by
  by_contra bent
  unfold plainifyKind at quiet
  rw [named] at quiet
  simp only [if_neg bent] at quiet
  cases quiet

theorem node_of_normal
    {fields : Fields} (normal : NodeNormal fields) :
    node fields = (fields, []) := by
  rw [node, nameKind_of_named normal.named]
  simp only [plainifyKind_of_settled normal.plain, List.append_nil]

theorem nodeNormal_of_quiet
    {fields : Fields} (quiet : (node fields).2 = []) :
    NodeNormal fields := by
  have parts : (nameKind fields).2 ++ (plainifyKind (nameKind fields).1).2 = [] := quiet
  rcases List.append_eq_nil_iff.mp parts with ⟨named, plain⟩
  have settled : nameKind fields = (fields, []) := nameKind_of_named (named_of_quiet named)
  rw [settled] at plain
  exact ⟨named_of_quiet named, fun _ => plain_of_quiet plain⟩

theorem NodeNormal.of_same
    {same : Json → Json → Prop} (equality : Json.Equality same) {fields others : Fields}
    (each : ∀ key, Option.Rel same (fields.get? key) (others.get? key))
    (normal : NodeNormal others) :
    NodeNormal fields where
  named := by
    intro unnamed
    have free := (Json.Equality.absent_iff (each "kind")).mp unnamed
    exact (Json.Equality.absent_iff (each "type")).mpr (normal.named free)
  plain := by
    intro kind named
    exact normal.plain kind (equality.text_there (each "kind") named)

/-!
## Edges
-/

structure EdgeNormal (fields : Fields) : Prop where
  given : (Json.field fields "id").isTruthy = true
  tagged : fields.get? "branchTag" = none → ∀ name ∈ tagAliases, fields.get? name = none

theorem exists_givenId?_iff
    {fields : Fields} :
    (∃ id, givenId? fields = some id) ↔ (Json.field fields "id").isTruthy = true := by
  unfold givenId?
  by_cases given : (Json.field fields "id").isTruthy = true
  · simp [given]
  · simp [given]

theorem given_of_quiet
    {taken : List String} {fields : Fields} (quiet : (nameEdge taken fields).2 = []) :
    ∃ id, givenId? fields = some id := by
  cases given : givenId? fields with
  | some id =>
      exact ⟨id, rfl⟩
  | none =>
      rw [nameEdge, given] at quiet
      cases quiet

theorem find?_has_eq_none_iff
    {names : List String} {fields : Fields} :
    names.find? fields.has = none ↔ ∀ name ∈ names, fields.get? name = none := by
  simp [has]

theorem nameTag_of_tagged
    {fields : Fields}
    (tagged : fields.get? "branchTag" = none → ∀ name ∈ tagAliases, fields.get? name = none) :
    nameTag fields = (fields, []) := by
  cases own : fields.get? "branchTag" with
  | some tag =>
      exact nameTag_of_tag own
  | none =>
      rw [nameTag, own, find?_has_eq_none_iff.mpr (tagged own)]

theorem tagged_of_quiet
    {fields : Fields} (quiet : (nameTag fields).2 = [])
    (untagged : fields.get? "branchTag" = none) :
    ∀ name ∈ tagAliases, fields.get? name = none := by
  cases found : tagAliases.find? fields.has with
  | none =>
      exact find?_has_eq_none_iff.mp found
  | some key =>
      rw [nameTag, untagged, found] at quiet
      cases quiet

theorem edge_of_normal
    {fields : Fields} (normal : EdgeNormal fields) (taken : List String) :
    edge taken fields = (fields, []) := by
  rcases exists_givenId?_iff.mpr normal.given with ⟨id, given⟩
  rw [edge, nameEdge_of_given given]
  simp only [nameTag_of_tagged normal.tagged, List.append_nil]

theorem edgeNormal_of_quiet
    {taken : List String} {fields : Fields} (quiet : (edge taken fields).2 = []) :
    EdgeNormal fields := by
  have parts : (nameEdge taken fields).2 ++ (nameTag (nameEdge taken fields).1).2 = [] := quiet
  rcases List.append_eq_nil_iff.mp parts with ⟨given, tagged⟩
  rcases given_of_quiet given with ⟨id, known⟩
  rw [nameEdge_of_given known] at tagged
  exact ⟨exists_givenId?_iff.mp ⟨id, known⟩, tagged_of_quiet tagged⟩

theorem EdgeNormal.of_same
    {same : Json → Json → Prop} (equality : Json.Equality same) {fields others : Fields}
    (each : ∀ key, Option.Rel same (fields.get? key) (others.get? key))
    (normal : EdgeNormal others) :
    EdgeNormal fields where
  given := (equality.truth_there (each "id")).trans normal.given
  tagged := by
    intro untagged
    have free := (Json.Equality.absent_iff (each "branchTag")).mp untagged
    intro name among
    exact (Json.Equality.absent_iff (each name)).mpr (normal.tagged free name among)

/-!
## Lists
-/

def EachObject (property : Fields → Prop) (items : List Json) : Prop :=
  ∀ fields, .obj fields ∈ items → property fields

theorem eachObject_cons
    {property : Fields → Prop} {item : Json} {rest : List Json} :
    EachObject property (item :: rest) ↔
      (∀ fields, item = .obj fields → property fields) ∧ EachObject property rest := by
  simp only [EachObject, List.mem_cons, or_imp, forall_and, eq_comm]

theorem EachObject.of_same
    {same : Json → Json → Prop} (equality : Json.Equality same) {property : Fields → Prop}
    (keeps : ∀ {fields others : Fields},
      (∀ key, Option.Rel same (fields.get? key) (others.get? key)) →
        property others → property fields)
    {items others : List Json} (each : List.Forall₂ same items others)
    (holds : EachObject property others) :
    EachObject property items := by
  induction each with
  | nil =>
      exact holds
  | cons alike _ ih =>
      rcases eachObject_cons.mp holds with ⟨here, later⟩
      refine eachObject_cons.mpr ⟨?_, ih later⟩
      intro fields same
      subst same
      rcases equality.fields alike with ⟨others, same, each⟩
      exact keeps each (here others same)

theorem nodeItem_of_normal
    {item : Json} (normal : ∀ fields, item = .obj fields → NodeNormal fields) :
    nodeItem item = (item, []) := by
  cases item with
  | obj fields =>
      rw [nodeItem, node_of_normal (normal fields rfl)]
  | null | bool | int | float | str | arr =>
      rfl

theorem nodeItems_of_normal
    {items : List Json} (normal : EachObject NodeNormal items) :
    nodeItems items = (items, []) := by
  induction items with
  | nil =>
      rfl
  | cons item rest ih =>
      rcases eachObject_cons.mp normal with ⟨here, later⟩
      have settled := Prod.mk.inj (ih later)
      rw [nodeItems, List.map_cons, List.flatMap_cons, nodeItem_of_normal here, settled.1,
        settled.2]
      rfl

theorem nodeNormal_of_quiet_items
    {items : List Json} (quiet : (nodeItems items).2 = []) :
    EachObject NodeNormal items := by
  intro fields member
  exact nodeNormal_of_quiet (List.flatMap_eq_nil_iff.mp quiet _ member)

theorem edgeItems_of_normal
    {items : List Json} (normal : EachObject EdgeNormal items) (taken : List String) :
    edgeItems taken items = (items, []) := by
  induction items generalizing taken with
  | nil =>
      rfl
  | cons item rest ih =>
      rcases eachObject_cons.mp normal with ⟨here, later⟩
      cases item with
      | obj fields =>
          simp only [edgeItems, edge_of_normal (here fields rfl), ih later, List.append_nil]
      | null | bool | int | float | str | arr =>
          simp only [edgeItems, ih later]

theorem edgeNormal_of_quiet_items
    {items : List Json} {taken : List String} (quiet : (edgeItems taken items).2 = []) :
    EachObject EdgeNormal items := by
  induction items generalizing taken with
  | nil =>
      intro fields member
      cases member
  | cons item rest ih =>
      cases item with
      | obj fields =>
          rcases List.append_eq_nil_iff.mp quiet with ⟨here, later⟩
          refine eachObject_cons.mpr ⟨?_, ih later⟩
          intro others same
          cases same
          exact edgeNormal_of_quiet here
      | null | bool | int | float | str | arr =>
          refine eachObject_cons.mpr ⟨?_, ih quiet⟩
          intro others same
          cases same

/-!
## Documents
-/

structure NormalForm (payload : Fields) : Prop where
  nodes : ∀ items, payload.get? "nodes" = some (.arr items) → EachObject NodeNormal items
  edges : ∀ items, payload.get? "edges" = some (.arr items) → EachObject EdgeNormal items

theorem quiet_of_overList
    {change : List Json → List Json × List Note} {key : String} {fields : Fields}
    (quiet : (overList key change fields).2 = []) {items : List Json}
    (found : fields.get? key = some (.arr items)) :
    (change items).2 = [] := by
  rw [overList, found] at quiet
  exact quiet

theorem normalize_of_normalForm
    {payload : Fields} (normal : NormalForm payload) :
    normalize payload = (payload, []) := by
  have nodes : overList "nodes" nodeItems payload = (payload, []) :=
    overList_of_settled fun items found => nodeItems_of_normal (normal.nodes items found)
  have edges : overList "edges" (fun items => edgeItems (givenIds items) items) payload =
      (payload, []) :=
    overList_of_settled fun items found => edgeItems_of_normal (normal.edges items found) _
  rw [normalize, nodes]
  simp only [edges, List.append_nil]

theorem normalForm_of_quiet
    {payload : Fields} (quiet : (normalize payload).2 = []) :
    NormalForm payload := by
  have parts : (overList "nodes" nodeItems payload).2 ++
      (overList "edges" (fun items => edgeItems (givenIds items) items)
        (overList "nodes" nodeItems payload).1).2 = [] := quiet
  rcases List.append_eq_nil_iff.mp parts with ⟨nodes, edges⟩
  constructor
  · intro items found
    exact nodeNormal_of_quiet_items (quiet_of_overList nodes found)
  · intro items found
    have kept := get?_overList_of_ne nodeItems (by decide : "edges" ≠ "nodes") payload
    exact edgeNormal_of_quiet_items (quiet_of_overList edges (kept.trans found))

theorem normalForm_normalize (payload : Fields) :
    NormalForm (normalize payload).1 := by
  apply normalForm_of_quiet
  rw [normalize_normalize]

theorem NormalForm.of_same
    {same : Json → Json → Prop} (equality : Json.Equality same) {payload others : Fields}
    (alike : same (.obj payload) (.obj others)) (normal : NormalForm others) :
    NormalForm payload := by
  rcases equality.fields alike with ⟨fields, there, each⟩
  cases there
  constructor
  · intro items found
    rcases equality.items_there (each "nodes") found with ⟨_, there, pairs⟩
    exact .of_same equality (NodeNormal.of_same equality) pairs (normal.nodes _ there)
  · intro items found
    rcases equality.items_there (each "edges") found with ⟨_, there, pairs⟩
    exact .of_same equality (EdgeNormal.of_same equality) pairs (normal.edges _ there)

theorem notes_eq_nil_iff
    {payload : Fields} :
    (normalize payload).2 = [] ↔ NormalForm payload := by
  constructor
  · exact normalForm_of_quiet
  · intro normal
    rw [normalize_of_normalForm normal]

/-- There are no notes exactly if a document is equal to its canonical form, by any equality. -/
theorem notes_eq_nil_iff_same
    {same : Json → Json → Prop} (equality : Json.Equality same) (payload : Fields) :
    (normalize payload).2 = [] ↔ same (.obj (normalize payload).1) (.obj payload) := by
  rw [notes_eq_nil_iff]
  constructor
  · intro normal
    rw [normalize_of_normalForm normal]
    exact equality.refl payload
  · intro alike
    exact .of_same equality (equality.symm alike) (normalForm_normalize payload)

/-!
## What is kept of nodes
-/

def plainValue : Json → Json
  | .str kind => .str (plainKind kind)
  | other => other

/-- What is kept when a node is brought into normal form: all that is no kind, and a kind that it
has, up to its plain form. Otherwise it is called by its type, which is then no longer there. -/
structure NodeKept (before after : Fields) : Prop where
  others : ∀ key, key ∉ ["kind", "type"] → after.get? key = before.get? key
  named : ∀ kind, before.get? "kind" = some kind →
    after.get? "kind" = some (plainValue kind) ∧ after.get? "type" = before.get? "type"
  unnamed : before.get? "kind" = none →
    after.get? "kind" = (before.get? "type").map plainValue ∧ after.get? "type" = none

theorem get?_kind_plainifyKind (fields : Fields) :
    (plainifyKind fields).1.get? "kind" = (fields.get? "kind").map plainValue := by
  unfold plainifyKind
  split
  · rename_i kind named
    rw [named, Option.map_some, plainValue]
    split
    · rename_i plain
      rw [named, plain]
    · exact get?_put_self ..
  · rename_i other
    cases named : fields.get? "kind" with
    | none =>
        rfl
    | some kind =>
        cases kind with
        | str kind =>
            exact absurd named (other kind)
        | null | bool | int | float | arr | obj =>
            rfl

theorem get?_plainifyKind_of_ne
    (fields : Fields) {key : String} (apart : key ≠ "kind") :
    (plainifyKind fields).1.get? key = fields.get? key := by
  rcases plainifyKind_cases fields with same | ⟨kind, _, changed⟩
  · rw [same]
  · rw [changed, get?_put_of_ne _ _ apart]

theorem nodeKept_node (fields : Fields) :
    NodeKept fields (node fields).1 := by
  have kind : (node fields).1.get? "kind" = ((nameKind fields).1.get? "kind").map plainValue :=
    get?_kind_plainifyKind (nameKind fields).1
  have type : (node fields).1.get? "type" = (nameKind fields).1.get? "type" :=
    get?_plainifyKind_of_ne (nameKind fields).1 (by decide)
  refine ⟨fun key apart => get?_node fields apart, ?_, ?_⟩
  · intro own named
    rw [kind, type, nameKind_of_kind named, named]
    exact ⟨rfl, rfl⟩
  · intro unnamed
    cases known : fields.get? "type" with
    | none =>
        rw [kind, type, nameKind_of_named fun _ => known, unnamed]
        exact ⟨rfl, known⟩
    | some own =>
        have renamed := renamed_put known unnamed
        have moved : (nameKind fields).1 = (fields.erase "type").put "kind" own := by
          rw [nameKind, unnamed, known]
        rw [kind, type, moved, renamed.1, known]
        exact ⟨rfl, renamed.get?_key (by decide)⟩

/-!
## What is kept of edges
-/

/-- What is kept when an edge is brought into normal form: all that is neither an id nor a tag, an
id that it has, and a tag that it has along with what is under the other keys for tags. Otherwise
the first of these gives the tag. -/
structure EdgeKept (before after : Fields) : Prop where
  others : ∀ key, key ∉ "id" :: "branchTag" :: tagAliases → after.get? key = before.get? key
  given : (Json.field before "id").isTruthy = true → after.get? "id" = before.get? "id"
  tagged : ∀ tag, before.get? "branchTag" = some tag →
    ∀ key ∈ "branchTag" :: tagAliases, after.get? key = before.get? key
  untagged : before.get? "branchTag" = none →
    after.get? "branchTag" = tagAliases.findSome? before.get?

theorem get?_branchTag_nameTag
    {fields : Fields} (untagged : fields.get? "branchTag" = none) :
    (nameTag fields).1.get? "branchTag" = tagAliases.findSome? fields.get? := by
  cases found : tagAliases.find? fields.has with
  | none =>
      rw [nameTag, untagged, found, untagged, eq_comm, List.findSome?_eq_none_iff]
      exact find?_has_eq_none_iff.mp found
  | some key =>
      rw [nameTag, untagged, found]
      simp only
      rw [get?_put_self, eq_comm, List.findSome?_eq_some_iff]
      rcases List.find?_eq_some_iff_append.mp found with ⟨present, earlier, later, split, absent⟩
      refine ⟨earlier, key, later, split, ?_, ?_⟩
      · rcases Option.isSome_iff_exists.mp present with ⟨tag, there⟩
        rw [there, Json.field, there]
        rfl
      · intro name before
        simpa [has] using absent name before

theorem edgeKept_edge (taken : List String) (fields : Fields) :
    EdgeKept fields (edge taken fields).1 := by
  have named (key : String) (among : key ∈ "branchTag" :: tagAliases) :
      (nameEdge taken fields).1.get? key = fields.get? key :=
    Document.get?_nameEdge_of_ne taken fields (by
      intro same
      subst same
      exact absurd among (by decide))
  refine ⟨?_, ?_, ?_, ?_⟩
  · intro key apart
    exact Document.get?_edge_of_not_mem taken fields (List.not_mem_of_not_mem_cons apart)
      (List.ne_of_not_mem_cons apart)
  · intro given
    rcases exists_givenId?_iff.mpr given with ⟨id, known⟩
    show (nameTag (nameEdge taken fields).1).1.get? "id" = _
    rw [Document.get?_nameTag_of_not_mem _ (by decide), nameEdge_of_given known]
  · intro tag tagged key among
    show (nameTag (nameEdge taken fields).1).1.get? key = _
    rw [nameTag_of_tag ((named "branchTag" List.mem_cons_self).trans tagged), named key among]
  · intro untagged
    show (nameTag (nameEdge taken fields).1).1.get? "branchTag" = _
    rw [get?_branchTag_nameTag ((named "branchTag" List.mem_cons_self).trans untagged),
      ← List.head?_filterMap, ← List.head?_filterMap]
    exact congrArg List.head? (List.filterMap_congr fun key among =>
      named key (List.mem_cons_of_mem _ among))

/-!
## What is kept of documents
-/

def ItemKept (kept : Fields → Fields → Prop) : Json → Json → Prop
  | .obj before, after => ∃ fields, after = .obj fields ∧ kept before fields
  | item, after => after = item

def ListKept (kept : Fields → Fields → Prop) : Option Json → Option Json → Prop
  | some (.arr items), after =>
      ∃ others, after = some (.arr others) ∧ List.Forall₂ (ItemKept kept) items others
  | found, after => after = found

/-- What is kept when a document is brought into normal form: its keys, and all but the nodes and
the edges. -/
structure Kept (before after : Fields) : Prop where
  keys : after.map Prod.fst = before.map Prod.fst
  others : ∀ key, key ∉ ["nodes", "edges"] → after.get? key = before.get? key
  nodes : ListKept NodeKept (before.get? "nodes") (after.get? "nodes")
  edges : ListKept EdgeKept (before.get? "edges") (after.get? "edges")

theorem itemKept_nodeItem (item : Json) :
    ItemKept NodeKept item (nodeItem item).1 := by
  cases item with
  | obj fields =>
      exact ⟨_, rfl, nodeKept_node fields⟩
  | null | bool | int | float | str | arr =>
      rfl

theorem forall₂_nodeItems (items : List Json) :
    List.Forall₂ (ItemKept NodeKept) items (nodeItems items).1 := by
  rw [nodeItems, List.forall₂_map_right_iff, List.forall₂_same]
  intro item _
  exact itemKept_nodeItem item

theorem forall₂_edgeItems (taken : List String) (items : List Json) :
    List.Forall₂ (ItemKept EdgeKept) items (edgeItems taken items).1 := by
  induction items generalizing taken with
  | nil =>
      exact .nil
  | cons item rest ih =>
      cases item with
      | obj fields =>
          exact .cons ⟨_, rfl, edgeKept_edge taken fields⟩ (ih _)
      | null | bool | int | float | str | arr =>
          exact .cons rfl (ih _)

theorem listKept_changed
    {kept : Fields → Fields → Prop} {change : List Json → List Json × List Note}
    (each : ∀ items, List.Forall₂ (ItemKept kept) items (change items).1) (found : Option Json) :
    ListKept kept found (changed change found) := by
  unfold changed
  split
  · rename_i items
    exact ⟨_, rfl, each items⟩
  · rename_i other
    unfold ListKept
    split
    · rename_i items
      exact absurd rfl (other items)
    · rfl

theorem keys_put
    {fields : Fields} {key : String} {old : Json} (found : fields.get? key = some old)
    (value : Json) :
    (fields.put key value).map Prod.fst = fields.map Prod.fst := by
  induction fields with
  | nil =>
      cases found
  | cons field rest ih =>
      rcases field with ⟨name, first⟩
      rw [get?_cons] at found
      unfold put
      by_cases same : name = key
      · rw [if_pos same]
        rfl
      · rw [if_neg same] at found
        rw [if_neg same, List.map_cons, ih found, List.map_cons]

theorem keys_overList
    (change : List Json → List Json × List Note) (key : String) (fields : Fields) :
    (overList key change fields).1.map Prod.fst = fields.map Prod.fst := by
  unfold overList
  split
  · rename_i items found
    exact keys_put found _
  · rfl

theorem kept_normalize (payload : Fields) :
    Kept payload (normalize payload).1 := by
  constructor
  · exact (keys_overList _ "edges" _).trans (keys_overList nodeItems "nodes" payload)
  · intro key apart
    have edges := List.ne_of_not_mem_cons (List.not_mem_of_not_mem_cons apart)
    exact (get?_overList_of_ne _ edges _).trans
      (get?_overList_of_ne nodeItems (List.ne_of_not_mem_cons apart) payload)
  · rw [get?_nodes_normalize]
    exact listKept_changed forall₂_nodeItems _
  · rw [get?_edges_normalize]
    exact listKept_changed (fun items => forall₂_edgeItems (givenIds items) items) _

/-!
## Bringing documents into normal form
-/

theorem normalize?_of_writable
    {payload : Fields} (written : (Json.obj payload).writable = true) :
    normalize? payload = .ok (normalize payload) := by
  rw [normalize?, if_pos (writable_of_writableFields written)]

/-- A document is brought into normal form at once. There are no notes exactly if it was in normal
form before, or if nothing is changed, whatever equality it is looked at by. -/
theorem normalize?_normalForm
    {payload : Fields} (written : (Json.obj payload).writable = true) :
    ∃ canonical notes,
      normalize? payload = .ok (canonical, notes) ∧
      normalize? canonical = .ok (canonical, []) ∧
      NormalForm canonical ∧
      (notes = [] ↔ NormalForm payload) ∧
      (notes = [] ↔ canonical = payload) ∧
      (∀ same, Json.Equality same → (notes = [] ↔ same (.obj canonical) (.obj payload))) ∧
      Kept payload canonical := by
  have again : (Json.obj (normalize payload).1).writable = true := writableFields_normalize written
  refine ⟨(normalize payload).1, (normalize payload).2, normalize?_of_writable written, ?_,
    normalForm_normalize payload, notes_eq_nil_iff, ?_,
    fun same equality => notes_eq_nil_iff_same equality payload, kept_normalize payload⟩
  · rw [normalize?_of_writable again, normalize_normalize]
  · rw [notes_eq_nil_iff_same Json.equality_eq payload, Json.obj.injEq]

/-- A draft with an item that is no node, a node that is called by its type, and an edge that has no
id and whose tag has another name. -/
def draft : Fields :=
  [("nodes", .arr [.null, .obj [("id", .str "review"), ("type", .str " Level ")]]),
    ("edges", .arr [
      .obj [("source", .str "review"), ("target", .str "payout"), ("branch_tag", .bool true)]])]

theorem normalize?_normalForm_draft :
    (Json.obj draft).writable = true ∧ ¬NormalForm draft ∧
      ∃ canonical notes,
        normalize? draft = .ok (canonical, notes) ∧
        normalize? canonical = .ok (canonical, []) ∧
        NormalForm canonical ∧ notes ≠ [] ∧
        Json.obj canonical ≠ Json.obj draft ∧
        Kept draft canonical := by
  have rough : ¬NormalForm draft := by
    intro normal
    have node := normal.nodes _ rfl _ (List.mem_cons_of_mem _ List.mem_cons_self)
    cases node.named rfl
  rcases normalize?_normalForm (rfl : (Json.obj draft).writable = true) with
    ⟨canonical, notes, reached, again, normal, quiet, _, equal, kept⟩
  have noted : notes ≠ [] := fun none => rough (quiet.mp none)
  have differs : Json.obj canonical ≠ Json.obj draft :=
    fun same => noted ((equal Eq Json.equality_eq).mpr same)
  exact ⟨rfl, rough, canonical, notes, reached, again, normal, noted, differs, kept⟩

end Canonical
end WorkflowWalk
