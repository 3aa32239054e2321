import WorkflowWalk.Proofs.Document.Canonical
import WorkflowWalk.Proofs.Document.Reading

/-!
# Spellings of documents

Editors spell one document in several ways: the kind of a node stands under another key, in other
letters or between blanks, the tag of an edge is called a handle, and the name and the type of a
level are written with underscores. What is read is the same. The kinds and the tags come to one
form before anything is read; the names of levels are read from either key.
-/

namespace WorkflowWalk

/-!
## Renamed fields
-/

namespace Fields

/-- The field under a key stands under a name instead, and all other fields are the same in the same
order. -/
def Renamed (key name : String) (fields others : Fields) : Prop :=
  others.get? name = fields.get? key ∧ others.erase name = fields.erase key

theorem get?_erase_self (fields : Fields) (key : String) :
    (fields.erase key).get? key = none := by
  rw [get?_eq_none_iff]
  intro field member
  have kept := (List.mem_filter.mp member).2
  simpa using kept

theorem renamed_refl (key : String) (fields : Fields) :
    Renamed key key fields fields :=
  ⟨rfl, rfl⟩

theorem erase_put_of_get?_eq_none
    {fields : Fields} {name : String} (free : fields.get? name = none) (value : Json) :
    (fields.put name value).erase name = fields := by
  induction fields with
  | nil =>
      simp [put, erase]
  | cons field rest ih =>
      rcases field with ⟨first, old⟩
      rw [get?_cons] at free
      by_cases same : first = name
      · rw [if_pos same] at free
        cases free
      · rw [if_neg same] at free
        have later := ih free
        unfold erase at later ⊢
        rw [put, if_neg same, List.filter_cons_of_pos (by simpa using same), later]

theorem renamed_put
    {fields : Fields} {key name : String} {value : Json} (found : fields.get? key = some value)
    (free : fields.get? name = none) :
    Renamed key name fields ((fields.erase key).put name value) := by
  have differs : name ≠ key := by
    intro same
    rw [same, found] at free
    cases free
  have vacant : (fields.erase key).get? name = none :=
    (get?_erase_of_ne fields differs).trans free
  exact ⟨(get?_put_self ..).trans found.symm, erase_put_of_get?_eq_none vacant value⟩

namespace Renamed

variable {key name other : String} {fields others : Fields}

theorem get?_of_ne
    (renamed : Renamed key name fields others) (apart : other ≠ key) (also : other ≠ name) :
    others.get? other = fields.get? other := by
  rw [← get?_erase_of_ne others also, renamed.2, get?_erase_of_ne fields apart]

theorem get?_of_not_mem
    {names : List String} (renamed : Renamed key name fields others) (own : key ∈ names)
    (named : name ∈ names) (apart : other ∉ names) :
    others.get? other = fields.get? other := by
  apply renamed.get?_of_ne
  · intro same
    exact apart (same ▸ own)
  · intro same
    exact apart (same ▸ named)

theorem get?_key
    (renamed : Renamed key name fields others) (differs : key ≠ name) :
    others.get? key = none := by
  rw [← get?_erase_of_ne others differs, renamed.2, get?_erase_self]

theorem filter_eq
    (renamed : Renamed key name fields others) {p : String × Json → Bool}
    (dropsKey : ∀ value, p (key, value) = false) (dropsName : ∀ value, p (name, value) = false) :
    others.filter p = fields.filter p := by
  have drops (dropped : String) (all : ∀ value, p (dropped, value) = false) (any : Fields) :
      (any.erase dropped).filter p = any.filter p := by
    unfold erase
    rw [List.filter_filter]
    apply List.filter_congr
    intro field _
    by_cases same : field.1 = dropped
    · have out : p field = false := by
        rw [← all field.2, ← same]
      simp [out]
    · simp [same]
  rw [← drops name dropsName others, renamed.2, drops key dropsKey fields]

end Renamed

end Fields

open Fields

/-!
## Data of levels
-/

namespace Document

open Reading

def LevelSpelling (data others : Fields) : Prop :=
  ∃ name ∈ ["levelName", "level_name"], ∃ type ∈ ["levelType", "level_type"], ∃ middle,
    Renamed "levelName" name data middle ∧ Renamed "levelType" type middle others

theorem get?_presentKey
    {key other name : String} {fields others : Fields} (free : fields.get? other = none)
    (differs : key ≠ other) (named : name ∈ [key, other])
    (renamed : Renamed key name fields others) :
    others.get? (presentKey others key other) = fields.get? key := by
  rcases List.mem_pair.mp named with rfl | rfl
  · have absent : others.get? other = none := by
      rw [renamed.get?_of_ne differs.symm differs.symm, free]
    have first : presentKey others name other = name := by
      simp [presentKey, has, absent]
    rw [first, renamed.1]
  · have absent : others.get? key = none := renamed.get?_key differs
    cases found : fields.get? key with
    | none =>
        have also : others.get? name = none := renamed.1.trans found
        have first : presentKey others key name = key := by
          simp [presentKey, has, also]
        rw [first, absent]
    | some value =>
        have present : others.get? name = some value := renamed.1.trans found
        have second : presentKey others key name = name := by
          simp [presentKey, has, absent, present]
        rw [second, present]

theorem presentKey_congr
    {fields others : Fields} {key other : String} (one : others.get? key = fields.get? key)
    (two : others.get? other = fields.get? other) :
    presentKey others key other = presentKey fields key other := by
  rw [presentKey, presentKey, has, has, has, has, one, two]

theorem absent_of_renamed
    {key other name : String} {fields others : Fields} (free : fields.get? other = none)
    (differs : key ≠ other) (named : name ∈ [key, other])
    (renamed : Renamed key name fields others) :
    others.get? key = none ∨ others.get? other = none := by
  rcases List.mem_pair.mp named with rfl | rfl
  · exact Or.inr ((renamed.get?_of_ne differs.symm differs.symm).trans free)
  · exact Or.inl (renamed.get?_key differs)

theorem optional_eq_ok_congr
    {α : Type} {default : α} {key other : String} {read : Json → Reading α} {fields others : Fields}
    {value : α} (same : others.get? other = fields.get? key)
    (given : optional default key read fields = .ok value) :
    optional default other read others = .ok value := by
  rw [optional_eq_ok] at given ⊢
  rw [same]
  exact given

def allLevelKeys : List String :=
  ["label", "levelName", "level_name", "levelType", "level_type", "steps"]

theorem presentKey_of_either
    {fields : Fields} {key other : String} {field : String × Json} (member : field ∈ fields)
    (absent : fields.get? key = none ∨ fields.get? other = none)
    (either : field.1 = key ∨ field.1 = other) :
    presentKey fields key other = field.1 := by
  have present : fields.get? field.1 ≠ none := fun none =>
    get?_eq_none_iff.mp none field member rfl
  rcases either with same | same
  · rw [same] at present
    have free : fields.get? other = none := absent.resolve_left present
    rw [same]
    simp [presentKey, has, free]
  · rw [same] at present
    have free : fields.get? key = none := absent.resolve_right present
    have found : (fields.get? other).isSome = true := Option.isSome_iff_ne_none.mpr present
    rw [same]
    simp [presentKey, has, free, found]

theorem extras_levelKeys
    {fields : Fields}
    (name : fields.get? "levelName" = none ∨ fields.get? "level_name" = none)
    (type : fields.get? "levelType" = none ∨ fields.get? "level_type" = none) :
    extras (levelKeys fields) fields = extras allLevelKeys fields := by
  unfold extras
  apply List.filter_congr
  intro field member
  have first := presentKey_eq_or fields "levelName" "level_name"
  have second := presentKey_eq_or fields "levelType" "level_type"
  have named := presentKey_of_either member name
  have typed := presentKey_of_either member type
  have same : field.1 ∈ levelKeys fields ↔ field.1 ∈ allLevelKeys := by
    simp only [levelKeys, allLevelKeys, List.mem_cons, List.not_mem_nil, or_false]
    grind
  rw [Bool.eq_iff_iff]
  simp only [Bool.not_eq_true', ← Bool.not_eq_true, List.contains_iff_mem, same]

theorem presentKey_of_free
    {fields : Fields} {other : String} (free : fields.get? other = none) (key : String) :
    presentKey fields key other = key := by
  simp [presentKey, has, free]

theorem extras_of_renamed
    {keys : List String} {key name : String} {fields others : Fields}
    (renamed : Renamed key name fields others) (one : key ∈ keys) (two : name ∈ keys) :
    extras keys others = extras keys fields := by
  apply renamed.filter_eq
  · simp [one]
  · simp [two]

theorem levelKeys_known :
    ["levelName", "level_name"] ⊆ allLevelKeys ∧ ["levelType", "level_type"] ⊆ allLevelKeys := by
  decide

theorem readLevel_of_spelling
    {data others : Fields} (freeName : data.get? "level_name" = none)
    (freeType : data.get? "level_type" = none) (spelling : LevelSpelling data others)
    {label : String} {body : Body} {rest : Fields}
    (read : readLevel data = .ok (label, body, rest)) :
    readLevel others = .ok (label, body, rest) := by
  rcases spelling with ⟨name, named, type, typed, middle, first, second⟩
  have before {key : String} (apart : key ∉ ["levelName", "level_name"]) :
      middle.get? key = data.get? key :=
    first.get?_of_not_mem List.mem_cons_self named apart
  have after {key : String} (apart : key ∉ ["levelType", "level_type"]) :
      others.get? key = middle.get? key :=
    second.get?_of_not_mem List.mem_cons_self typed apart
  have noType : middle.get? "level_type" = none :=
    (before (by decide)).trans freeType
  -- The type leaves the name where it is, and the name leaves the type where it is.
  have nameFound : others.get? (presentKey others "levelName" "level_name") =
      data.get? "levelName" := by
    rw [presentKey_congr (after (by decide)) (after (by decide))]
    rw [← get?_presentKey freeName (by decide) named first]
    rcases presentKey_eq_or middle "levelName" "level_name" with key | key
    · rw [key, after (by decide)]
    · rw [key, after (by decide)]
  have typeFound : others.get? (presentKey others "levelType" "level_type") =
      data.get? "levelType" := by
    rw [get?_presentKey noType (by decide) typed second, before (by decide)]
  have onceName : others.get? "levelName" = none ∨ others.get? "level_name" = none := by
    rw [after (by decide), after (by decide)]
    exact absent_of_renamed freeName (by decide) named first
  have onceType : others.get? "levelType" = none ∨ others.get? "level_type" = none :=
    absent_of_renamed noType (by decide) typed second
  have kept : extras (levelKeys others) others = extras (levelKeys data) data := by
    rw [extras_levelKeys onceName onceType, extras_levelKeys (Or.inr freeName) (Or.inr freeType),
      extras_of_renamed second (by decide) (levelKeys_known.2 typed),
      extras_of_renamed first (by decide) (levelKeys_known.1 named)]
  rcases readLevel_eq_ok.mp read with ⟨one, two, steps, rfl, labelled, nameRead, typeRead, listed, rfl⟩
  rw [presentKey_of_free freeName] at nameRead
  rw [presentKey_of_free freeType] at typeRead
  rw [readLevel_eq_ok]
  exact ⟨one, two, steps, rfl,
    optional_eq_ok_congr ((after (by decide)).trans (before (by decide))) labelled,
    optional_eq_ok_congr nameFound nameRead, optional_eq_ok_congr typeFound typeRead,
    optional_eq_ok_congr ((after (by decide)).trans (before (by decide))) listed,
    kept.symm⟩

/-!
## Nodes
-/

/-- The data of a level are spelled in another way, those of other nodes stay as they are. -/
def DataSpelling (kind : String) (fields others : Fields) : Prop :=
  others = fields ∨
    Canonical.plainKind kind = "level" ∧ ∃ data changed : Fields, fields.get? "data" = some (.obj data) ∧
      LevelSpelling data changed ∧ others = fields.put "data" (.obj changed)

/-- The kind of a node is written in another way, it may be called its type, and the data of a level
may be spelled in another way. -/
def NodeSpelling (fields others : Fields) : Prop :=
  ∃ kind written changed, fields.get? "kind" = some (.str kind) ∧
    Canonical.plainKind written = Canonical.plainKind kind ∧ DataSpelling kind fields changed ∧
    ∃ name ∈ ["kind", "type"], Renamed "kind" name (changed.put "kind" (.str written)) others

/-- A node has no other keys than those of the canonical form for what can be spelled in several
ways. -/
structure PlainNode (fields : Fields) : Prop where
  kind : fields.get? "type" = none
  level : ∀ (kind : String) (data : Fields), fields.get? "kind" = some (.str kind) →
    Canonical.plainKind kind = "level" → fields.get? "data" = some (.obj data) →
      data.get? "level_name" = none ∧ data.get? "level_type" = none

theorem get?_kind_node
    {fields : Fields} {kind : String}
    (written : fields.get? "kind" = some (.str kind) ∨
      fields.get? "kind" = none ∧ fields.get? "type" = some (.str kind)) :
    (Canonical.node fields).1.get? "kind" = some (.str (Canonical.plainKind kind)) := by
  have named : (Canonical.nameKind fields).1.get? "kind" = some (.str kind) := by
    rcases written with here | ⟨absent, there⟩
    · rw [Canonical.nameKind_of_kind here, here]
    · unfold Canonical.nameKind
      rw [absent, there]
      exact get?_put_self ..
  show (Canonical.plainifyKind (Canonical.nameKind fields).1).1.get? "kind" = _
  unfold Canonical.plainifyKind
  rw [named]
  simp only
  split
  · rename_i plain
    rw [plain]
    exact named
  · exact get?_put_self ..

namespace DataSpelling

variable {kind : String} {fields others : Fields}

theorem get?_of_ne
    (spelling : DataSpelling kind fields others) {key : String} (apart : key ≠ "data") :
    others.get? key = fields.get? key := by
  rcases spelling with rfl | ⟨_, _, _, _, _, rfl⟩
  · rfl
  · exact get?_put_of_ne _ _ apart

theorem readData_eq_ok
    (spelling : DataSpelling kind fields others) (plain : PlainNode fields)
    (found : fields.get? "kind" = some (.str kind)) {known : Kind}
    (named : known.name = Canonical.plainKind kind) {parts : Data}
    (read : optional (emptyData known) "data" (object (dataShape known) (readData known)) fields =
      .ok parts) :
    optional (emptyData known) "data" (object (dataShape known) (readData known)) others =
      .ok parts := by
  rcases spelling with rfl | ⟨level, data, changed, held, respelt, rfl⟩
  · exact read
  · have free := plain.level kind data found level held
    have known := eq_of_name_eq (named.trans level : known.name = Kind.level.name)
    subst known
    rcases optional_eq_ok.mp read with ⟨absent, _⟩ | ⟨json, held', parts⟩
    · rw [held] at absent
      cases absent
    · rw [held] at held'
      cases held'
      rcases object_eq_ok.mp parts with ⟨_, same, read⟩
      cases same
      rw [optional_eq_ok]
      refine Or.inr ⟨.obj changed, get?_put_self .., ?_⟩
      exact object_eq_ok.mpr ⟨changed, rfl, readLevel_of_spelling free.1 free.2 respelt read⟩

end DataSpelling

theorem readNode_of_spelling
    {fields others : Fields} (plain : PlainNode fields) (spelling : NodeSpelling fields others)
    {node : Node} (read : readNode (.obj (Canonical.node fields).1) = .ok node) :
    readNode (.obj (Canonical.node others).1) = .ok node := by
  rcases spelling with ⟨kind, written, changed, found, same, data, name, named, renamed⟩
  have elsewhere {key : String} (apart : key ∉ ["kind", "type"]) :
      (Canonical.node others).1.get? key = changed.get? key := by
    rw [Canonical.get?_node others apart,
      renamed.get?_of_not_mem List.mem_cons_self named apart,
      get?_put_of_ne _ _ (List.ne_of_not_mem_cons apart)]
  have kindFound : (Canonical.node others).1.get? "kind" =
      some (.str (Canonical.plainKind kind)) := by
    have moved : others.get? name = some (.str written) :=
      renamed.1.trans (get?_put_self ..)
    rw [← same]
    apply get?_kind_node
    rcases List.mem_pair.mp named with rfl | rfl
    · exact Or.inl moved
    · exact Or.inr ⟨renamed.get?_key (by decide), moved⟩
  rcases readNode_eq_ok.mp read with ⟨own, known, written, kept, id, parts⟩
  cases written
  rw [get?_kind_node (Or.inl found)] at kept
  have label : Canonical.plainKind kind = known.name := Json.str.inj (Option.some.inj kept)
  rw [Canonical.get?_node fields (by decide)] at id
  have before := optional_eq_ok_congr
    (Canonical.get?_node fields (by decide)).symm parts
  rw [readNode_eq_ok]
  refine ⟨_, known, rfl, label ▸ kindFound, ?_, ?_⟩
  · rw [elsewhere (by decide), data.get?_of_ne (by decide)]
    exact id
  · exact optional_eq_ok_congr (elsewhere (by decide))
      (data.readData_eq_ok plain found label.symm before)

/-!
## Edges
-/

def EdgeSpelling (fields others : Fields) : Prop :=
  ∃ name ∈ "branchTag" :: Canonical.tagAliases, Renamed "branchTag" name fields others

def PlainEdge (fields : Fields) : Prop :=
  ∀ name ∈ Canonical.tagAliases, fields.get? name = none

theorem find?_has_of_alone
    {fields : Fields} {name : String} (among : name ∈ Canonical.tagAliases)
    (alone : ∀ key ∈ Canonical.tagAliases, key ≠ name → fields.get? key = none) :
    Canonical.tagAliases.find? fields.has = if fields.has name then some name else none := by
  cases first : Canonical.tagAliases.find? fields.has with
  | none =>
      have absent := List.find?_eq_none.mp first name among
      rw [if_neg absent]
  | some key =>
      have present := List.find?_some first
      have same : key = name := by
        by_contra differs
        have free := alone key (List.mem_of_find?_eq_some first) differs
        rw [has, free] at present
        cases present
      rw [← same, if_pos present]

theorem get?_tag_nameTag
    {fields : Fields} {name : String} (named : name ∈ "branchTag" :: Canonical.tagAliases)
    (alone : ∀ key ∈ "branchTag" :: Canonical.tagAliases, key ≠ name → fields.get? key = none) :
    (Canonical.nameTag fields).1.get? "branchTag" = fields.get? name := by
  have aliases : ∀ key ∈ Canonical.tagAliases, key ≠ name → fields.get? key = none :=
    fun key member => alone key (List.mem_cons_of_mem _ member)
  rcases List.mem_cons.mp named with rfl | among
  · have none : Canonical.tagAliases.find? fields.has = none := by
      rw [List.find?_eq_none]
      intro key member present
      have differs : key ≠ "branchTag" := by
        intro same
        rw [same] at member
        exact absurd member (by decide)
      rw [has, aliases key member differs] at present
      cases present
    unfold Canonical.nameTag
    rw [none]
    cases own : fields.get? "branchTag" <;> exact own
  · have differs : "branchTag" ≠ name := by
      intro same
      rw [← same] at among
      exact absurd among (by decide)
    have absent : fields.get? "branchTag" = none := alone _ List.mem_cons_self differs
    unfold Canonical.nameTag
    rw [absent, find?_has_of_alone among aliases]
    cases found : fields.get? name with
    | none =>
        rw [has, found]
        exact absent
    | some tag =>
        rw [has, found]
        simp only [Option.isSome_some, if_true]
        rw [get?_put_self, Json.field, found]
        rfl

theorem get?_nameTag_of_not_mem
    (fields : Fields) {key : String} (apart : key ∉ "branchTag" :: Canonical.tagAliases) :
    (Canonical.nameTag fields).1.get? key = fields.get? key := by
  rcases Canonical.nameTag_cases fields with same | ⟨name, among, tag, changed⟩
  · rw [same]
  · have one : key ≠ "branchTag" := fun same => apart (same ▸ List.mem_cons_self)
    have two : key ≠ name := fun same => apart (same ▸ List.mem_cons_of_mem _ among)
    rw [changed, get?_put_of_ne _ _ one, get?_erase_of_ne _ two]

theorem get?_nameEdge_of_ne
    (taken : List String) (fields : Fields) {key : String} (apart : key ≠ "id") :
    (Canonical.nameEdge taken fields).1.get? key = fields.get? key := by
  unfold Canonical.nameEdge
  split
  · rfl
  · exact get?_put_of_ne _ _ apart

theorem madeIds_append (notes more : List Canonical.Note) :
    Canonical.madeIds (notes ++ more) = Canonical.madeIds notes ++ Canonical.madeIds more :=
  List.filterMap_append

theorem madeIds_edge (taken : List String) (fields : Fields) :
    Canonical.madeIds (Canonical.edge taken fields).2 =
      Canonical.madeIds (Canonical.nameEdge taken fields).2 := by
  have tagNotes : Canonical.madeIds
      (Canonical.nameTag (Canonical.nameEdge taken fields).1).2 = [] := by
    unfold Canonical.nameTag
    split <;> rfl
  show Canonical.madeIds ((Canonical.nameEdge taken fields).2 ++
    (Canonical.nameTag (Canonical.nameEdge taken fields).1).2) = _
  rw [madeIds_append, tagNotes, List.append_nil]

namespace EdgeSpelling

variable {fields others : Fields}

theorem get?_of_not_mem
    (spelling : EdgeSpelling fields others) {key : String}
    (apart : key ∉ "branchTag" :: Canonical.tagAliases) :
    others.get? key = fields.get? key := by
  rcases spelling with ⟨name, named, renamed⟩
  exact renamed.get?_of_not_mem List.mem_cons_self named apart

theorem givenId?_eq
    (spelling : EdgeSpelling fields others) :
    Canonical.givenId? others = Canonical.givenId? fields :=
  Canonical.givenId?_congr (spelling.get?_of_not_mem (by decide))

theorem nameEdge_eq
    (spelling : EdgeSpelling fields others) (taken : List String) :
    (Canonical.nameEdge taken others).1.get? "id" =
        (Canonical.nameEdge taken fields).1.get? "id" ∧
      (Canonical.nameEdge taken others).2 = (Canonical.nameEdge taken fields).2 := by
  have base : Canonical.baseId others = Canonical.baseId fields := by
    unfold Canonical.baseId Json.field
    rw [spelling.get?_of_not_mem (by decide : "source" ∉ _),
      spelling.get?_of_not_mem (by decide : "target" ∉ _)]
  unfold Canonical.nameEdge
  rw [spelling.givenId?_eq, base]
  split
  · exact ⟨spelling.get?_of_not_mem (by decide), rfl⟩
  · exact ⟨(get?_put_self ..).trans (get?_put_self ..).symm, rfl⟩

theorem get?_tag_eq
    (spelling : EdgeSpelling fields others) (plain : PlainEdge fields) (taken : List String) :
    (Canonical.edge taken others).1.get? "branchTag" = fields.get? "branchTag" := by
  rcases spelling with ⟨name, named, renamed⟩
  have identity : ∀ key ∈ "branchTag" :: Canonical.tagAliases, key ≠ "id" := by
    decide
  show (Canonical.nameTag (Canonical.nameEdge taken others).1).1.get? "branchTag" = _
  rw [get?_tag_nameTag named, get?_nameEdge_of_ne taken others (identity name named), renamed.1]
  intro key among differs
  rw [get?_nameEdge_of_ne taken others (identity key among)]
  by_cases own : key = "branchTag"
  · subst own
    exact renamed.get?_key differs
  · rw [renamed.get?_of_ne own differs]
    exact plain key ((List.mem_cons.mp among).resolve_left own)

end EdgeSpelling

theorem edgeSpelling_refl (fields : Fields) :
    EdgeSpelling fields fields :=
  ⟨"branchTag", List.mem_cons_self, renamed_refl "branchTag" fields⟩

theorem get?_edge_of_not_mem
    (taken : List String) (fields : Fields) {key : String}
    (apart : key ∉ "branchTag" :: Canonical.tagAliases) (identity : key ≠ "id") :
    (Canonical.edge taken fields).1.get? key = fields.get? key :=
  (get?_nameTag_of_not_mem _ apart).trans (get?_nameEdge_of_ne taken fields identity)

theorem readEdge_of_spelling
    {fields others : Fields} (plain : PlainEdge fields) (spelling : EdgeSpelling fields others)
    {taken : List String} {edge : Edge}
    (read : readEdge (.obj (Canonical.edge taken fields).1) = .ok edge) :
    readEdge (.obj (Canonical.edge taken others).1) = .ok edge := by
  have ends {key : String} (apart : key ∉ "branchTag" :: Canonical.tagAliases)
      (identity : key ≠ "id") :
      (Canonical.edge taken others).1.get? key = (Canonical.edge taken fields).1.get? key := by
    rw [get?_edge_of_not_mem taken others apart identity,
      get?_edge_of_not_mem taken fields apart identity, spelling.get?_of_not_mem apart]
  have identity : (Canonical.edge taken others).1.get? "id" =
      (Canonical.edge taken fields).1.get? "id" := by
    show (Canonical.nameTag _).1.get? "id" = (Canonical.nameTag _).1.get? "id"
    rw [get?_nameTag_of_not_mem _ (by decide), get?_nameTag_of_not_mem _ (by decide)]
    exact (spelling.nameEdge_eq taken).1
  have tag : (Canonical.edge taken others).1.get? "branchTag" =
      (Canonical.edge taken fields).1.get? "branchTag" := by
    rw [spelling.get?_tag_eq plain, (edgeSpelling_refl fields).get?_tag_eq plain]
  rcases readEdge_eq_ok.mp read with ⟨own, written, id, source, target, tagged⟩
  cases written
  rw [readEdge_eq_ok]
  exact ⟨_, rfl, identity.trans id, (ends (by decide) (by decide)).trans source,
    (ends (by decide) (by decide)).trans target, optional_eq_ok_congr tag tagged⟩

/-!
## Lists of items
-/

inductive ItemSpelling (R : Fields → Fields → Prop) : Json → Json → Prop
  | same (item : Json) : ItemSpelling R item item
  | object {fields others : Fields} (spelling : R fields others) :
      ItemSpelling R (.obj fields) (.obj others)

inductive ListSpelling (R : Fields → Fields → Prop) : Option Json → Option Json → Prop
  | same (value : Option Json) : ListSpelling R value value
  | items {items others : List Json} (spelling : List.Forall₂ (ItemSpelling R) items others) :
      ListSpelling R (some (.arr items)) (some (.arr others))

theorem readNodes_of_spelling
    {items others : List Json} (plain : ∀ fields, .obj fields ∈ items → PlainNode fields)
    (spelling : List.Forall₂ (ItemSpelling NodeSpelling) items others) {nodes : List Node}
    (read : List.Forall₂ (fun item node => readNode item = .ok node)
      (Canonical.nodeItems items).1 nodes) :
    List.Forall₂ (fun item node => readNode item = .ok node) (Canonical.nodeItems others).1
      nodes := by
  simp only [Canonical.nodeItems, List.forall₂_map_left_iff] at read ⊢
  induction spelling generalizing nodes with
  | nil =>
      exact read
  | @cons item other items others one _ ih =>
      cases read with
      | cons here rest =>
          have later := ih (fun fields member => plain fields (List.mem_cons_of_mem _ member)) rest
          cases one with
          | same =>
              exact .cons here later
          | object spelling =>
              exact .cons (readNode_of_spelling (plain _ List.mem_cons_self) spelling here) later

theorem givenIds_of_spelling
    {items others : List Json} (spelling : List.Forall₂ (ItemSpelling EdgeSpelling) items others) :
    Canonical.givenIds others = Canonical.givenIds items := by
  unfold Canonical.givenIds
  induction spelling with
  | nil =>
      rfl
  | @cons item other items others one _ ih =>
      cases one with
      | same =>
          rw [List.filterMap_cons, List.filterMap_cons, ih]
      | object spelling =>
          simp only [List.filterMap_cons, ih, spelling.givenId?_eq]

/-- The ids that are made for edges do not depend on what tags are called, so each edge finds the
same ids taken. -/
theorem readEdges_of_spelling
    {items others : List Json} (plain : ∀ fields, .obj fields ∈ items → PlainEdge fields)
    (spelling : List.Forall₂ (ItemSpelling EdgeSpelling) items others) {taken : List String}
    {edges : List Edge}
    (read : List.Forall₂ (fun item edge => readEdge item = .ok edge)
      (Canonical.edgeItems taken items).1 edges) :
    List.Forall₂ (fun item edge => readEdge item = .ok edge) (Canonical.edgeItems taken others).1
      edges := by
  induction spelling generalizing taken edges with
  | nil =>
      exact read
  | @cons item other items others one _ ih =>
      have later {taken : List String} {edges : List Edge} :=
        @ih (fun fields member => plain fields (List.mem_cons_of_mem _ member)) taken edges
      cases one with
      | same =>
          cases item with
          | obj fields =>
              rw [Canonical.edgeItems] at read ⊢
              cases read with
              | cons here rest =>
                  exact .cons here (later rest)
          | null | bool _ | int _ | float _ | str _ | arr _ =>
              cases read with
              | cons here rest =>
                  exact .cons here (later rest)
      | @object fields changed spelling =>
          have made : Canonical.madeIds (Canonical.edge taken changed).2 =
              Canonical.madeIds (Canonical.edge taken fields).2 := by
            rw [madeIds_edge, madeIds_edge, (spelling.nameEdge_eq taken).2]
          rw [Canonical.edgeItems] at read ⊢
          cases read with
          | cons here rest =>
              refine .cons (readEdge_of_spelling (plain _ List.mem_cons_self) spelling here) ?_
              simp only [made]
              exact later rest

/-!
## Documents
-/

structure Spelling (payload others : Fields) : Prop where
  nodes : ListSpelling NodeSpelling (payload.get? "nodes") (others.get? "nodes")
  edges : ListSpelling EdgeSpelling (payload.get? "edges") (others.get? "edges")

structure Plain (payload : Fields) : Prop where
  nodes : ∀ items, payload.get? "nodes" = some (.arr items) →
    ∀ fields, .obj fields ∈ items → PlainNode fields
  edges : ∀ items, payload.get? "edges" = some (.arr items) →
    ∀ fields, .obj fields ∈ items → PlainEdge fields

theorem readItems_of_spelling
    {α : Type} {collection : Problem.Collection} {read : Json → Reading α}
    {R : Fields → Fields → Prop} {change : List Json → List Json × List Canonical.Note}
    {before after : Fields} {one other : Option Json} {values : List α}
    (spelling : ListSpelling R one other)
    (first : before.get? collection.name = Canonical.changed change one)
    (second : after.get? collection.name = Canonical.changed change other)
    (keeps : ∀ items others, one = some (.arr items) →
      List.Forall₂ (ItemSpelling R) items others →
      List.Forall₂ (fun item value => read item = .ok value) (change items).1 values →
      List.Forall₂ (fun item value => read item = .ok value) (change others).1 values)
    (given : readItems collection read before = .ok values) :
    readItems collection read after = .ok values := by
  rw [readItems_eq_ok] at given ⊢
  cases spelling with
  | same =>
      rw [second, ← first]
      exact given
  | items spelling =>
      rw [first] at given
      rcases given with ⟨absent, _⟩ | ⟨items, same, each⟩
      · cases absent
      · cases same
        exact Or.inr ⟨_, second, keeps _ _ rfl spelling each⟩

/-!
## Ids
-/

theorem allItems_of_spelling
    {R : Fields → Fields → Prop} {p : Json → Bool} {key : String} {payload others : Fields}
    (spelling : ListSpelling R (payload.get? key) (others.get? key))
    (same : ∀ {fields changed : Fields}, R fields changed → p (.obj changed) = p (.obj fields)) :
    Canonical.allItems key p others = Canonical.allItems key p payload := by
  have each {items others : List Json} (spelling : List.Forall₂ (ItemSpelling R) items others) :
      others.all p = items.all p := by
    induction spelling with
    | nil =>
        rfl
    | cons one _ ih =>
        rw [List.all_cons, List.all_cons, ih]
        cases one with
        | same =>
            rfl
        | object spelling =>
            rw [same spelling]
  unfold Canonical.allItems
  generalize payload.get? key = one at spelling
  generalize others.get? key = other at spelling
  cases spelling with
  | same =>
      rfl
  | items spelling =>
      exact each spelling

theorem NodeSpelling.nodeWritable_eq
    {fields others : Fields} (spelling : NodeSpelling fields others) :
    Canonical.nodeWritable (.obj others) = Canonical.nodeWritable (.obj fields) := by
  rcases spelling with ⟨kind, written, changed, _, _, data, name, named, renamed⟩
  have id : others.get? "id" = fields.get? "id" := by
    rw [renamed.get?_of_not_mem List.mem_cons_self named (by decide),
      get?_put_of_ne _ _ (by decide), data.get?_of_ne (by decide)]
  rw [Canonical.nodeWritable, Canonical.nodeWritable, Json.field, Json.field, id]

theorem EdgeSpelling.edgeWritable_eq
    {fields others : Fields} (spelling : EdgeSpelling fields others) :
    Canonical.edgeWritable (.obj others) = Canonical.edgeWritable (.obj fields) := by
  have same {key : String} (apart : key ∉ "branchTag" :: Canonical.tagAliases) :
      Json.field others key = Json.field fields key := by
    rw [Json.field, Json.field, spelling.get?_of_not_mem apart]
  rw [Canonical.edgeWritable, Canonical.edgeWritable, same (by decide : "id" ∉ _),
    same (by decide : "source" ∉ _), same (by decide : "target" ∉ _)]

theorem writable_of_spelling
    {payload others : Fields} (spelling : Spelling payload others) :
    Canonical.writable others = Canonical.writable payload := by
  rw [Canonical.writable, Canonical.writable,
    allItems_of_spelling spelling.nodes NodeSpelling.nodeWritable_eq,
    allItems_of_spelling spelling.edges EdgeSpelling.edgeWritable_eq]

/-- A document in another spelling is read as the same document. -/
theorem ofFields_of_spelling
    {payload others : Fields} (plain : Plain payload) (spelling : Spelling payload others)
    {document : Document} (read : ofFields payload = .ok document) :
    ofFields others = .ok document := by
  rw [ofFields_eq_ok] at read ⊢
  rcases read with ⟨writable, nodes, edges⟩
  refine ⟨(writable_of_spelling spelling).trans writable, ?_, ?_⟩
  · apply readItems_of_spelling spelling.nodes (Canonical.get?_nodes_normalize payload)
      (Canonical.get?_nodes_normalize others) ?_ nodes
    intro items others listed respelt each
    exact readNodes_of_spelling (plain.nodes items listed) respelt each
  · apply readItems_of_spelling spelling.edges (Canonical.get?_edges_normalize payload)
      (Canonical.get?_edges_normalize others) ?_ edges
    intro items others listed respelt each
    rw [givenIds_of_spelling respelt]
    exact readEdges_of_spelling (plain.edges items listed) respelt each

end Document
end WorkflowWalk
