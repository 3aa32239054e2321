import WorkflowWalk.Proofs.Document.Accepted
import WorkflowWalk.Proofs.Document.Flaws
import WorkflowWalk.Proofs.Number.Text
import WorkflowWalk.Proofs.Text.Blank

/-!
# Places of problems

The place of a problem inside a node or an edge is written with the list, the position and the id of
the item and the path inside it. One key is lost: the condition of a branch is written like the
branch itself. No two problems of a document are written at one place all the same.
-/

namespace WorkflowWalk
namespace Document

open Problem (Cause Collection Part Place itemText)

/-!
## Parts as they are written
-/

/-- How a part is written when no key is left out. -/
def fullText : Part → String
  | .key name => name
  | .index position => toString position

theorem toList_fullText_index (position : Nat) :
    (fullText (.index position)).toList = Nat.toDigits 10 position := by
  rw [fullText, Nat.toString_eq_repr, Nat.toList_repr]

def AtCondition (path : List Part) : Prop :=
  ∃ position, path = [.key "data", .key "branches", .index position, .key "condition"]

/-- A key without digits and without the characters that delimit the parts of a place. -/
def PlainKey (key : String) : Prop :=
  ∀ c ∈ key.toList, c.isDigit = false ∧ c ∉ ['.', ':', '\'']

def PlainPart (part : Part) : Prop :=
  ∀ key, key? part = some key → PlainKey key

def itemKeys : List String :=
  ["id", "data", "label", "levelName", "level_name", "levelType", "level_type", "steps", "branches",
    "name", "condition", "actions", "type", "title", "value", "source", "target", "branchTag"]

theorem plainKey_of_mem_itemKeys :
    ∀ key ∈ itemKeys, PlainKey key := by
  simp [itemKeys, PlainKey]

theorem eq_of_kind_of_mem_itemKeys :
    ∀ key ∈ itemKeys, (Kind.named? key).isSome = true → key = "condition" := by
  simp [itemKeys, Kind.named?, Kind.all, Kind.name]

theorem mem_itemKeys_of_route :
    ∀ route ∈ itemRoutes, ∀ key, some key ∈ route → key ∈ itemKeys := by
  simp [itemRoutes, Kind.all, nodeSchemas, dataSchemas, branchSchema, actionItemSchema, edgeSchema,
    FieldSchemas.needed, FieldSchemas.given, FieldSchemas.either, FieldSchemas.routes, Schema.routes,
    itemKeys]

theorem eq_of_condition_mem_route :
    ∀ route ∈ itemRoutes, some "condition" ∈ route →
      route = [some "data", some "branches", none, some "condition"] := by
  simp [itemRoutes, Kind.all, nodeSchemas, dataSchemas, branchSchema, actionItemSchema, edgeSchema,
    FieldSchemas.needed, FieldSchemas.given, FieldSchemas.either, FieldSchemas.routes, Schema.routes]

theorem atCondition_of_map_key?
    {path : List Part}
    (leads : path.map key? = [some "data", some "branches", none, some "condition"]) :
    AtCondition path := by
  match path with
  | [.key first, .key second, .index position, .key third] =>
      simp only [List.map_cons, List.map_nil, key?, List.cons.injEq, Option.some.injEq] at leads
      rcases leads with ⟨rfl, rfl, _, rfl, _⟩
      exact ⟨position, rfl⟩

theorem text?_of_unnamed
    {part : Part} (unnamed : ∀ key, key? part = some key → (Kind.named? key).isSome = false) :
    part.text? = some (fullText part) := by
  cases part with
  | key name =>
      rw [Part.text?, unnamed name rfl]
      rfl
  | index position =>
      rfl

section Path

variable {path : List Part}

theorem mem_itemKeys
    (known : path.map key? ∈ itemRoutes) {part : Part} (member : part ∈ path) {key : String}
    (written : key? part = some key) :
    key ∈ itemKeys := by
  have among : some key ∈ path.map key? := written ▸ List.mem_map_of_mem member
  exact mem_itemKeys_of_route _ known key among

theorem plainPart_of_route
    (known : path.map key? ∈ itemRoutes) {part : Part} (member : part ∈ path) :
    PlainPart part := by
  intro key written
  exact plainKey_of_mem_itemKeys key (mem_itemKeys known member written)

theorem filterMap_text?_of_not_atCondition
    (known : path.map key? ∈ itemRoutes) (elsewhere : ¬AtCondition path) :
    path.filterMap Part.text? = path.map fullText := by
  rw [← List.filterMap_eq_map]
  apply List.filterMap_congr
  intro part member
  apply text?_of_unnamed
  intro key written
  cases named : (Kind.named? key).isSome with
  | false =>
      rfl
  | true =>
      cases eq_of_kind_of_mem_itemKeys key (mem_itemKeys known member written) named
      have among : some "condition" ∈ path.map key? := written ▸ List.mem_map_of_mem member
      have leads := eq_of_condition_mem_route _ known among
      exact absurd (atCondition_of_map_key? leads) elsewhere

end Path

theorem filterMap_text?_of_condition (position : Nat) :
    [Part.key "data", .key "branches", .index position, .key "condition"].filterMap Part.text? =
      [Part.key "data", .key "branches", .index position].map fullText :=
  rfl

/-- Left out of a path is at most its end. -/
theorem exists_written
    {path : List Part} (known : path.map key? ∈ itemRoutes) :
    ∃ written, path.filterMap Part.text? = written.map fullText ∧
      (∀ part ∈ written, PlainPart part) ∧
      (written = path ∨ path = written ++ [.key "condition"]) := by
  have plain := fun part (member : part ∈ path) => plainPart_of_route known member
  by_cases atCondition : AtCondition path
  · rcases atCondition with ⟨position, rfl⟩
    refine ⟨_, filterMap_text?_of_condition position, ?_, Or.inr rfl⟩
    intro part member
    exact plain part (List.mem_append_left [Part.key "condition"] member)
  · exact ⟨path, filterMap_text?_of_not_atCondition known atCondition, plain, Or.inl rfl⟩

/-!
## Paths as they are written
-/

theorem not_delimiter_of_mem_fullText
    {part : Part} (plain : PlainPart part) {c : Char} (member : c ∈ (fullText part).toList) :
    c ∉ ['.', ':', '\''] := by
  cases part with
  | key name =>
      exact (plain name rfl c member).2
  | index position =>
      rw [toList_fullText_index] at member
      have digit := isDigit_of_mem_toDigits member
      intro delimiter
      simp only [List.mem_cons, List.not_mem_nil, or_false] at delimiter
      rcases delimiter with rfl | rfl | rfl <;> cases digit

theorem fullText_inj
    {part other : Part} (plain : PlainPart part) (plainToo : PlainPart other)
    (same : (fullText part).toList = (fullText other).toList) :
    part = other := by
  have differ (name : String) (plainName : PlainKey name) (position : Nat)
      (alike : name.toList = Nat.toDigits 10 position) : False := by
    rcases exists_toDigits position with ⟨first, more, written, digit⟩
    have letter : first ∈ name.toList := by
      rw [alike, written]
      exact List.mem_cons_self
    rw [(plainName first letter).1] at digit
    cases digit
  cases part with
  | key name =>
      cases other with
      | key nameToo =>
          exact congrArg Part.key (String.toList_inj.mp same)
      | index position =>
          rw [toList_fullText_index] at same
          exact (differ name (plain name rfl) position same).elim
  | index position =>
      cases other with
      | key name =>
          rw [toList_fullText_index] at same
          exact (differ name (plainToo name rfl) position same.symm).elim
      | index positionToo =>
          rw [toList_fullText_index, toList_fullText_index] at same
          exact congrArg Part.index (toDigits_inj same)

theorem map_fullText_inj
    {path other : List Part} (plain : ∀ part ∈ path, PlainPart part)
    (plainToo : ∀ part ∈ other, PlainPart part)
    (same : (path.map fullText).map String.toList = (other.map fullText).map String.toList) :
    path = other := by
  induction path generalizing other with
  | nil =>
      cases other with
      | nil =>
          rfl
      | cons =>
          cases same
  | cons part rest ih =>
      cases other with
      | nil =>
          cases same
      | cons partToo restToo =>
          rcases List.forall_mem_cons.mp plain with ⟨here, later⟩
          rcases List.forall_mem_cons.mp plainToo with ⟨hereToo, laterToo⟩
          rcases List.cons.inj same with ⟨first, more⟩
          rw [fullText_inj here hereToo first, ih later laterToo more]

theorem intercalate_dot_inj
    {one other : List (List Char)} (clear : ∀ text ∈ one, '.' ∉ text)
    (clearToo : ∀ text ∈ other, '.' ∉ text)
    (same : ['.'].intercalate ([] :: one) = ['.'].intercalate ([] :: other)) :
    one = other := by
  have read {texts : List (List Char)} (each : ∀ text ∈ texts, '.' ∉ text) :
      (['.'].intercalate ([] :: texts)).splitOn '.' = [] :: texts := by
    apply List.splitOn_intercalate
    · exact List.forall_mem_cons.mpr ⟨List.not_mem_nil, each⟩
    · exact List.cons_ne_nil _ _
  have split := congrArg (List.splitOn '.') same
  rw [read clear, read clearToo] at split
  exact (List.cons.inj split).2

theorem written_inj
    {path other : List Part} (plain : ∀ part ∈ path, PlainPart part)
    (plainToo : ∀ part ∈ other, PlainPart part)
    (same : ['.'].intercalate ([] :: (path.map fullText).map String.toList) =
      ['.'].intercalate ([] :: (other.map fullText).map String.toList)) :
    path = other := by
  have clear {written : List Part} (each : ∀ part ∈ written, PlainPart part) :
      ∀ text ∈ (written.map fullText).map String.toList, '.' ∉ text := by
    intro text member
    rw [List.map_map] at member
    rcases List.mem_map.mp member with ⟨part, among, rfl⟩
    intro dot
    exact not_delimiter_of_mem_fullText (each part among) dot List.mem_cons_self
  exact map_fullText_inj plain plainToo (intercalate_dot_inj (clear plain) (clear plainToo) same)

/-!
## Places as they are written
-/

def fullPlace : Place → String
  | .list collection => collection.name
  | .item collection position id path =>
      String.intercalate "." (itemText collection position id :: path.map fullText)

def origin : Place → Collection × Option Nat
  | .list collection => (collection, none)
  | .item collection position _ _ => (collection, some position)

theorem toList_dotted (first : String) (texts : List String) :
    (String.intercalate "." (first :: texts)).toList =
      first.toList ++ ['.'].intercalate ([] :: texts.map String.toList) := by
  rw [String.toList_intercalate]
  cases texts <;> simp [List.intercalate]

def startText (collection : Collection) (position : Nat) : List Char :=
  collection.name.toList ++ '[' :: (Nat.toDigits 10 position ++ [']'])

def idText : Option String → List Char
  | some id => " '".toList ++ id.toList ++ ['\'']
  | none => []

def pathText (path : List Part) : List Char :=
  ['.'].intercalate ([] :: (path.filterMap Part.text?).map String.toList)

section Items

variable {collection : Collection} {position : Nat} {id : Option String} {path : List Part}

theorem toList_text_item :
    (Place.item collection position id path).text.toList =
      startText collection position ++ (idText id ++ pathText path) := by
  have whole : (Place.item collection position id path).text.toList =
      (itemText collection position id).toList ++ pathText path :=
    toList_dotted ..
  have start : (itemText collection position id).toList =
      startText collection position ++ idText id := by
    unfold itemText startText idText
    cases id <;> simp
  rw [whole, start, List.append_assoc]

theorem clear_startText
    {c : Char} (letter : c.isDigit = false) (foreign : c ∉ "nodesg[]".toList) :
    c ∉ startText collection position := by
  have names : collection.name.toList ⊆ "nodesg[]".toList := by
    cases collection <;> simp [Collection.name]
  intro member
  rcases List.mem_append.mp member with name | bracket
  · exact foreign (names name)
  · rcases List.mem_cons.mp bracket with rfl | behind
    · simp at foreign
    · rcases List.mem_append.mp behind with digit | last
      · rw [isDigit_of_mem_toDigits digit] at letter
        cases letter
      · rw [List.mem_singleton.mp last] at foreign
        simp at foreign

theorem not_delimiter_of_text?
    {part : Part} (plain : PlainPart part) {text : String} (written : part.text? = some text)
    {c : Char} (member : c ∈ text.toList) :
    c ∉ ['.', ':', '\''] := by
  have same : text = fullText part := by
    cases part with
    | key name =>
        rw [Part.text?] at written
        split at written
        · cases written
        · exact (Option.some.inj written).symm
    | index position =>
        exact (Option.some.inj written).symm
  exact not_delimiter_of_mem_fullText plain (same ▸ member)

theorem clear_pathText
    (known : path.map key? ∈ itemRoutes) {c : Char} (member : c ∈ pathText path) :
    c ∉ [':', '\''] := by
  have dots : pathText path =
      (path.filterMap Part.text?).flatMap fun text => '.' :: text.toList := by
    unfold pathText
    induction path.filterMap Part.text? with
    | nil =>
        rfl
    | cons text rest ih =>
        rw [List.flatMap_cons, ← ih]
        cases rest <;> simp [List.intercalate]
  rw [dots] at member
  rcases List.mem_flatMap.mp member with ⟨text, among, inside⟩
  rcases List.mem_filterMap.mp among with ⟨part, within, written⟩
  rcases List.mem_cons.mp inside with rfl | own
  · decide
  · have plain := plainPart_of_route known within
    exact fun delimiter =>
      not_delimiter_of_text? plain written own (List.mem_cons_of_mem _ delimiter)

theorem pathText_cases (path : List Part) :
    pathText path = [] ∨ ∃ rest, pathText path = '.' :: rest := by
  unfold pathText
  cases path.filterMap Part.text? with
  | nil =>
      exact Or.inl rfl
  | cons text texts =>
      refine Or.inr ⟨['.'].intercalate ((text :: texts).map String.toList), ?_⟩
      simp [List.intercalate]

theorem exists_dot_of_ne_nil
    (known : path.map key? ∈ itemRoutes) (inside : path ≠ []) :
    ∃ rest, pathText path = '.' :: rest := by
  rcases pathText_cases path with empty | dotted
  · have none : path.filterMap Part.text? = [] := by
      unfold pathText at empty
      cases texts : path.filterMap Part.text? with
      | nil =>
          rfl
      | cons text rest =>
          rw [texts] at empty
          simp [List.intercalate] at empty
    rcases exists_written known with ⟨written, reads, _, whole | cut⟩
    · rw [none, whole] at reads
      exact absurd (List.map_eq_nil_iff.mp reads.symm) inside
    · rw [none] at reads
      rw [List.map_eq_nil_iff.mp reads.symm, List.nil_append] at cut
      rw [cut] at known
      have lengths := congrArg List.length (eq_of_condition_mem_route _ known List.mem_cons_self)
      cases lengths
  · exact dotted

theorem text_eq_fullPlace
    (known : path.map key? ∈ itemRoutes) (elsewhere : ¬AtCondition path) :
    (Place.item collection position id path).text =
      fullPlace (.item collection position id path) := by
  rw [Place.text, filterMap_text?_of_not_atCondition known elsewhere, fullPlace]

theorem fullPlace_eq_of_atCondition
    (atCondition : AtCondition path) :
    fullPlace (.item collection position id path) =
      (Place.item collection position id path).text ++ ".condition" := by
  rcases atCondition with ⟨index, rfl⟩
  rw [fullPlace, Place.text, filterMap_text?_of_condition, ← String.toList_inj,
    String.toList_append, toList_dotted, toList_dotted]
  simp [List.intercalate, fullText]

end Items

theorem collection_eq_of_name_append
    {one other : Collection} {rest more : List Char}
    (same : one.name.toList ++ rest = other.name.toList ++ more) :
    one = other := by
  cases one <;> cases other <;> simp [Collection.name] at same ⊢

theorem exists_toList_text (place : Place) :
    ∃ rest, place.text.toList = (origin place).1.name.toList ++ rest := by
  cases place with
  | list collection =>
      exact ⟨[], (List.append_nil _).symm⟩
  | item collection position id path =>
      rw [toList_text_item, startText, List.append_assoc]
      exact ⟨_, rfl⟩

theorem origin_eq_of_text_eq
    {one other : Place} (same : one.text = other.text) :
    origin one = origin other := by
  have clear (position : Nat) : ']' ∉ Nat.toDigits 10 position := by
    intro member
    cases isDigit_of_mem_toDigits member
  have lists := congrArg String.toList same
  cases one with
  | list collection =>
      have start : (Place.list collection).text.toList = collection.name.toList ++ [] :=
        (List.append_nil _).symm
      cases other with
      | list collectionToo =>
          have startToo : (Place.list collectionToo).text.toList = collectionToo.name.toList ++ [] :=
            (List.append_nil _).symm
          rw [start, startToo] at lists
          rw [origin, origin, collection_eq_of_name_append lists]
      | item collectionToo position id path =>
          rw [start, toList_text_item, startText, List.append_assoc] at lists
          cases collection_eq_of_name_append lists
          cases List.append_cancel_left lists
  | item collection position id path =>
      cases other with
      | list collectionToo =>
          have startToo : (Place.list collectionToo).text.toList = collectionToo.name.toList ++ [] :=
            (List.append_nil _).symm
          rw [startToo, toList_text_item, startText, List.append_assoc] at lists
          cases collection_eq_of_name_append lists
          cases List.append_cancel_left lists
      | item collectionToo positionToo idToo pathToo =>
          rw [toList_text_item, toList_text_item, startText, startText] at lists
          simp only [List.append_assoc, List.cons_append, List.nil_append] at lists
          cases collection_eq_of_name_append lists
          have behind := (List.cons.inj (List.append_cancel_left lists)).2
          have digits := (Text.append_cons_inj (clear position) (clear positionToo) behind).1
          rw [origin, origin, toDigits_inj digits]

/-- Flaws of one item that lie apart are written differently. -/
theorem text_ne_of_apart
    {flaw other : Flaw} (known : flaw.path.map key? ∈ itemRoutes)
    (knownToo : other.path.map key? ∈ itemRoutes) (apart : flaw.Apart other)
    (collection : Collection) (position : Nat) (id : Option String) :
    (Place.item collection position id flaw.path).text ≠
      (Place.item collection position id other.path).text := by
  intro same
  have lists := congrArg String.toList same
  rw [toList_text_item, toList_text_item] at lists
  have paths := List.append_cancel_left (List.append_cancel_left lists)
  unfold pathText at paths
  rcases exists_written known with ⟨written, reads, plain, ends⟩
  rcases exists_written knownToo with ⟨writtenToo, readsToo, plainToo, endsToo⟩
  rw [reads, readsToo] at paths
  cases written_inj plain plainToo paths
  -- The paths differ at most by the key at the end that is left out, so one begins the other.
  rcases ends with whole | cut <;> rcases endsToo with wholeToo | cutToo
  · exact apart.1 (whole ▸ wholeToo ▸ List.prefix_rfl)
  · exact apart.1 (whole ▸ cutToo ▸ List.prefix_append _ _)
  · exact apart.2 (wholeToo ▸ cut ▸ List.prefix_append _ _)
  · exact apart.1 (cut ▸ cutToo ▸ List.prefix_rfl)

/-!
## Lists of problems
-/

theorem mem_problemsIn
    {collection : Collection} {flaws : Json → List Flaw} {payload : Fields} {problem : Problem}
    (member : problem ∈ problemsIn collection flaws payload) :
    problem = ⟨.list collection, .notList⟩ ∨
      ∃ position item flaw, (itemsOf collection payload)[position]? = some item ∧
        flaw ∈ flaws item ∧
        problem = ⟨.item collection position (itemId item) flaw.path, flaw.cause⟩ := by
  unfold problemsIn at member
  unfold itemsOf
  split at member
  · cases member
  · rename_i items found
    rcases List.mem_flatMap.mp member with ⟨⟨item, position⟩, among, here⟩
    rcases List.mem_map.mp here with ⟨flaw, inside, same⟩
    rw [found]
    exact Or.inr ⟨position, item, flaw, List.mem_zipIdx_iff_getElem?.mp among, inside, same.symm⟩
  · exact Or.inl (List.mem_singleton.mp member)

theorem mem_repeatedId
    {payload : Fields} {problem : Problem} (member : problem ∈ repeatedId payload) :
    ∃ id, firstRepeat? [] (idsOf payload) = some id ∧
      problem = ⟨.list .nodes, .duplicateId id⟩ := by
  rcases List.mem_map.mp member with ⟨id, first, same⟩
  exact ⟨id, Option.mem_toList.mp first, same.symm⟩

theorem mem_nodeProblems
    {payload : Fields} {problem : Problem} (member : problem ∈ nodeProblems payload) :
    problem ∈ problemsIn .nodes nodeFlaws payload ∨
      problemsIn .nodes nodeFlaws payload = [] ∧ problem ∈ repeatedId payload := by
  unfold nodeProblems at member
  split at member
  · rename_i sound
    exact Or.inr ⟨sound, member⟩
  · exact Or.inl member

theorem mem_listing
    {payload : Fields} {problem : Problem} (member : problem ∈ listing payload) :
    (∃ collection position item flaw, (itemsOf collection payload)[position]? = some item ∧
      flaw ∈ itemFlaws collection item ∧
      problem = ⟨.item collection position (itemId item) flaw.path, flaw.cause⟩) ∨
    (∃ collection, problem = ⟨.list collection, .notList⟩) ∨
    ∃ id, problemsIn .nodes nodeFlaws payload = [] ∧ firstRepeat? [] (idsOf payload) = some id ∧
      problem = ⟨.list .nodes, .duplicateId id⟩ := by
  have among : (∃ collection, problem ∈ problemsIn collection (itemFlaws collection) payload) ∨
      problemsIn .nodes nodeFlaws payload = [] ∧ problem ∈ repeatedId payload := by
    rcases List.mem_append.mp member with nodes | edges
    · rcases mem_nodeProblems nodes with inside | repeated
      · exact Or.inl ⟨.nodes, inside⟩
      · exact Or.inr repeated
    · exact Or.inl ⟨.edges, edges⟩
  rcases among with ⟨collection, inside⟩ | ⟨sound, repeated⟩
  · rcases mem_problemsIn inside with unlisted | located
    · exact Or.inr (Or.inl ⟨collection, unlisted⟩)
    · exact Or.inl ⟨collection, located⟩
  · rcases mem_repeatedId repeated with ⟨id, first, same⟩
    exact Or.inr (Or.inr ⟨id, sound, first, same⟩)

def WrittenApart (problem other : Problem) : Prop :=
  problem.place.text ≠ other.place.text

theorem pairwise_problemsIn (collection : Collection) (payload : Fields) :
    (problemsIn collection (itemFlaws collection) payload).Pairwise WrittenApart := by
  unfold problemsIn
  split
  · exact .nil
  · rename_i items _
    rw [List.pairwise_flatMap]
    constructor
    · rintro ⟨item, position⟩ _
      refine List.pairwise_map.mpr ((pairwise_itemFlaws collection item).imp_of_mem ?_)
      intro flaw other member memberToo apart
      exact text_ne_of_apart (route_mem_itemRoutes member) (route_mem_itemRoutes memberToo) apart
        collection position (itemId item)
    · refine (pairwise_zipIdx items).imp ?_
      rintro ⟨item, position⟩ ⟨other, positionToo⟩ differs problem here problemToo there
      rcases List.mem_map.mp here with ⟨flaw, _, rfl⟩
      rcases List.mem_map.mp there with ⟨flawToo, _, rfl⟩
      intro same
      have origins := origin_eq_of_text_eq same
      exact differs (Option.some.inj (congrArg Prod.snd origins))
  · exact List.pairwise_singleton ..

theorem pairwise_nodeProblems (payload : Fields) :
    (nodeProblems payload).Pairwise WrittenApart := by
  unfold nodeProblems
  split
  · unfold repeatedId
    cases firstRepeat? [] (idsOf payload) with
    | none =>
        exact .nil
    | some id =>
        exact List.pairwise_singleton ..
  · exact pairwise_problemsIn .nodes payload

theorem fst_origin_of_mem_problemsIn
    {collection : Collection} {flaws : Json → List Flaw} {payload : Fields} {problem : Problem}
    (member : problem ∈ problemsIn collection flaws payload) :
    (origin problem.place).1 = collection := by
  rcases mem_problemsIn member with rfl | ⟨_, _, _, _, _, rfl⟩
  · rfl
  · rfl

theorem fst_origin_of_mem_nodeProblems
    {payload : Fields} {problem : Problem} (member : problem ∈ nodeProblems payload) :
    (origin problem.place).1 = .nodes := by
  rcases mem_nodeProblems member with inside | ⟨_, repeated⟩
  · exact fst_origin_of_mem_problemsIn inside
  · rcases mem_repeatedId repeated with ⟨_, _, rfl⟩
    rfl

theorem pairwise_listing (payload : Fields) :
    (listing payload).Pairwise WrittenApart := by
  refine List.pairwise_append.mpr
    ⟨pairwise_nodeProblems payload, pairwise_problemsIn .edges payload, ?_⟩
  intro problem here other there same
  have lists := congrArg Prod.fst (origin_eq_of_text_eq same)
  rw [fst_origin_of_mem_nodeProblems here, fst_origin_of_mem_problemsIn there] at lists
  cases lists

/-!
## Rejected documents
-/

/-- A problem inside an item of a document is about the item, and it is written with the whole path
unless it is about the condition of a branch. -/
structure IsLocated (canonical : Fields) (collection : Collection) (position : Nat)
    (id : Option String) (flaw : Flaw) : Prop where
  concerns : ∃ item, (itemsOf collection canonical)[position]? = some item ∧ id = itemId item ∧
    Concerns item flaw
  whole : ¬AtCondition flaw.path →
    (Place.item collection position id flaw.path).text =
      fullPlace (.item collection position id flaw.path)
  cut : AtCondition flaw.path →
    fullPlace (.item collection position id flaw.path) =
      (Place.item collection position id flaw.path).text ++ ".condition"

theorem isLocated_of_mem_listing
    {payload : Fields} {collection : Collection} {position : Nat} {id : Option String}
    {path : List Part} {cause : Cause}
    (member : ⟨.item collection position id path, cause⟩ ∈ listing payload) :
    IsLocated payload collection position id ⟨path, cause⟩ := by
  rcases mem_listing member with
    ⟨_, _, item, flaw, placed, inside, same⟩ | ⟨_, same⟩ | ⟨_, _, _, same⟩
  · cases same
    exact {
      concerns := ⟨item, placed, rfl, concerns_of_mem_itemFlaws inside⟩
      whole := text_eq_fullPlace (route_mem_itemRoutes inside)
      cut := fullPlace_eq_of_atCondition }
  · cases same
  · cases same

/-- A node whose label and whose only condition are numbers, and an edge that leads nowhere. -/
def misspoken : Fields :=
  [("nodes", .arr [.obj [("id", .str "gate"), ("kind", .str "condition"),
      ("data", .obj [("label", .int 7),
        ("branches", .arr [.obj [("name", .str "adult"), ("condition", .int 18)]])])]]),
    ("edges", .arr [.obj [("id", .str "e1"), ("source", .str "gate")]])]

def misspokenProblems : List Problem :=
  [⟨.item .nodes 0 (some "gate") [.key "data", .key "label"], .notText⟩,
    ⟨.item .nodes 0 (some "gate") [.key "data", .key "branches", .index 0, .key "condition"],
      .notText⟩,
    ⟨.item .edges 0 (some "e1") [.key "target"], .missing⟩]

def firstCondition : Place :=
  .item .nodes 0 (some "gate") [.key "data", .key "branches", .index 0, .key "condition"]

end Document
end WorkflowWalk
