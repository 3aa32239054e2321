import WorkflowWalk.Check.Verdict
import WorkflowWalk.Proofs.Document.Inheritance
import WorkflowWalk.Proofs.Document.Keys

/-!
# What a hash tells of a document

The text that is hashed determines the saved form of a document, up to the order of the fields of
its objects. So two documents with other saved forms can share a hash only if the digests of two
different texts begin alike. A document has no hash if a text in its saved form holds half of a
surrogate pair.
-/

namespace WorkflowWalk
namespace Check

open Json

/-!
## The hashed text
-/

theorem sortKeys_hashed (document : Document) :
    (hashed document).sortKeys =
      .obj [("compiler_version", .str version), ("graph", document.payload.sortKeys)] := by
  have sorted : [("compiler_version", Json.str version), ("graph", document.payload)].Pairwise
      fun one other => keyLe one other = true := by
    refine .cons ?_ (List.pairwise_singleton _ _)
    intro field member
    rw [List.mem_singleton.mp member]
    show Text.le "compiler_version" "graph" = true
    decide
  rw [hashed, sortKeys_obj, List.mergeSort_of_pairwise sorted]
  rfl

theorem writable_hashed
    {document : Document} (writable : document.payload.writable = true) :
    (hashed document).writable = true := by
  show writableFields [("compiler_version", .str version), ("graph", document.payload)] = true
  rw [writableFields, writableFields, writable]
  rfl

theorem hashedText_of_writable
    {document : Document} (writable : document.payload.writable = true) :
    hashedText document = .ok (hashed document).sortKeys.compact :=
  if_pos (writable_hashed writable)

theorem compact_hashed_eq_iff
    {left right : Document} :
    (hashed left).sortKeys.compact = (hashed right).sortKeys.compact ↔
      sortedText left.payload = sortedText right.payload := by
  rw [compact, compact, String.ofList_inj, sortKeys_hashed, sortKeys_hashed]
  constructor
  · intro same
    cases parts_of_compactChars same with
    | obj parts =>
        cases parts with
        | cons _ later =>
            cases later with
            | cons graph _ =>
                exact graph.2
  · intro same
    rw [compactChars_obj, compactChars_obj]
    have graph : fieldText ("graph", left.payload.sortKeys) =
        fieldText ("graph", right.payload.sortKeys) :=
      congrArg (Quoted.quote "graph" ++ ':' :: ·) same
    simp only [List.map_cons, graph, List.map_nil]

theorem hashedText_eq_iff
    {left right : Document} (distinct : left.payload.keysDistinct = true) :
    (hashed left).sortKeys.compact = (hashed right).sortKeys.compact ↔
      Alike left.payload right.payload :=
  compact_hashed_eq_iff.trans ⟨alike_of_sortedText_eq, sortedText_eq_of_alike distinct⟩

/-!
## Hashes
-/

def digest (text : String) : String :=
  ((Sha256.hex text).take hashLength).toString

theorem whole_hashed
    {document : Document} :
    Text.Whole (hashed document).sortKeys.compact ↔ document.payload.whole = true := by
  have keys : Text.Whole "compiler_version" ∧ Text.Whole version ∧ Text.Whole "graph" := by
    decide
  rw [whole_compact, whole_sortKeys, hashed, whole_obj]
  simp [keys, whole_str]

theorem hash_of_hashedText
    {document : Document} {text : String} (hashed : hashedText document = .ok text) :
    hash document = digest <$> (Text.plain? text).mapError .unpaired := by
  rw [hash, hashed]
  show ((Text.plain? text).mapError Numeral.Fault.unpaired >>= fun plain => pure (digest plain)) = _
  cases Text.plain? text <;> rfl

theorem hash_of_whole
    {document : Document} {text : String} (hashed : hashedText document = .ok text)
    (whole : Text.Whole text) :
    hash document = .ok (digest (Text.characters text)) := by
  rw [hash_of_hashedText hashed, Text.plain?_of_whole whole]
  rfl

theorem hash_of_not_whole
    {document : Document} {text : String} (hashed : hashedText document = .ok text)
    (broken : ¬Text.Whole text) :
    ∃ unpaired, hash document = .error (.unpaired unpaired) := by
  rcases Text.plain?_of_not_whole broken with ⟨unpaired, failed⟩
  refine ⟨unpaired, ?_⟩
  rw [hash_of_hashedText hashed, failed]
  rfl

theorem exists_hash
    {document : Document} (writable : document.payload.writable = true)
    (whole : document.payload.whole = true) :
    ∃ text, hash document = .ok text :=
  ⟨_, hash_of_whole (hashedText_of_writable writable) (whole_hashed.mpr whole)⟩

theorem exists_unpaired
    {document : Document} (writable : document.payload.writable = true)
    (broken : ¬document.payload.whole = true) :
    ∃ unpaired, hash document = .error (.unpaired unpaired) :=
  hash_of_not_whole (hashedText_of_writable writable) fun whole => broken (whole_hashed.mp whole)

theorem digest_of_hash
    {document : Document} {text shared : String} (hashed : hashedText document = .ok text)
    (made : hash document = .ok shared) :
    Text.Whole text ∧ digest (Text.characters text) = shared := by
  by_cases whole : Text.Whole text
  · rw [hash_of_whole hashed whole] at made
    exact ⟨whole, Except.ok.inj made⟩
  · rcases hash_of_not_whole hashed whole with ⟨_, failed⟩
    cases made.symm.trans failed

/-!
## Equal hashes
-/

/-- The hashed texts of two documents are equal exactly if their saved forms are alike. A text has a
hash if no half of a surrogate pair was saved. -/
theorem hashedText_eq_iff_alike
    {left right : Document} (writableLeft : left.payload.writable = true)
    (writableRight : right.payload.writable = true)
    (distinct : left.payload.keysDistinct = true) :
    ∃ one other, hashedText left = .ok one ∧ hashedText right = .ok other ∧
      (one = other ↔ Alike left.payload right.payload) ∧
      (Alike left.payload right.payload → hash left = hash right) ∧
      (¬Alike left.payload right.payload →
        ∀ shared, hash left = .ok shared → hash right = .ok shared →
          Text.characters one ≠ Text.characters other ∧ digest (Text.characters one) = shared ∧
            digest (Text.characters other) = shared) ∧
      (left.payload.whole = true → ∃ shared, hash left = .ok shared) ∧
      (right.payload.whole = true → ∃ shared, hash right = .ok shared) := by
  have textLeft := hashedText_of_writable writableLeft
  have textRight := hashedText_of_writable writableRight
  have exact := @hashedText_eq_iff left right distinct
  refine ⟨_, _, textLeft, textRight, exact, ?_, ?_, exists_hash writableLeft,
    exists_hash writableRight⟩
  · intro alike
    rw [hash, hash, textLeft, textRight, exact.mpr alike]
  · intro differ shared madeLeft madeRight
    rcases digest_of_hash textLeft madeLeft with ⟨wholeLeft, one⟩
    rcases digest_of_hash textRight madeRight with ⟨wholeRight, other⟩
    refine ⟨fun same => differ (exact.mp ?_), one, other⟩
    exact (Text.characters_inj wholeLeft wholeRight).mp same

def marked (extras : Fields) : Document where
  nodes := [⟨"drawn", "", .level none none [], extras, by decide⟩]
  edges := []
  distinct := List.nodup_singleton _

def sizeFirst : Document :=
  marked [("size", .int 2), ("color", .str "red")]

def colorFirst : Document :=
  marked [("color", .str "red"), ("size", .int 2)]

theorem alike_marked : Alike sizeFirst.payload colorFirst.payload := by
  have data : Alike
      (.obj [("label", .str ""), ("steps", .arr []), ("size", .int 2), ("color", .str "red")])
      (.obj [("label", .str ""), ("steps", .arr []), ("color", .str "red"), ("size", .int 2)]) :=
    .obj (alikeFields_iff.mpr (List.forall₂_same.mpr fun field _ => ⟨rfl, alike_refl field.2⟩))
      (((List.Perm.swap _ _ _).cons _).cons _)
  have node := Alike.obj (.cons "id" (.str "drawn") (.cons "kind" (.str "level")
    (.cons "data" data .nil))) (.refl _)
  exact .obj (.cons "nodes" (.arr (.cons node .nil)) (.cons "edges" (.arr .nil) .nil)) (.refl _)

theorem hashedText_eq_iff_alike_marked :
    ∃ text, hashedText sizeFirst = .ok text ∧ hashedText colorFirst = .ok text ∧
      hash sizeFirst = hash colorFirst := by
  have first : sizeFirst.payload.writable = true := by decide +kernel
  have second : colorFirst.payload.writable = true := by decide +kernel
  have distinct : sizeFirst.payload.keysDistinct = true := by decide +kernel
  rcases hashedText_eq_iff_alike first second distinct with ⟨_, _, left, right, exact, same, _⟩
  cases exact.mpr alike_marked
  exact ⟨_, left, right, same alike_marked⟩

/-- Documents that are read from values without a key that occurs twice in an object have one hashed
text exactly if their saved forms are alike. -/
theorem hashedText_eq_of_ofFields
    {payload others : Fields} (writable : writableFields payload = true)
    (writableToo : writableFields others = true)
    (distinct : (Json.obj payload).keysDistinct = true) {left right : Document}
    (read : Document.ofFields payload = .ok left) (readToo : Document.ofFields others = .ok right) :
    hashedText left = hashedText right ↔ Alike left.payload right.payload := by
  have one := hashedText_of_writable (Document.writable_payload_of_ofFields writable read)
  have other := hashedText_of_writable (Document.writable_payload_of_ofFields writableToo readToo)
  rw [one, other, Except.ok.injEq]
  exact hashedText_eq_iff (Document.keysDistinct_payload_of_ofFields distinct read)

end Check
end WorkflowWalk
