import WorkflowWalk.Proofs.Check.Agreement
import WorkflowWalk.Proofs.Document.Spelling

/-!
# Verdicts on spellings

A document in another spelling gets the same verdict: the same hash, the same start and the same
findings, but for the notes on what was brought into canonical form. It also runs in the same way.
-/

namespace WorkflowWalk

/-!
## Canonical forms of documents
-/

namespace Document

theorem nodeWritable_of_readNode
    {item : Json} {node : Node} (read : readNode item = .ok node) :
    Canonical.nodeWritable item = true := by
  rcases readNode_eq_ok.mp read with ⟨fields, _, rfl, _, id, _⟩
  rw [Canonical.nodeWritable, Json.field, id]
  rfl

theorem edgeWritable_of_readEdge
    {item : Json} {edge : Edge} (read : readEdge item = .ok edge) :
    Canonical.edgeWritable item = true := by
  rcases readEdge_eq_ok.mp read with ⟨fields, rfl, id, source, target, _⟩
  rw [Canonical.edgeWritable, Json.field, Json.field, Json.field, id, source, target]
  simp [Json.writable]

theorem allItems_of_readItems
    {α : Type} {collection : Problem.Collection} {read : Json → Reading α} {p : Json → Bool}
    (holds : ∀ {item : Json} {value : α}, read item = .ok value → p item = true) {payload : Fields}
    {values : List α} (all : readItems collection read payload = .ok values) :
    Canonical.allItems collection.name p payload = true := by
  unfold Canonical.allItems
  rcases readItems_eq_ok.mp all with ⟨absent, _⟩ | ⟨items, found, each⟩
  · rw [absent]
  · rw [found]
    apply List.all_eq_true.mpr
    intro item member
    rcases exists_item_of_forall₂ each.flip member with ⟨value, _, read⟩
    exact holds read

theorem ofFields_normalize_of_eq_ok
    {payload : Fields} {document : Document} (read : ofFields payload = .ok document) :
    ofFields (Canonical.normalize payload).1 = .ok document := by
  rcases ofFields_eq_ok.mp read with ⟨_, nodes, edges⟩
  have writable : Canonical.writable (Canonical.normalize payload).1 = true := by
    rw [Canonical.writable, Bool.and_eq_true]
    exact ⟨allItems_of_readItems nodeWritable_of_readNode nodes,
      allItems_of_readItems edgeWritable_of_readEdge edges⟩
  rw [ofFields_eq_ok, Canonical.normalize_normalize]
  exact ⟨writable, nodes, edges⟩

end Document

/-!
## Verdicts but for notes
-/

def Diagnostic.isNote (diagnostic : Diagnostic) : Bool :=
  diagnostic.severity = .info && "CANONICAL_".toList.isPrefixOf diagnostic.code.toList

namespace Verdict

def remarks (verdict : Verdict) : List Diagnostic :=
  verdict.diagnostics.filter fun diagnostic => !diagnostic.isNote

/-- Two verdicts on one document that took different changes to its form. -/
structure Matches (one other : Verdict) : Prop where
  document : one.document = other.document
  hash : one.hash = other.hash
  ok : one.ok = other.ok
  start : one.start = other.start
  reachable : one.reachable = other.reachable
  remarks : one.remarks = other.remarks

theorem errors_eq_remarks (verdict : Verdict) :
    verdict.errors = verdict.remarks.filter (·.severity = .error) := by
  unfold errors remarks
  rw [List.filter_filter]
  apply List.filter_congr
  intro diagnostic _
  by_cases severe : diagnostic.severity = .error
  · simp [severe, Diagnostic.isNote]
  · simp [severe]

def noteCodes : List String :=
  ["CANONICAL_KIND_ALIAS", "CANONICAL_KIND_CASE", "CANONICAL_EDGE_ID", "CANONICAL_BRANCH_TAG_ALIAS"]

theorem code_mem_noteCodes (note : Canonical.Note) :
    note.code ∈ noteCodes := by
  cases note <;> simp [Canonical.Note.code, noteCodes]

theorem isNote_normalized (note : Canonical.Note) :
    (Finding.normalized note).diagnostic.isNote = true := by
  have marked : ∀ code ∈ noteCodes, "CANONICAL_".toList.isPrefixOf code.toList = true := by
    decide
  exact marked note.code (code_mem_noteCodes note)

theorem remarks_of_findings
    {verdict : Verdict} {notes : List Canonical.Note} {rest : List Finding}
    (all : verdict.findings = notes.map .normalized ++ rest) :
    verdict.remarks = (rest.map Finding.diagnostic).filter fun diagnostic => !diagnostic.isNote := by
  have none : ((notes.map Finding.normalized).map Finding.diagnostic).filter
      (fun diagnostic => !diagnostic.isNote) = [] := by
    rw [List.filter_eq_nil_iff]
    intro diagnostic member
    rcases List.mem_map.mp member with ⟨finding, among, rfl⟩
    rcases List.mem_map.mp among with ⟨note, _, rfl⟩
    simp [isNote_normalized]
  rw [remarks, diagnostics, all, List.map_append, List.filter_append, none, List.nil_append]

theorem ok_eq_of_remarks_eq
    {one other : Verdict} (same : one.remarks = other.remarks) :
    one.ok = other.ok := by
  rw [ok, ok, errors_eq_remarks, errors_eq_remarks, same]

end Verdict

namespace Check

theorem verdict_of_ofFields
    {payload : Fields} {document : Document} (read : Document.ofFields payload = .ok document) :
    verdict (.obj payload) =
      documentVerdict (Canonical.normalize payload).2 (Canonical.normalize payload).1 document := by
  have formed : Canonical.normalize? payload = .ok (Canonical.normalize payload) :=
    if_pos (Document.ofFields_eq_ok.mp read).1
  have form := Document.ofFields_normalize_of_eq_ok read
  simp only [verdict, formed, bind, Except.bind, form]

/-- The verdicts on a document differ in the notes only, whatever changes it took. -/
theorem matches_of_documentVerdict
    {document : Document} {notes others : List Canonical.Note} {canonical form : Fields}
    {one other : Verdict} (judged : documentVerdict notes canonical document = .ok one)
    (also : documentVerdict others form document = .ok other) :
    one.Matches other := by
  rcases (judges_of_documentVerdict judged).found with ⟨edges, checked, all⟩
  rcases (judges_of_documentVerdict also).found with ⟨found, checkedToo, allToo⟩
  cases checked.symm.trans checkedToo
  have same : one.remarks = other.remarks := by
    rw [Verdict.remarks_of_findings (all.trans (List.append_assoc ..)),
      Verdict.remarks_of_findings (allToo.trans (List.append_assoc ..))]
  rcases ok_of_bind judged with ⟨_, _, hashing⟩
  rcases ok_of_bind hashing with ⟨text, hashed, made⟩
  rcases ok_of_bind also with ⟨_, _, hashingToo⟩
  rcases ok_of_bind hashingToo with ⟨textToo, hashedToo, madeToo⟩
  cases hashed.symm.trans hashedToo
  have ok := Verdict.ok_eq_of_remarks_eq same
  cases made
  cases madeToo
  exact ⟨rfl, rfl, ok, rfl, rfl, same⟩

/-!
## Other spellings
-/

/-- A document in another spelling is the same document, the verdict on it is the same but for the
notes, and it runs in the same way. If its saved form has half of a surrogate pair in it, then there
is no verdict on either spelling, for the same fault. -/
theorem verdict_of_spelling
    {payload others : Fields} {document : Document}
    (writable : Json.writableFields payload = true)
    (read : Document.ofJson (.obj payload) = .ok document)
    (readable : ∀ edge ∈ document.edges, ∀ tag, edge.tag = some tag → ¬BranchTag.Endless tag)
    (plain : Document.Plain payload) (spelling : Document.Spelling payload others) :
    Document.ofJson (.obj others) = .ok document ∧
      (document.payload.whole = true →
        ∃ one other, verdict (.obj payload) = .ok one ∧ verdict (.obj others) = .ok other ∧
          one.document = some document ∧ one.Matches other) ∧
      (¬document.payload.whole = true →
        ∃ unpaired, verdict (.obj payload) = .error (.unpaired unpaired) ∧
          verdict (.obj others) = .error (.unpaired unpaired)) ∧
      ∀ {ε : Type} (request : Walk.Request ε),
        (request.withValue (.obj others)).account = (request.withValue (.obj payload)).account := by
  have also : Document.ofFields others = .ok document :=
    Document.ofFields_of_spelling plain spelling read
  have saved := Document.writable_payload_of_ofFields writable read
  rcases exists_edgeFindings readable with ⟨findings, checked⟩
  refine ⟨also, ?_, ?_, ?_⟩
  · intro whole
    rcases exists_hash saved whole with ⟨text, hashed⟩
    rcases exists_documentVerdict checked hashed (Canonical.normalize payload).2
      (Canonical.normalize payload).1 with ⟨one, first⟩
    rcases exists_documentVerdict checked hashed (Canonical.normalize others).2
      (Canonical.normalize others).1 with ⟨other, second⟩
    refine ⟨one, other, ?_, ?_, ?_, matches_of_documentVerdict first second⟩
    · rw [verdict_of_ofFields read, first]
    · rw [verdict_of_ofFields also, second]
    · exact (judges_of_documentVerdict first).held
  · intro broken
    rcases exists_unpaired saved broken with ⟨unpaired, failed⟩
    refine ⟨unpaired, ?_, ?_⟩
    · rw [verdict_of_ofFields read, documentVerdict_of_hash_error checked failed]
    · rw [verdict_of_ofFields also, documentVerdict_of_hash_error checked failed]
  · intro ε request
    rw [Walk.Request.withValue, Walk.Request.withValue, Document.load_of_ofFields also,
      Document.load_of_ofFields read]

def named : Fields :=
  [("levelName", .str "Manager"), ("label", .str "Approval")]

def plainly : Fields :=
  [("nodes", .arr [
      .obj [("id", .str "review"), ("kind", .str "level"), ("data", .obj named)],
      .obj [("id", .str "payout"), ("kind", .str "action")]]),
    ("edges", .arr [
      .obj [("source", .str "review"), ("target", .str "payout"), ("branchTag", .str "branch-1")]])]

/-- The same with other keys and another letter case. -/
def freely : Fields :=
  [("nodes", .arr [
      .obj [("id", .str "review"),
        ("data", .obj [("label", .str "Approval"), ("level_name", .str "Manager")]),
        ("type", .str " Level ")],
      .obj [("id", .str "payout"), ("kind", .str "ACTION")]]),
    ("edges", .arr [
      .obj [("source", .str "review"), ("target", .str "payout"), ("source_handle", .str "branch-1")]])]

def approval : Document where
  nodes := [
    ⟨"review", "Approval", .level (some "Manager") none [], [], by decide⟩,
    ⟨"payout", "", .action [], [], by decide⟩]
  edges := [⟨"review->payout", "review", "payout", some "branch-1", by decide, by decide, by decide⟩]
  distinct := by decide

theorem ofJson_plainly :
    Document.ofJson (.obj plainly) = .ok approval :=
  rfl

theorem spelling_freely : Document.Spelling plainly freely where
  nodes := by
    have level : Document.DataSpelling "level" [("id", .str "review"), ("kind", .str "level"),
        ("data", .obj named)] _ :=
      Or.inr ⟨by decide +kernel, named, [("label", .str "Approval"), ("level_name", .str "Manager")],
        rfl, ⟨"level_name", by decide, "levelType", by decide, _, ⟨rfl, rfl⟩, ⟨rfl, rfl⟩⟩, rfl⟩
    exact .items (.cons
      (.object ⟨"level", " Level ", _, rfl, by decide +kernel, level, "type", by decide, rfl, rfl⟩)
      (.cons (.object ⟨"action", "ACTION", _, rfl, by decide +kernel, Or.inl rfl, "kind",
        by decide, rfl, rfl⟩) .nil))
  edges :=
    .items (.cons (.object ⟨"source_handle", by decide, Fields.renamed_put rfl rfl⟩) .nil)

theorem plain_plainly : Document.Plain plainly where
  nodes := by
    intro items listed fields member
    cases listed
    simp only [List.mem_cons, List.not_mem_nil, or_false, Json.obj.injEq] at member
    rcases member with rfl | rfl
    · refine ⟨rfl, ?_⟩
      intro kind data _ _ held
      cases held
      exact ⟨rfl, rfl⟩
    · refine ⟨rfl, ?_⟩
      intro kind data _ _ held
      cases held
  edges := by
    intro items listed fields member
    cases listed
    simp only [List.mem_cons, List.not_mem_nil, or_false, Json.obj.injEq] at member
    rw [member]
    unfold Document.PlainEdge
    decide

theorem verdict_of_spelling_freely :
    Json.writableFields plainly = true ∧ Document.ofJson (.obj plainly) = .ok approval ∧
      (∀ edge ∈ approval.edges, ∀ tag, edge.tag = some tag → ¬BranchTag.Endless tag) ∧
      Document.Plain plainly ∧ Document.Spelling plainly freely ∧
      Document.ofJson (.obj freely) = .ok approval ∧
      ∃ one other, verdict (.obj plainly) = .ok one ∧ verdict (.obj freely) = .ok other ∧
        one.Matches other := by
  have readable : ∀ edge ∈ approval.edges, ∀ tag, edge.tag = some tag →
      ¬BranchTag.Endless tag := by
    intro edge member tag tagged
    rw [List.mem_singleton.mp member] at tagged
    cases tagged
    exact @BranchTag.not_endless "branch-1" [1] rfl (by decide)
  rcases verdict_of_spelling rfl ofJson_plainly readable plain_plainly spelling_freely with
    ⟨read, judged, _, _⟩
  rcases judged (by decide +kernel) with ⟨one, other, first, second, _, same⟩
  exact ⟨rfl, ofJson_plainly, readable, plain_plainly, spelling_freely, read, one, other, first,
    second, same⟩

/-- The level with the half, called by its type. -/
def typedHalf : Fields :=
  [("nodes", .arr [
      .obj [("id", .str "drawn"), ("data", .obj [("x", .str loneHalf)]), ("type", .str "level")]]),
    ("edges", .arr [])]

theorem spelling_typedHalf : Document.Spelling halvedFields typedHalf where
  nodes :=
    .items (.cons (.object ⟨"level", "level", _, rfl, by decide +kernel, Or.inl rfl, "type",
      by decide, rfl, rfl⟩) .nil)
  edges := .items .nil

theorem plain_halvedFields : Document.Plain halvedFields where
  nodes := by
    intro items listed fields member
    cases listed
    rw [List.mem_singleton, Json.obj.injEq] at member
    rw [member]
    refine ⟨rfl, ?_⟩
    intro kind data _ _ held
    cases held
    exact ⟨rfl, rfl⟩
  edges := by
    intro items listed fields member
    cases listed
    cases member

/-- Both spellings of the level with the half are read as one document, and there is no verdict on
either. -/
theorem verdict_fails_typedHalf :
    Json.writableFields halvedFields = true ∧ Document.Plain halvedFields ∧
      Document.Spelling halvedFields typedHalf ∧
      Document.ofJson (.obj halvedFields) = .ok halved ∧
      Document.ofJson (.obj typedHalf) = .ok halved ∧
      ∃ unpaired, verdict (.obj halvedFields) = .error (.unpaired unpaired) ∧
        verdict (.obj typedHalf) = .error (.unpaired unpaired) := by
  have saved : halved.payload.writable = true := by decide +kernel
  have broken : ¬halved.payload.whole = true := by decide +kernel
  have checked : edgeFindings halved = .ok [] := rfl
  have read : Document.ofFields halvedFields = .ok halved := rfl
  have also : Document.ofFields typedHalf = .ok halved := rfl
  rcases exists_unpaired saved broken with ⟨unpaired, failed⟩
  refine ⟨rfl, plain_halvedFields, spelling_typedHalf, read, also, unpaired, ?_, ?_⟩
  · rw [verdict_of_ofFields read, documentVerdict_of_hash_error checked failed]
  · rw [verdict_of_ofFields also, documentVerdict_of_hash_error checked failed]

end Check
end WorkflowWalk
