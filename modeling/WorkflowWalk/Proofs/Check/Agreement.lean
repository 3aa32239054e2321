import WorkflowWalk.Proofs.Check.Findings
import WorkflowWalk.Proofs.Check.Hash
import WorkflowWalk.Walk.Request

/-!
# A value and the verdict on it

There are three ways to find out whether a value is a document: to take it in, to ask for all that is
wrong with it, and to look at the verdict on it. They say the same of the same errors. If it is a
document, it is the same one as its canonical form, and the same one as that of the verdict.
-/

namespace WorkflowWalk

/-!
## Findings that refuse a value
-/

def Finding.refuses : Finding → Bool
  | .notObject | .rejected _ => true
  | _ => false

theorem Finding.code_eq_iff
    {finding : Finding} :
    finding.diagnostic.code = "SCHEMA_VALIDATION_FAILED" ↔ finding.refuses = true := by
  cases finding with
  | normalized note =>
      cases note <;> simp [diagnostic, refuses, Canonical.Note.code]
  | _ =>
      simp [diagnostic, refuses]

theorem Document.Defect.not_refuses
    {document : Document} {finding : Finding} (defect : document.Defect finding) :
    finding.refuses = false := by
  cases defect with
  | condition _ _ defect =>
      cases defect <;> rfl
  | plain _ _ defect =>
      cases defect <;> rfl
  | _ =>
      rfl

theorem Check.Judges.not_refuses
    {document : Document} {verdict : Verdict} {notes : List Canonical.Note}
    (judges : Judges verdict notes document) {finding : Finding}
    (member : finding ∈ verdict.findings) :
    finding.refuses = false := by
  rcases judges.mem_findings_iff.mp member with ⟨note, _, rfl⟩ | defect
  · rfl
  · exact defect.not_refuses

/-!
## Canonical form and errors
-/

namespace Document

theorem ofFields_normalize
    {payload : Fields} (writable : Json.writableFields payload = true) :
    ofFields (Canonical.normalize payload).1 = ofFields payload := by
  have before := Canonical.writable_of_writableFields writable
  have after := Canonical.writable_of_writableFields (Canonical.writableFields_normalize writable)
  unfold ofFields Canonical.normalize?
  rw [if_pos before, if_pos after, Canonical.normalize_normalize]

theorem load_of_ofFields
    {payload : Fields} {document : Document} (read : ofFields payload = .ok document)
    (strict : Bool) :
    load strict (.obj payload) = checkStrict strict document :=
  congrArg (· >>= checkStrict strict) read

theorem load_normalize
    {payload : Fields} (writable : Json.writableFields payload = true) (strict : Bool) :
    load strict (.obj (Canonical.normalize payload).1) = load strict (.obj payload) :=
  congrArg (· >>= checkStrict strict) (ofFields_normalize writable)

theorem exists_problems_of_ofFields
    {payload : Fields} (writable : Json.writableFields payload = true) {rejection : Rejection}
    (rejected : ofFields payload = .error rejection) :
    ∃ found, rejection = .problems found := by
  unfold ofFields Canonical.normalize? at rejected
  rw [if_pos (Canonical.writable_of_writableFields writable)] at rejected
  simp only at rejected
  split at rejected
  · cases rejected
  · rename_i found _
    cases rejected
    exact ⟨found, rfl⟩

end Document

namespace Check

theorem exists_edgeFindings
    {document : Document}
    (readable : ∀ edge ∈ document.edges, ∀ tag, edge.tag = some tag → ¬BranchTag.Endless tag) :
    ∃ findings, edgeFindings document = .ok findings := by
  cases checked : edgeFindings document with
  | ok findings =>
      exact ⟨findings, rfl⟩
  | error fault =>
      rcases endless_of_edgeFindings checked with
        ⟨node, _, _, _, edge, leaving, tag, tagged, endless⟩
      exact absurd endless (readable edge (List.mem_filter.mp leaving).1 tag tagged)

end Check

/-!
## Agreement
-/

namespace Verdict

def refusals (verdict : Verdict) : List String :=
  (verdict.diagnostics.filter (·.code = "SCHEMA_VALIDATION_FAILED")).map (·.message)

theorem filter_refusing (verdict : Verdict) :
    verdict.diagnostics.filter (·.code = "SCHEMA_VALIDATION_FAILED") =
      (verdict.findings.filter Finding.refuses).map Finding.diagnostic := by
  have same : ∀ finding : Finding,
      decide (finding.diagnostic.code = "SCHEMA_VALIDATION_FAILED") = finding.refuses := by
    intro finding
    rw [Bool.eq_iff_iff, decide_eq_true_iff]
    exact Finding.code_eq_iff
  unfold diagnostics
  rw [List.filter_map]
  simp only [Function.comp_def, same]

theorem refusals_eq (verdict : Verdict) :
    verdict.refusals = (verdict.findings.filter Finding.refuses).map (·.diagnostic.message) := by
  rw [refusals, filter_refusing, List.map_map]
  rfl

theorem refusals_ne_nil_iff
    {verdict : Verdict} :
    verdict.refusals ≠ [] ↔ verdict.Reports "SCHEMA_VALIDATION_FAILED" := by
  simp [refusals, Reports]

theorem not_reports_of_ok
    {verdict : Verdict} (sound : verdict.ok = true) :
    ¬verdict.Reports "SCHEMA_VALIDATION_FAILED" := by
  intro reported
  rcases reported with ⟨diagnostic, member, code⟩
  rcases List.mem_map.mp member with ⟨finding, among, rfl⟩
  have refuses := Finding.code_eq_iff.mp code
  apply not_error_of_ok sound among
  cases finding with
  | notObject | rejected =>
      rfl
  | _ =>
      cases refuses

theorem ok_iff
    {verdict : Verdict} :
    verdict.ok = true ↔ ∀ diagnostic ∈ verdict.diagnostics, diagnostic.severity ≠ .error := by
  simp [ok, errors]

end Verdict

namespace Check

/-- The verdict on a value and the errors of it say what comes of taking it in. -/
structure Agrees (value : Json) (verdict : Verdict) (errors : List String) : Prop where
  fails : (∃ rejection, Document.ofJson value = .error rejection) ↔ errors ≠ []
  listed : ∀ rejection, Document.ofJson value = .error rejection → rejection.errors = errors
  reported : verdict.Reports "SCHEMA_VALIDATION_FAILED" ↔ errors ≠ []
  messages : verdict.refusals = errors
  same : ∀ document, Document.ofJson value = .ok document →
    verdict.document = some document ∧ (verdict.ok = true → verdict.graph? = some document) ∧
      ∃ canonical, verdict.canonical = some canonical ∧
        Document.ofJson (.obj canonical) = .ok document ∧
        ∀ {ε : Type} (request : Walk.Request ε),
          (request.withValue value).account = (request.withValue (.obj canonical)).account ∧
            (verdict.ok = true →
              (request.withValue value).account = (request.withDocument (.ok document)).account)
  sound : verdict.ok = true ↔ ∀ diagnostic ∈ verdict.diagnostics, diagnostic.severity ≠ .error
  complete : verdict.ok = true →
    verdict.graph?.isSome ∧ verdict.hash.isSome ∧ verdict.start.isSome

theorem agrees_of_rejection
    {value : Json} {verdict : Verdict} {rejection : Rejection}
    (rejected : Document.ofJson value = .error rejection) (said : rejection.errors ≠ [])
    (messages : verdict.refusals = rejection.errors) :
    Agrees value verdict rejection.errors where
  fails := by
    constructor
    · intro _
      exact said
    · intro _
      exact ⟨rejection, rejected⟩
  listed := by
    intro other also
    rw [rejected] at also
    cases also
    rfl
  reported := by
    rw [← Verdict.refusals_ne_nil_iff, messages]
  messages := messages
  same := by
    intro document read
    rw [rejected] at read
    cases read
  sound := Verdict.ok_iff
  complete := by
    intro sound
    have reported := Verdict.refusals_ne_nil_iff.mp (messages ▸ said)
    exact absurd reported (Verdict.not_reports_of_ok sound)

theorem agrees_of_document
    {payload : Fields} (writable : Json.writableFields payload = true) {document : Document}
    (read : Document.ofFields payload = .ok document) {verdict : Verdict}
    (judged : documentVerdict (Canonical.normalize payload).2 (Canonical.normalize payload).1
      document = .ok verdict) :
    Agrees (.obj payload) verdict [] := by
  have judges := judges_of_documentVerdict judged
  rcases parts_of_documentVerdict judged with ⟨canonical, ⟨text, hash⟩, start⟩
  have form := Document.ofFields_normalize writable
  have silent : verdict.refusals = [] := by
    rw [Verdict.refusals_eq, List.map_eq_nil_iff, List.filter_eq_nil_iff]
    intro finding member
    rw [judges.not_refuses member]
    exact Bool.false_ne_true
  have graph : verdict.ok = true → verdict.graph? = some document := by
    intro sound
    rw [Verdict.graph?, if_pos sound]
    exact judges.held
  constructor
  case fails =>
    constructor
    · intro rejected
      rcases rejected with ⟨rejection, rejected⟩
      cases read.symm.trans rejected
    · intro none
      exact absurd rfl none
  case listed =>
    intro rejection rejected
    cases read.symm.trans rejected
  case reported =>
    rw [← Verdict.refusals_ne_nil_iff, silent]
  case messages =>
    exact silent
  case same =>
    intro other also
    cases read.symm.trans also
    refine ⟨judges.held, graph, (Canonical.normalize payload).1, canonical, form.trans read, ?_⟩
    intro ε request
    constructor
    · rw [Walk.Request.withValue, Walk.Request.withValue, Document.load_normalize writable]
    · intro sound
      have closed := Document.checkStrict_of_closed fun edge member => judges.closed sound member
      rw [Walk.Request.withValue, Document.load_of_ofFields read, closed]
  case sound =>
    exact Verdict.ok_iff
  case complete =>
    intro sound
    rcases judges.exists_start sound with ⟨first, starts⟩
    rw [graph sound, hash, start, Document.flow_start, starts]
    exact ⟨rfl, rfl, rfl⟩

theorem filter_refuses_unsound
    (notes : List Canonical.Note) (errors : List String) (canonical : Option Fields) :
    (unsound (notes.map Finding.normalized ++ errors.map Finding.rejected)
      canonical).findings.filter Finding.refuses = errors.map Finding.rejected := by
  have notesPass : (notes.map Finding.normalized).filter Finding.refuses = [] := by
    simp [Finding.refuses]
  have errorsStay : (errors.map Finding.rejected).filter Finding.refuses =
      errors.map Finding.rejected := by
    simp [Finding.refuses]
  rw [unsound, List.filter_append, notesPass, errorsStay, List.nil_append]

theorem refusals_unsound
    (notes : List Canonical.Note) (errors : List String) (canonical : Option Fields) :
    (unsound (notes.map Finding.normalized ++ errors.map Finding.rejected) canonical).refusals =
      errors := by
  rw [Verdict.refusals_eq, filter_refuses_unsound, List.map_map]
  exact List.map_id errors

theorem verdict_of_writable
    {payload : Fields} (writable : Json.writableFields payload = true) :
    Check.verdict (.obj payload) =
      match Document.ofFields payload with
      | .ok document =>
          documentVerdict (Canonical.normalize payload).2 (Canonical.normalize payload).1 document
      | .error rejection =>
          .ok (unsound ((Canonical.normalize payload).2.map .normalized ++
            rejection.errors.map .rejected) (some (Canonical.normalize payload).1)) := by
  have formed : Canonical.normalize? payload = .ok (Canonical.normalize payload) :=
    if_pos (Canonical.writable_of_writableFields writable)
  -- The verdict reads the canonical form, which is brought into canonical form once more.
  simp only [Check.verdict, formed, bind, Except.bind, Document.ofFields_normalize writable]
  cases read : Document.ofFields payload with
  | ok document =>
      rfl
  | error rejection =>
      rcases Document.exists_problems_of_ofFields writable read with ⟨found, rfl⟩
      rfl

/-- Of a document with half of a surrogate pair in its saved form there is no verdict. -/
theorem exists_unpaired_of_ofFields
    {payload : Fields} (writable : Json.writableFields payload = true) {document : Document}
    (read : Document.ofFields payload = .ok document) {findings : List Finding}
    (checked : edgeFindings document = .ok findings) (broken : ¬document.payload.whole = true) :
    ∃ unpaired, Check.verdict (.obj payload) = .error (.unpaired unpaired) := by
  have saved := Document.writable_payload_of_ofFields writable read
  rcases exists_unpaired saved broken with ⟨unpaired, failed⟩
  refine ⟨unpaired, ?_⟩
  rw [verdict_of_writable writable, read]
  exact documentVerdict_of_hash_error checked failed _ _

/-- A level and an action as an editor may spell them: the kind of the level is called its type, the
edge has no id, and its tag is called a handle. -/
def sketch : Json :=
  .obj [
    ("nodes", .arr [
      .obj [("id", .str "one"), ("type", .str "level")],
      .obj [("id", .str "two"), ("kind", .str "action")]]),
    ("edges", .arr [
      .obj [("source", .str "one"), ("target", .str "two"), ("sourceHandle", .str "branch-1")]])]

def sketched : Document where
  nodes := [
    ⟨"one", "", .level none none [], [], by decide⟩,
    ⟨"two", "", .action [], [], by decide⟩]
  edges := [⟨"one->two", "one", "two", some "branch-1", by decide, by decide, by decide⟩]
  distinct := by decide

theorem ofJson_sketch :
    Document.ofJson sketch = .ok sketched :=
  rfl

def loneHalf : String :=
  String.ofList (Text.Point.ofCode 0xD800).kept

/-- A level with which an editor keeps that half, given as a value. -/
def halvedFields : Fields :=
  [("nodes", .arr [
      .obj [("id", .str "drawn"), ("kind", .str "level"), ("data", .obj [("x", .str loneHalf)])]]),
    ("edges", .arr [])]

def halved : Document :=
  marked [("x", .str loneHalf)]

theorem ofJson_halvedFields :
    Document.ofJson (.obj halvedFields) = .ok halved :=
  rfl

end Check
end WorkflowWalk
