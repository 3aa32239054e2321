import WorkflowWalk.Proofs.Check.Agreement

/-!
# Defects and verdicts

There is a verdict on every value without halves of surrogate pairs, and it says why the value is no
document or all that is wrong with the document. Only a tag with more digits than can be read, on an
edge out of a condition, keeps the check from its end. Then there is no verdict at all.
-/

namespace WorkflowWalk

open Document

namespace Check

section Verdicts

variable {document : Document} {verdict : Verdict} {notes : List Canonical.Note}

theorem exists_fault_of_endless
    {payload : Fields} (writable : Json.writableFields payload = true)
    (read : Document.ofFields payload = .ok document) (endless : document.HasEndlessTag) :
    ∃ fault, Check.verdict (.obj payload) = .error fault := by
  rcases edgeFindings_error_iff.mpr endless with ⟨fault, failed⟩
  refine ⟨fault, ?_⟩
  rw [verdict_of_writable writable, read]
  simp only [documentVerdict, failed]
  rfl

/-- Of a document without such a tag there is a verdict, if its saved form has no half of a surrogate
pair in it. -/
theorem exists_verdict
    {payload : Fields} (writable : Json.writableFields payload = true)
    (read : Document.ofFields payload = .ok document) (readable : ¬document.HasEndlessTag)
    (whole : document.payload.whole = true) :
    ∃ verdict, Check.verdict (.obj payload) = .ok verdict ∧
      Judges verdict (Canonical.normalize payload).2 document := by
  cases checked : edgeFindings document with
  | error fault =>
      exact absurd (edgeFindings_error_iff.mp ⟨fault, checked⟩) readable
  | ok findings =>
      rcases exists_hash (Document.writable_payload_of_ofFields writable read) whole with
        ⟨text, hashed⟩
      rcases exists_documentVerdict checked hashed (Canonical.normalize payload).2
        (Canonical.normalize payload).1 with ⟨verdict, made⟩
      refine ⟨verdict, ?_, judges_of_documentVerdict made⟩
      rw [verdict_of_writable writable, read]
      exact made

theorem exists_fault
    {payload : Fields} (writable : Json.writableFields payload = true)
    (read : Document.ofFields payload = .ok document)
    (broken : ¬(¬document.HasEndlessTag ∧ document.payload.whole = true)) :
    ∃ fault, Check.verdict (.obj payload) = .error fault := by
  by_cases endless : document.HasEndlessTag
  · exact exists_fault_of_endless writable read endless
  · cases checked : edgeFindings document with
    | error fault =>
        exact absurd (edgeFindings_error_iff.mp ⟨fault, checked⟩) endless
    | ok findings =>
        have halved : ¬document.payload.whole = true := fun whole => broken ⟨endless, whole⟩
        rcases exists_unpaired_of_ofFields writable read checked halved with ⟨unpaired, failed⟩
        exact ⟨_, failed⟩

def changes : Json → List Canonical.Note
  | .obj payload => (Canonical.normalize payload).2
  | _ => []

/-- The verdict on a document says all that is wrong with it, and no more. -/
structure Exposes (verdict : Verdict) (notes : List Canonical.Note) (document : Document) :
    Prop where
  held : verdict.document = some document
  told : ∀ finding, finding ∈ verdict.findings ↔
    (∃ note ∈ notes, finding = .normalized note) ∨ document.Defect finding
  cyclic : (∃ ids, .cycle ids ∈ verdict.findings) ↔ ¬document.followableLinks.Acyclic

/-- Of every value without halves of surrogate pairs there is a verdict, which says why it is no
document or all that is wrong with it as a document, except for a document with a tag that is too
long to be read: of that there is none. -/
theorem verdict_exposes_defects
    {value : Json} (writable : value.writable = true) (whole : value.whole = true) :
    match Document.ofJson value with
    | .error rejection =>
        ∃ verdict, Check.verdict value = .ok verdict ∧ verdict.ok = false ∧
          verdict.refusals = rejection.errors ∧ rejection.errors ≠ []
    | .ok document =>
        (document.HasEndlessTag ∧ ∃ fault, Check.verdict value = .error fault) ∨
          (¬document.HasEndlessTag ∧ ∃ verdict, Check.verdict value = .ok verdict ∧
            Exposes verdict (changes value) document) := by
  cases value with
  | obj payload =>
      rw [Document.ofJson]
      cases read : Document.ofFields payload with
      | error rejection =>
          have judged := verdict_of_writable writable
          rw [read] at judged
          have said := Document.errors_ne_nil_of_ofFields read
          rcases List.exists_mem_of_ne_nil _ said with ⟨error, member⟩
          have found := List.mem_append_right ((Canonical.normalize payload).2.map .normalized)
            (List.mem_map_of_mem member : Finding.rejected error ∈ _)
          exact ⟨_, judged, Bool.eq_false_iff.mpr (not_ok_unsound found rfl _),
            refusals_unsound _ _ _, said⟩
      | ok document =>
          by_cases endless : document.HasEndlessTag
          · exact Or.inl ⟨endless, exists_fault_of_endless writable read endless⟩
          · have saved := Document.whole_payload_of_ofFields whole read
            rcases exists_verdict writable read endless saved with ⟨verdict, made, judges⟩
            exact Or.inr ⟨endless, verdict, made, judges.held,
              fun finding => judges.mem_findings_iff, judges.reports_cycle_iff⟩
  | null | bool | int | float | str | arr =>
      exact ⟨_, rfl, rfl, rfl, List.cons_ne_nil _ _⟩

def taggedValue (tag : String) : Json :=
  .obj [
    ("nodes", .arr [
      .obj [("id", .str "gate"), ("kind", .str "condition"),
        ("data", .obj [("branches", .arr [
          .obj [("name", .str "adult"), ("condition", .str "age >= 18")]])])],
      .obj [("id", .str "pass"), ("kind", .str "action"), ("data", .obj [])],
      .obj [("id", .str "wait"), ("kind", .str "level"), ("data", .obj [])]]),
    ("edges", .arr [
      .obj [("id", .str "g1"), ("source", .str "gate"), ("target", .str "pass"),
        ("branchTag", .str tag)],
      .obj [("id", .str "g2"), ("source", .str "gate"), ("target", .str "wait"),
        ("branchTag", .str "else")]])]

def taggedGate : Node :=
  ⟨"gate", "", .condition [⟨"adult", "age >= 18"⟩], [], by decide⟩

def taggedEdge (tag : String) : Edge :=
  ⟨"g1", "gate", "pass", some tag, by decide, by decide, by decide⟩

def taggedDocument (tag : String) : Document where
  nodes := [
    taggedGate,
    ⟨"pass", "", .action [], [], by decide⟩,
    ⟨"wait", "", .level none none [], [], by decide⟩]
  edges := [
    taggedEdge tag,
    ⟨"g2", "gate", "wait", some "else", by decide, by decide, by decide⟩]
  distinct := by decide

theorem ofJson_taggedValue (tag : String) :
    Document.ofJson (taggedValue tag) = .ok (taggedDocument tag) :=
  rfl

theorem verdict_exposes_defects_stray :
    (taggedValue "branch-7").writable = true ∧ (taggedValue "branch-7").whole = true ∧
      Document.ofJson (taggedValue "branch-7") = .ok (taggedDocument "branch-7") ∧
      ∃ verdict, Check.verdict (taggedValue "branch-7") = .ok verdict ∧
        .tagInvalid (taggedEdge "branch-7") "branch-7" taggedGate 1 ∈ verdict.findings := by
  have short : ∀ edge ∈ (taggedDocument "branch-7").edges, ∀ tag, edge.tag = some tag →
      ¬BranchTag.Endless tag := by
    intro edge member tag tagged
    simp only [taggedDocument, List.mem_cons, List.not_mem_nil, or_false] at member
    rcases member with rfl | rfl
    · cases tagged
      have digits : BranchTag.digits? "branch-7" = some [7] := rfl
      exact BranchTag.not_endless digits (by decide)
    · cases tagged
      rintro ⟨digits, found, _⟩
      cases found
  have spelt : ¬BranchTag.Misspelt 1 "branch-7" := by
    rintro ⟨index, within, read, _⟩
    have seven : BranchTag.index? "branch-7" = .ok (some 7) := rfl
    rw [seven] at read
    cases read
    omega
  have writable : (taggedValue "branch-7").writable = true := rfl
  have whole : (taggedValue "branch-7").whole = true := by decide +kernel
  have exposed := verdict_exposes_defects writable whole
  rw [ofJson_taggedValue] at exposed
  rcases exposed with ⟨endless, _⟩ | ⟨_, verdict, judged, exposes⟩
  · rcases endless with ⟨_, _, _, _, edge, leaving, tag, tagged, endless⟩
    exact absurd endless (short edge (List.mem_filter.mp leaving).1 tag tagged)
  · have defect : ConditionDefect taggedGate [⟨"adult", "age >= 18"⟩]
        ((taggedDocument "branch-7").outgoing "gate")
        (.tagInvalid (taggedEdge "branch-7") "branch-7" taggedGate 1) :=
      .tagInvalid List.mem_cons_self rfl (by decide) spelt
    exact ⟨writable, whole, ofJson_taggedValue _, verdict, judged,
      (exposes.told _).mpr (Or.inr (.condition List.mem_cons_self rfl defect))⟩

/-- A tag of 4301 ones. -/
def longTag : String :=
  BranchTag.lead ++ String.ofList (List.replicate (Numeral.digitLimit + 1) '1')

theorem whole_longTag : Text.Whole longTag := by
  apply Text.Ascii.whole
  intro c member
  rw [longTag, String.toList_append, String.toList_ofList, List.mem_append] at member
  rcases member with lead | one
  · have ascii : Text.Ascii BranchTag.lead := by decide
    exact ascii c lead
  · rw [List.eq_of_mem_replicate one]
    decide

theorem whole_taggedValue
    {tag : String} (whole : Text.Whole tag) :
    (taggedValue tag).whole = true := by
  simp only [taggedValue, Json.whole, Json.wholeItems, Json.wholeFields, whole, decide_true,
    Bool.and_true]
  decide +kernel

/-- The tag of 4301 ones is not reported: there is no verdict. -/
theorem verdict_fails_longTag :
    (taggedValue longTag).writable = true ∧ (taggedValue longTag).whole = true ∧
      Document.ofJson (taggedValue longTag) = .ok (taggedDocument longTag) ∧
      ∃ fault, Check.verdict (taggedValue longTag) = .error fault := by
  have endless : BranchTag.Endless longTag := BranchTag.endless_replicate (Nat.le_refl _)
  refine ⟨rfl, whole_taggedValue whole_longTag, ofJson_taggedValue _,
    exists_fault_of_endless rfl (ofJson_taggedValue _) ?_⟩
  exact ⟨taggedGate, List.mem_cons_self, _, rfl, taggedEdge longTag, List.mem_cons_self, _, rfl,
    endless⟩

end Verdicts

end Check
end WorkflowWalk
