import WorkflowWalk.Check.Verdict
import WorkflowWalk.Proofs.Check.Edges
import WorkflowWalk.Proofs.Check.Flow
import WorkflowWalk.Proofs.Document.Canonical
import WorkflowWalk.Proofs.Document.Reader

/-!
# What a sound verdict says

A verdict is sound if nothing that was found is an error. Then the value is a document, also a
strict one, it has a start, and every edge leads to a node. Two findings that are no errors matter
too: if no cycle was found there is none, and if no condition lacks an edge for the other case each
has one.
-/

namespace WorkflowWalk

/-!
## Documents that are taken in
-/

namespace Document

theorem ofFields_of_canonical
    {payload canonical : Fields} {notes : List Canonical.Note} {document : Document}
    (formed : Canonical.normalize? payload = .ok (canonical, notes))
    (read : ofFields canonical = .ok document) :
    ofFields payload = .ok document := by
  have form : (Canonical.normalize payload).1 = canonical := by
    unfold Canonical.normalize? at formed
    split at formed
    · rw [Except.ok.injEq] at formed
      rw [formed]
    · cases formed
  have again := Canonical.normalize_normalize payload
  rw [form] at again
  unfold ofFields Canonical.normalize? at read
  unfold ofFields
  rw [formed]
  split at read
  · cases read
  · rename_i other _ twice
    split at twice
    · rw [again, Except.ok.injEq, Prod.mk.injEq] at twice
      rw [← twice.1] at read
      exact read
    · cases twice

theorem checkStrict_of_closed
    {document : Document}
    (closed : ∀ edge ∈ document.edges,
      edge.source ∈ document.nodeIds ∧ edge.target ∈ document.nodeIds)
    (strict : Bool) :
    checkStrict strict document = .ok document := by
  apply checkStrict_of_tight
  rw [List.eq_nil_iff_forall_not_mem]
  rintro ⟨edge, missing⟩ loose
  rcases mem_dangling_iff.mp loose with ⟨member, rfl | rfl, unknown⟩
  · exact unknown (closed edge member).1
  · exact unknown (closed edge member).2

end Document

/-!
## Verdicts without errors
-/

namespace Verdict

theorem not_error_of_ok
    {verdict : Verdict} (sound : verdict.ok = true) {finding : Finding}
    (member : finding ∈ verdict.findings) :
    finding.severity ≠ .error := by
  intro severe
  have among : finding.diagnostic ∈ verdict.errors := by
    unfold errors diagnostics
    rw [List.mem_filter]
    exact ⟨List.mem_map_of_mem member, decide_eq_true severe⟩
  unfold ok at sound
  rw [List.isEmpty_iff] at sound
  rw [sound] at among
  cases among

def Reports (verdict : Verdict) (code : String) : Prop :=
  ∃ diagnostic ∈ verdict.diagnostics, diagnostic.code = code

theorem reports_of_mem
    {verdict : Verdict} {finding : Finding} (member : finding ∈ verdict.findings) :
    verdict.Reports finding.diagnostic.code :=
  ⟨finding.diagnostic, List.mem_map_of_mem member, rfl⟩

end Verdict

namespace Check

/-- A verdict is the one on a document, which may have taken changes. -/
structure Judges (verdict : Verdict) (notes : List Canonical.Note) (document : Document) :
    Prop where
  held : verdict.document = some document
  found : ∃ edges, edgeFindings document = .ok edges ∧
    verdict.findings =
      notes.map .normalized ++ edges ++ flowFindings document document.flow

theorem judges_of_documentVerdict
    {notes : List Canonical.Note} {canonical : Fields} {document : Document} {verdict : Verdict}
    (judged : documentVerdict notes canonical document = .ok verdict) :
    Judges verdict notes document := by
  unfold documentVerdict at judged
  cases checked : edgeFindings document with
  | error =>
      rw [checked] at judged
      cases judged
  | ok edges =>
      cases hashed : hash document with
      | error =>
          rw [checked, hashed] at judged
          cases judged
      | ok hash =>
          rw [checked, hashed] at judged
          cases judged
          exact ⟨rfl, edges, checked, rfl⟩

theorem parts_of_documentVerdict
    {notes : List Canonical.Note} {canonical : Fields} {document : Document} {verdict : Verdict}
    (judged : documentVerdict notes canonical document = .ok verdict) :
    verdict.canonical = some canonical ∧ (∃ text, verdict.hash = some text) ∧
      verdict.start = document.flow.start := by
  rcases ok_of_bind judged with ⟨edges, _, hashing⟩
  rcases ok_of_bind hashing with ⟨text, _, made⟩
  cases made
  exact ⟨rfl, ⟨text, rfl⟩, rfl⟩

theorem exists_documentVerdict
    {document : Document} {edges : List Finding} (checked : edgeFindings document = .ok edges)
    {text : String} (hashed : hash document = .ok text) (notes : List Canonical.Note)
    (canonical : Fields) :
    ∃ verdict, documentVerdict notes canonical document = .ok verdict := by
  unfold documentVerdict
  rw [checked, hashed]
  exact ⟨_, rfl⟩

theorem documentVerdict_of_hash_error
    {document : Document} {edges : List Finding} (checked : edgeFindings document = .ok edges)
    {fault : Numeral.Fault} (failed : hash document = .error fault) (notes : List Canonical.Note)
    (canonical : Fields) :
    documentVerdict notes canonical document = .error fault := by
  unfold documentVerdict
  rw [checked, failed]
  rfl

theorem not_ok_unsound
    {findings : List Finding} {finding : Finding} (member : finding ∈ findings)
    (severe : finding.severity = .error) (canonical : Option Fields) :
    (unsound findings canonical).ok ≠ true := by
  intro sound
  exact Verdict.not_error_of_ok sound member severe

theorem judges_of_ok
    {payload canonical : Fields} {notes : List Canonical.Note} {verdict : Verdict}
    (formed : Canonical.normalize? payload = .ok (canonical, notes))
    (judged : Check.verdict (.obj payload) = .ok verdict) (sound : verdict.ok = true) :
    ∃ document, Document.ofFields canonical = .ok document ∧ Judges verdict notes document := by
  simp only [Check.verdict, formed, bind, Except.bind] at judged
  split at judged
  · rename_i document read
    exact ⟨document, read, judges_of_documentVerdict judged⟩
  · cases judged
  · rename_i rejection _ read
    have said := Document.errors_ne_nil_of_ofFields read
    rcases List.exists_mem_of_ne_nil _ said with ⟨error, member⟩
    cases judged
    have found := List.mem_append_right (notes.map Finding.normalized)
      (List.mem_map_of_mem member : Finding.rejected error ∈ _)
    exact absurd sound (not_ok_unsound found rfl _)

theorem exists_document_of_ok
    {value : Json} {verdict : Verdict} (judged : Check.verdict value = .ok verdict)
    (sound : verdict.ok = true) :
    ∃ payload notes document, value = .obj payload ∧ Document.ofFields payload = .ok document ∧
      Judges verdict notes document := by
  cases value with
  | obj payload =>
      cases formed : Canonical.normalize? payload with
      | error =>
          simp only [Check.verdict, formed, bind, Except.bind] at judged
          cases judged
      | ok form =>
          rcases judges_of_ok formed judged sound with ⟨document, read, judges⟩
          exact ⟨payload, form.2, document, rfl, Document.ofFields_of_canonical formed read, judges⟩
  | null | bool | int | float | str | arr =>
      cases judged
      exact absurd sound (not_ok_unsound List.mem_cons_self rfl _)

theorem exists_judges
    {payload canonical : Fields} {notes : List Canonical.Note} {document : Document}
    {edges : List Finding} (formed : Canonical.normalize? payload = .ok (canonical, notes))
    (read : Document.ofFields canonical = .ok document)
    (checked : edgeFindings document = .ok edges) {text : String}
    (hashed : hash document = .ok text) :
    ∃ verdict, Check.verdict (.obj payload) = .ok verdict ∧ Judges verdict notes document := by
  rcases exists_documentVerdict checked hashed notes canonical with ⟨verdict, judged⟩
  refine ⟨verdict, ?_, judges_of_documentVerdict judged⟩
  simp only [Check.verdict, formed, bind, Except.bind, read]
  exact judged

/-!
## What sound verdicts say of documents
-/

namespace Judges

variable {verdict : Verdict} {notes : List Canonical.Note} {document : Document}

theorem mem_of_edges
    (judges : Judges verdict notes document) :
    ∃ edges, edgeFindings document = .ok edges ∧
      ∀ finding ∈ edges, finding ∈ verdict.findings := by
  rcases judges.found with ⟨edges, checked, all⟩
  refine ⟨edges, checked, ?_⟩
  intro finding member
  rw [all]
  exact List.mem_append_left _ (List.mem_append_right _ member)

theorem mem_of_flow
    (judges : Judges verdict notes document) {finding : Finding}
    (member : finding ∈ flowFindings document document.flow) :
    finding ∈ verdict.findings := by
  rcases judges.found with ⟨edges, _, all⟩
  rw [all]
  exact List.mem_append_right _ member

theorem closed
    (judges : Judges verdict notes document) (sound : verdict.ok = true) {edge : Edge}
    (member : edge ∈ document.edges) :
    edge.source ∈ document.nodeIds ∧ edge.target ∈ document.nodeIds := by
  rcases judges.mem_of_edges with ⟨findings, checked, among⟩
  rcases ok_of_map checked with ⟨perNode, _, rfl⟩
  have found : ∀ finding ∈ endFindings document edge, finding ∈ verdict.findings := by
    intro finding here
    exact among finding (List.mem_append_left _ (List.mem_flatMap.mpr ⟨edge, member, here⟩))
  constructor
  · rw [← Document.hasNode_iff]
    cases known : document.hasNode edge.source with
    | true =>
        rfl
    | false =>
        have here : Finding.unknownSource edge ∈ endFindings document edge := by
          simp [endFindings, known]
        exact absurd rfl (Verdict.not_error_of_ok sound (found _ here))
  · rw [← Document.hasNode_iff]
    cases known : document.hasNode edge.target with
    | true =>
        rfl
    | false =>
        have here : Finding.unknownTarget edge ∈ endFindings document edge := by
          simp [endFindings, known]
        exact absurd rfl (Verdict.not_error_of_ok sound (found _ here))

theorem exists_start
    (judges : Judges verdict notes document) (sound : verdict.ok = true) :
    ∃ start, document.start? = some start := by
  have quiet : ∀ finding ∈ startFindings document document.flow, finding.severity ≠ .error := by
    intro finding member
    exact Verdict.not_error_of_ok sound
      (judges.mem_of_flow (List.mem_append_left _ (List.mem_append_left _ member)))
  cases starts : document.start? with
  | some start =>
      exact ⟨start, rfl⟩
  | none =>
      have none : document.flow.candidates = [] := by
        unfold Document.start? at starts
        rw [List.head?_eq_none_iff] at starts
        unfold Document.flow
        rw [starts]
        rfl
      unfold startFindings at quiet
      rw [none] at quiet
      cases listed : document.nodes with
      | nil =>
          rw [listed] at quiet
          exact absurd rfl (quiet .noNodes List.mem_cons_self)
      | cons node rest =>
          rw [listed] at quiet
          exact absurd rfl (quiet .noStart List.mem_cons_self)

theorem acyclic
    (judges : Judges verdict notes document) (silent : ¬verdict.Reports "CFG_LOOP_DETECTED") :
    document.followableLinks.Acyclic := by
  apply Document.acyclic_of_flow
  cases cycle : document.flow.cycle with
  | none =>
      rfl
  | some ids =>
      have found := cycle_mem_flowFindings.mpr cycle
      exact absurd (Verdict.reports_of_mem (judges.mem_of_flow found)) silent

theorem not_mem_tags_of_tagged?
    {edges : List Edge} {tag : String} (none : Document.tagged? edges tag = none) :
    tag ∉ edges.filterMap tag? := by
  intro member
  rcases List.mem_filterMap.mp member with ⟨edge, among, tagged⟩
  have same : edge.tag = some tag := (tag?_eq_some.mp tagged).1
  have passed := List.find?_eq_none.mp none edge among
  exact passed (decide_eq_true same)

theorem exists_otherwise
    (judges : Judges verdict notes document) (silent : ¬verdict.Reports "CONDITION_NO_ELSE")
    {node : Node} (member : node ∈ document.nodes) {branches : List Branch}
    (held : node.branches? = some branches) :
    ∃ edge, Document.tagged? (document.outgoing node.id) BranchTag.otherwise = some edge := by
  rcases judges.mem_of_edges with ⟨findings, checked, among⟩
  rcases exists_nodeFindings checked member with ⟨own, nodeChecked, kept⟩
  unfold nodeFindings at nodeChecked
  rw [held] at nodeChecked
  rcases ok_of_map nodeChecked with ⟨perEdge, _, rfl⟩
  cases tagged : Document.tagged? (document.outgoing node.id) BranchTag.otherwise with
  | some edge =>
      exact ⟨edge, rfl⟩
  | none =>
      have missing : ((document.outgoing node.id).filterMap tag?).contains BranchTag.otherwise =
          false := by
        rw [List.contains_eq_mem]
        exact decide_eq_false (not_mem_tags_of_tagged? tagged)
      rw [missing] at kept
      have last : Finding.noOtherwise node ∈ verdict.findings :=
        among _ (kept _ (List.mem_append_right _ List.mem_cons_self))
      exact absurd (Verdict.reports_of_mem last) silent

end Judges
end Check
end WorkflowWalk
