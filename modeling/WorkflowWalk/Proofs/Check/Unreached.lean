import WorkflowWalk.Proofs.Check.Findings
import WorkflowWalk.Proofs.Flow.Gathering

/-!
# Nodes that cannot be reached

The check of the flow lists the nodes that no links lead to from the start. It lists each of them
once, in the order of declaration, and no other node; a document without a start has no such list.
A verdict lists the same nodes, since nothing else that is found has their code.
-/

namespace WorkflowWalk

/-!
## Findings about nodes that cannot be reached
-/

def Diagnostic.isUnreached (diagnostic : Diagnostic) : Bool :=
  diagnostic.code = "CFG_UNREACHABLE_NODE"

def Finding.isUnreached : Finding → Bool
  | .unreachable .. => true
  | _ => false

theorem Finding.isUnreached_diagnostic (finding : Finding) :
    finding.diagnostic.isUnreached = finding.isUnreached := by
  cases finding with
  | normalized note =>
      cases note <;> simp [diagnostic, Diagnostic.isUnreached, isUnreached, Canonical.Note.code]
  | _ =>
      simp [diagnostic, Diagnostic.isUnreached, isUnreached]

theorem Finding.filter_isUnreached_diagnostic (findings : List Finding) :
    (findings.map diagnostic).filter Diagnostic.isUnreached =
      (findings.filter isUnreached).map diagnostic := by
  rw [List.filter_map]
  congr 1
  exact List.filter_congr fun finding _ => finding.isUnreached_diagnostic

theorem Check.ConditionDefect.not_isUnreached
    {node : Node} {branches : List Branch} {edges : List Edge} {finding : Finding}
    (defect : ConditionDefect node branches edges finding) :
    finding.isUnreached = false := by
  cases defect <;> rfl

theorem Check.PlainDefect.not_isUnreached
    {node : Node} {edges : List Edge} {finding : Finding}
    (defect : PlainDefect node edges finding) :
    finding.isUnreached = false := by
  cases defect <;> rfl

namespace Check

variable {document : Document}

theorem filter_isUnreached_startFindings (document : Document) :
    (startFindings document document.flow).filter Finding.isUnreached = [] := by
  rw [List.filter_eq_nil_iff]
  intro finding member
  rcases mem_startFindings_iff.mp member with ⟨_, rfl⟩ | ⟨_, _, rfl⟩ | ⟨_, _, _, rfl⟩
  all_goals exact Bool.false_ne_true

theorem filter_isUnreached_unreachableFindings (document : Document) :
    (unreachableFindings document document.flow).filter Finding.isUnreached =
      unreachableFindings document document.flow := by
  rw [List.filter_eq_self]
  intro finding member
  rcases mem_unreachableFindings member with ⟨_, _, rfl, _⟩
  rfl

theorem filter_isUnreached_flowFindings (document : Document) :
    (flowFindings document document.flow).filter Finding.isUnreached =
      unreachableFindings document document.flow := by
  have aboutCycle : (document.flow.cycle.map Finding.cycle).toList.filter Finding.isUnreached =
      [] := by
    cases document.flow.cycle <;> rfl
  rw [flowFindings, List.filter_append, List.filter_append, filter_isUnreached_startFindings,
    filter_isUnreached_unreachableFindings, aboutCycle, List.append_nil, List.nil_append]

theorem filter_isUnreached_edgeFindings
    {findings : List Finding} (checked : edgeFindings document = .ok findings) :
    findings.filter Finding.isUnreached = [] := by
  rw [List.filter_eq_nil_iff]
  intro finding member
  rw [Bool.not_eq_true]
  rcases (mem_edgeFindings_iff checked).mp member with
    ⟨edge, _, ends⟩ | ⟨node, _, ⟨branches, _, defect⟩ | ⟨_, defect⟩⟩
  · rcases mem_endFindings_iff.mp ends with ⟨_, rfl⟩ | ⟨_, rfl⟩
    · rfl
    · rfl
  · exact defect.not_isUnreached
  · exact defect.not_isUnreached

theorem Judges.filter_isUnreached
    {verdict : Verdict} {notes : List Canonical.Note} (judges : Judges verdict notes document) :
    verdict.findings.filter Finding.isUnreached =
      (flowFindings document document.flow).filter Finding.isUnreached := by
  rcases judges.found with ⟨edges, checked, all⟩
  have aboutForm : (notes.map Finding.normalized).filter Finding.isUnreached = [] := by
    rw [List.filter_eq_nil_iff]
    intro finding member
    rcases List.mem_map.mp member with ⟨note, _, rfl⟩
    exact Bool.false_ne_true
  rw [all, List.filter_append, List.filter_append, aboutForm,
    filter_isUnreached_edgeFindings checked, List.append_nil, List.nil_append]

theorem exists_judges_of_held
    {value : Json} {verdict : Verdict} (judged : Check.verdict value = .ok verdict)
    (held : verdict.document = some document) :
    ∃ notes, Judges verdict notes document := by
  cases value with
  | obj payload =>
      cases formed : Canonical.normalize? payload with
      | error =>
          simp only [Check.verdict, formed, bind, Except.bind] at judged
          cases judged
      | ok form =>
          simp only [Check.verdict, formed, bind, Except.bind] at judged
          split at judged
          · have judges := judges_of_documentVerdict judged
            rw [judges.held, Option.some.injEq] at held
            exact ⟨form.2, held ▸ judges⟩
          · cases judged
          · cases judged
            cases held
  | null | bool | int | float | str | arr =>
      cases judged
      cases held

end Check

/-!
## What is listed
-/

namespace Document

variable {document : Document}

theorem successors_followableLinks
    {node : Node} (member : node ∈ document.nodes) :
    document.followableLinks.successors node.id = document.followableTargets node := by
  apply Links.successors_of_mem
  · rw [sources_followableLinks]
    exact document.distinct
  · exact List.mem_map_of_mem member

/-- Of some diagnostics, those about nodes that cannot be reached are one for each such node, in the
order of declaration. -/
structure ListsUnreached (document : Document) (diagnostics : List Diagnostic) : Prop where
  startless : document.start? = none → diagnostics.filter Diagnostic.isUnreached = []
  started : ∀ start, document.start? = some start → ∃ ids : List String,
    diagnostics.filter Diagnostic.isUnreached =
        ids.map (fun id => (Finding.unreachable id start.id).diagnostic) ∧
      ids.Sublist document.nodeIds ∧ ids.Nodup ∧
      ∀ id, id ∈ ids ↔
        id ∈ document.nodeIds ∧ ¬document.followableLinks.Reaches start.id id

theorem listsUnreached_of_filter
    {findings : List Finding}
    (same : findings.filter Finding.isUnreached =
      Check.unreachableFindings document document.flow) :
    document.ListsUnreached (findings.map Finding.diagnostic) := by
  constructor
  · intro startless
    rw [Finding.filter_isUnreached_diagnostic, same, Check.unreachableFindings, flow_start,
      startless]
    rfl
  · intro start starts
    refine ⟨document.nodeIds.filter (!document.flow.reachable.contains ·), ?_, ?_, ?_, ?_⟩
    · rw [Finding.filter_isUnreached_diagnostic, same, Check.unreachableFindings, flow_start,
        starts, Option.map_some, List.map_map]
      rfl
    · exact List.filter_sublist
    · exact document.distinct.filter _
    · intro id
      rw [List.mem_filter, ← mem_flow_reachable starts]
      simp

theorem flow_reachable
    {start : Node} (starts : document.start? = some start) :
    document.flow.reachable = document.followableLinks.reachable start.id := by
  have first := document.flow_start
  rw [starts, Option.map_some] at first
  exact congrArg (Option.elim · [] document.followableLinks.reachable) first

/-- The search goes along the edges that can be followed from the start, and what it does not reach
is listed by the check of the flow and by every verdict on the document. -/
structure TellsReach (document : Document) : Prop where
  along : ∀ node ∈ document.nodes,
    document.followableLinks.successors node.id = document.followableTargets node
  searched : ∀ start, document.start? = some start →
    document.flow.reachable = document.followableLinks.reachable start.id
  found : document.ListsUnreached
    ((Check.flowFindings document document.flow).map Finding.diagnostic)
  judged : ∀ value verdict, Check.verdict value = .ok verdict → verdict.document = some document →
    document.ListsUnreached verdict.diagnostics

theorem tellsReach (document : Document) :
    document.TellsReach where
  along _ member := successors_followableLinks member
  searched _ starts := flow_reachable starts
  found := listsUnreached_of_filter (Check.filter_isUnreached_flowFindings document)
  judged value verdict judged held := by
    rcases Check.exists_judges_of_held judged held with ⟨notes, judges⟩
    apply listsUnreached_of_filter
    rw [judges.filter_isUnreached, Check.filter_isUnreached_flowFindings]

/-- From every id the loop comes to an end, and what it has found is the least set of ids that holds
the first one and all that its ids lead to: the ids that links lead to from there, nodes or not. So
the nodes that are listed are those that no links lead to from the start. -/
theorem unreached_listed :
    (∀ (links : Links) (start : String), ∃ found, links.Gathered start found) ∧
      ∀ document : Document, document.TellsReach :=
  ⟨fun links start => links.exists_gathered start, tellsReach⟩

end Document
end WorkflowWalk
