import WorkflowWalk.Choice
import WorkflowWalk.Flow.Paths

/-!
# Decisions and the edges that can be followed

A decision fails only over an integer that has no decimal text, so in a context without such
integers there is a decision at every node. It follows one of the edges that are counted as
followable, and there is none only where a walk has to end.
-/

namespace WorkflowWalk

/-!
## Contexts whose integers have texts
-/

/-- Every integer among the values of a context has a decimal text within the limit. -/
def Context.Writable (context : Context) : Prop :=
  ∀ entry ∈ context, entry.2.writable = true

theorem Context.writable_nil : Context.Writable [] :=
  fun _ member => absurd member List.not_mem_nil

theorem Context.Writable.get?
    {context : Context} {field : String} {value : Json}
    (writable : context.Writable) (found : context.get? field = some value) :
    value.writable = true := by
  induction context with
  | nil =>
      cases found
  | cons entry rest ih =>
      rcases entry with ⟨key, first⟩
      rw [Context.get?_cons] at found
      split at found
      · cases found
        exact writable (key, value) List.mem_cons_self
      · exact ih (fun entry member => writable entry (List.mem_cons_of_mem _ member)) found

theorem Context.Writable.present?
    {context : Context} {field : String} {value : Json}
    (writable : context.Writable) (found : present? context field = some value) :
    value.writable = true := by
  unfold WorkflowWalk.present? at found
  split at found
  · cases found
  · cases found
  · rename_i filed
    cases found
    exact writable.get? filed

/-!
## Evaluation does not fail

Only equality asks for a text of a value, and only an integer can lack one.
-/

theorem Json.shown?_of_writable
    {value : Json} (writable : value.writable = true) :
    value.shown? = .ok value.shown := by
  rw [Json.shown?, if_pos writable]

theorem Condition.asText_of_writable
    {value : Json} (writable : value.writable = true) :
    ∃ text, Condition.asText value = .ok text := by
  cases value with
  | bool _ =>
      exact ⟨_, rfl⟩
  | float _ =>
      exact ⟨_, rfl⟩
  | null | int _ | str _ | arr _ | obj _ =>
      exact ⟨_, Json.shown?_of_writable writable⟩

theorem Operator.sameText_of_writable
    {actual expected : Json}
    (writable : actual.writable = true) (literal : expected.writable = true) :
    ∃ same, Operator.sameText actual expected = .ok same := by
  rcases Condition.asText_of_writable writable with ⟨left, leftText⟩
  rcases Condition.asText_of_writable literal with ⟨right, rightText⟩
  exact ⟨Text.lower left == Text.lower right, by
    rw [Operator.sameText, leftText, rightText]
    rfl⟩

theorem Operator.holds_of_writable
    (operator : Operator) {actual expected : Json}
    (writable : actual.writable = true) (literal : expected.writable = true) :
    ∃ result, operator.holds actual expected = .ok result := by
  rcases Operator.sameText_of_writable writable literal with ⟨same, compared⟩
  cases operator with
  | equals | same =>
      exact ⟨same, compared⟩
  | differs =>
      exact ⟨!same, by rw [Operator.holds, compared]; rfl⟩
  | above | below | atLeast | atMost =>
      exact ⟨_, rfl⟩

theorem Condition.holds_of_writable
    {context : Context} (writable : context.Writable) (condition? : Option Condition) :
    ∃ result, Condition.holds condition? context = .ok result := by
  cases condition? with
  | none =>
      exact ⟨false, rfl⟩
  | some condition =>
      cases found : present? context condition.field with
      | none =>
          exact ⟨false, by simp [Condition.holds, Condition.evaluate, found]⟩
      | some actual =>
          have literal : (Json.str condition.value).writable = true := rfl
          rcases condition.operator.holds_of_writable (writable.present? found) literal with
            ⟨result, held⟩
          exact ⟨result, by simp [Condition.holds, Condition.evaluate, found, held]⟩

/-!
## Edges that are found by their tags
-/

namespace Document

theorem mem_of_tagged?
    {edges : List Edge} {tag : String} {edge : Edge} (found : tagged? edges tag = some edge) :
    edge ∈ edges :=
  List.mem_of_find?_eq_some found

theorem tag_of_tagged?
    {edges : List Edge} {tag : String} {edge : Edge} (found : tagged? edges tag = some edge) :
    edge.tag = some tag := by
  have carries := List.find?_some found
  exact of_decide_eq_true carries

end Document

/-!
## Decisions exist
-/

namespace Decision

open Document

theorem amongBranches_cons
    (edges : List Edge) {context : Context} {branch : Branch} {result : Bool}
    (held : Condition.holds (Condition.parse? branch.condition) context = .ok result)
    (index : Nat) (rest : List Branch) :
    (result = true ∧ ∃ edge, tagged? edges (BranchTag.branch index) = some edge ∧
      amongBranches edges context index (branch :: rest) =
        .ok (some ⟨edge, some branch.name, some branch.condition⟩)) ∨
    ((result = true → tagged? edges (BranchTag.branch index) = none) ∧
      amongBranches edges context index (branch :: rest) =
        amongBranches edges context (index + 1) rest) := by
  cases result with
  | false =>
      refine Or.inr ⟨by simp, ?_⟩
      rw [amongBranches, held]
      rfl
  | true =>
      cases found : tagged? edges (BranchTag.branch index) with
      | none =>
          refine Or.inr ⟨fun _ => rfl, ?_⟩
          rw [amongBranches, held, found]
          rfl
      | some edge =>
          refine Or.inl ⟨rfl, edge, rfl, ?_⟩
          rw [amongBranches, held, found]
          rfl

theorem amongBranches_of_writable
    {context : Context} (writable : context.Writable) (edges : List Edge) (branches : List Branch)
    (index : Nat) :
    ∃ decision, amongBranches edges context index branches = .ok decision := by
  induction branches generalizing index with
  | nil =>
      exact ⟨_, rfl⟩
  | cons branch rest ih =>
      rcases Condition.holds_of_writable writable (Condition.parse? branch.condition) with
        ⟨result, held⟩
      rcases amongBranches_cons edges held index rest with
        ⟨_, edge, _, taken⟩ | ⟨_, passed⟩
      · exact ⟨_, taken⟩
      · rw [passed]
        exact ih (index + 1)

theorem resolve_of_writable
    {context : Context} (writable : context.Writable) (document : Document) (node : Node) :
    ∃ decision, resolve document context node = .ok decision := by
  cases held : node.branches? with
  | none =>
      exact ⟨_, by rw [resolve, held]⟩
  | some branches =>
      rcases amongBranches_of_writable writable (document.outgoing node.id) branches 0 with
        ⟨decision, decided⟩
      exact ⟨decision, by rw [resolve, held]; exact decided⟩

/-!
## Decisions follow followable edges
-/

theorem mem_usableTags_branch
    {index branches : Nat} (inRange : index < branches) :
    BranchTag.branch index ∈ usableTags branches :=
  List.mem_append_left _ (List.mem_map.mpr ⟨index, List.mem_range.mpr inRange, rfl⟩)

theorem mem_usableTags_otherwise (branches : Nat) :
    BranchTag.otherwise ∈ usableTags branches :=
  List.mem_append_right _ List.mem_cons_self

theorem tagged?_of_amongBranches
    {edges : List Edge} {context : Context} {branches : List Branch} {index total : Nat}
    {decision : Decision} (count : index + branches.length = total)
    (decided : amongBranches edges context index branches = .ok (some decision)) :
    ∃ tag ∈ usableTags total, tagged? edges tag = some decision.edge := by
  induction branches generalizing index with
  | nil =>
      simp only [amongBranches, ofOtherwise, Except.ok.injEq, Option.map_eq_some_iff] at decided
      rcases decided with ⟨edge, found, rfl⟩
      exact ⟨BranchTag.otherwise, mem_usableTags_otherwise total, found⟩
  | cons branch rest ih =>
      simp only [List.length_cons] at count
      cases held : Condition.holds (Condition.parse? branch.condition) context with
      | error fault =>
          rw [amongBranches, held] at decided
          cases decided
      | ok result =>
          rcases amongBranches_cons edges held index rest with
            ⟨_, edge, found, taken⟩ | ⟨_, passed⟩
          · rw [taken] at decided
            cases decided
            exact ⟨BranchTag.branch index, mem_usableTags_branch (by omega), found⟩
          · rw [passed] at decided
            exact ih (by omega) decided

theorem edge_mem_followable
    {document : Document} {context : Context} {node : Node} {decision : Decision}
    (decided : resolve document context node = .ok (some decision)) :
    decision.edge ∈ document.followable node := by
  unfold resolve at decided
  unfold followable
  cases held : node.branches? with
  | none =>
      simp only [held, Except.ok.injEq, Option.map_eq_some_iff] at decided
      rcases decided with ⟨edge, first, rfl⟩
      cases leaving : document.outgoing node.id with
      | nil =>
          simp [leaving] at first
      | cons head rest =>
          simp only [leaving, List.head?_cons, Option.some.injEq] at first
          simp [first]
  | some branches =>
      simp only [held] at decided
      rcases tagged?_of_amongBranches (Nat.zero_add _) decided with ⟨tag, usable, found⟩
      exact List.mem_filterMap.mpr ⟨tag, usable, found⟩

theorem target_mem_followableTargets
    {document : Document} {context : Context} {node : Node} {decision : Decision}
    (decided : resolve document context node = .ok (some decision)) :
    decision.target ∈ document.followableTargets node :=
  List.mem_map_of_mem (edge_mem_followable decided)

/-!
## Where no decision is made
-/

theorem amongBranches_eq_none
    {edges : List Edge} {context : Context} {branches : List Branch} {index : Nat}
    (decided : amongBranches edges context index branches = .ok none) :
    tagged? edges BranchTag.otherwise = none := by
  induction branches generalizing index with
  | nil =>
      simpa [amongBranches, ofOtherwise] using decided
  | cons branch rest ih =>
      cases held : Condition.holds (Condition.parse? branch.condition) context with
      | error fault =>
          rw [amongBranches, held] at decided
          cases decided
      | ok result =>
          rcases amongBranches_cons edges held index rest with
            ⟨_, edge, _, taken⟩ | ⟨_, passed⟩
          · rw [taken] at decided
            cases decided
          · rw [passed] at decided
            exact ih decided

theorem outgoing_eq_nil_of_resolve
    {document : Document} {context : Context} {node : Node} (plain : node.branches? = none)
    (decided : resolve document context node = .ok none) :
    document.outgoing node.id = [] := by
  simpa [resolve, plain] using decided

theorem tagged?_otherwise_of_resolve
    {document : Document} {context : Context} {node : Node} {branches : List Branch}
    (held : node.branches? = some branches)
    (decided : resolve document context node = .ok none) :
    tagged? (document.outgoing node.id) BranchTag.otherwise = none := by
  simp only [resolve, held] at decided
  exact amongBranches_eq_none decided

end Decision

/-!
## Followable edges leave their node
-/

namespace Document

theorem mem_outgoing_of_mem_followable
    {document : Document} {node : Node} {edge : Edge} (member : edge ∈ document.followable node) :
    edge ∈ document.outgoing node.id := by
  unfold followable at member
  split at member
  · exact List.mem_of_mem_take member
  · rcases List.mem_filterMap.mp member with ⟨tag, _, found⟩
    exact mem_of_tagged? found

theorem mem_edges_of_mem_followable
    {document : Document} {node : Node} {edge : Edge} (member : edge ∈ document.followable node) :
    edge ∈ document.edges :=
  (List.mem_filter.mp (mem_outgoing_of_mem_followable member)).1

theorem followableTargets_eq_nil_of_outgoing
    {document : Document} {node : Node} (none : document.outgoing node.id = []) :
    document.followableTargets node = [] := by
  rw [followableTargets, List.map_eq_nil_iff, List.eq_nil_iff_forall_not_mem]
  intro edge member
  have leaving := mem_outgoing_of_mem_followable member
  rw [none] at leaving
  cases leaving

end Document
end WorkflowWalk
