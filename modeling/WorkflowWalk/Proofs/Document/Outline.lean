import WorkflowWalk.Choice

/-!
# Outlines

The outline of a document is what walks read of it: of a node its id, its kind and the conditions of
its branches, and of an edge its ends and its tag. Documents with the same outline have the same
start. At nodes of one id their decisions lead to the same id, if the contexts agree on the fields
that the conditions ask for.
-/

namespace WorkflowWalk

def Node.conditions (node : Node) : List String :=
  (node.branches?.getD []).map (·.condition)

def Node.outline (node : Node) : String × Kind × List String :=
  (node.id, node.kind, node.conditions)

def Edge.outline (edge : Edge) : String × String × Option String :=
  (edge.source, edge.target, edge.tag)

/-!
## Lists with the same images

What is found in a list by the images of its items has the same image in every list with the same
images.
-/

section Images

variable {α β : Type} {items others : List α} {image : α → β}

theorem find?_of_map_eq
    (same : items.map image = others.map image) (holds : β → Bool) :
    (items.find? fun item => holds (image item)).map image =
      (others.find? fun item => holds (image item)).map image := by
  calc
    (items.find? fun item => holds (image item)).map image
        = (items.map image).find? holds := List.find?_map.symm
    _ = (others.map image).find? holds := by rw [same]
    _ = (others.find? fun item => holds (image item)).map image := List.find?_map

theorem filter_of_map_eq
    (same : items.map image = others.map image) (holds : β → Bool) :
    (items.filter fun item => holds (image item)).map image =
      (others.filter fun item => holds (image item)).map image := by
  calc
    (items.filter fun item => holds (image item)).map image
        = (items.map image).filter holds := List.filter_map.symm
    _ = (others.map image).filter holds := by rw [same]
    _ = (others.filter fun item => holds (image item)).map image := List.filter_map

end Images

/-!
## Nodes with the same outline
-/

namespace Node

theorem conditions_of_branches
    {node : Node} {branches : List Branch} (held : node.branches? = some branches) :
    node.conditions = branches.map (·.condition) := by
  rw [conditions, held, Option.getD_some]

theorem kind_eq_condition_iff
    {node : Node} :
    node.kind = .condition ↔ ∃ branches, node.branches? = some branches := by
  unfold kind branches?
  cases node.body <;> simp

variable {node other : Node}

theorem id_of_outline (same : node.outline = other.outline) :
    node.id = other.id :=
  congrArg Prod.fst same

theorem branches?_of_outline (same : node.outline = other.outline) :
    (node.branches? = none ∧ other.branches? = none) ∨
      ∃ branches others, node.branches? = some branches ∧ other.branches? = some others ∧
        branches.map (·.condition) = others.map (·.condition) := by
  have kinds : node.kind = other.kind := congrArg (fun outline => outline.2.1) same
  have texts : node.conditions = other.conditions := congrArg (fun outline => outline.2.2) same
  cases held : node.branches? with
  | none =>
      cases heldToo : other.branches? with
      | none =>
          exact Or.inl ⟨rfl, rfl⟩
      | some others =>
          have condition := kinds.trans (kind_eq_condition_iff.mpr ⟨others, heldToo⟩)
          rcases kind_eq_condition_iff.mp condition with ⟨branches, some⟩
          rw [held] at some
          cases some
  | some branches =>
      have condition := kinds.symm.trans (kind_eq_condition_iff.mpr ⟨branches, held⟩)
      rcases kind_eq_condition_iff.mp condition with ⟨others, heldToo⟩
      rw [conditions_of_branches held, conditions_of_branches heldToo] at texts
      exact Or.inr ⟨branches, others, rfl, heldToo, texts⟩

end Node

/-!
## Documents with the same outline
-/

namespace Document

/-- The nodes and the edges of two documents have the same outlines, in the same order. -/
structure SameOutline (one two : Document) : Prop where
  nodes : one.nodes.map Node.outline = two.nodes.map Node.outline
  edges : one.edges.map Edge.outline = two.edges.map Edge.outline

def AsksFor (document : Document) (field : String) : Prop :=
  ∃ node ∈ document.nodes, ∃ text ∈ node.conditions, ∃ condition,
    Condition.parse? text = some condition ∧ condition.field = field

theorem tagged?_of_outline
    {edges others : List Edge} (same : edges.map Edge.outline = others.map Edge.outline)
    (tag : String) :
    (tagged? edges tag).map Edge.outline = (tagged? others tag).map Edge.outline :=
  find?_of_map_eq same fun outline => outline.2.2 = some tag

namespace SameOutline

variable {one two : Document}

theorem node?
    (same : one.SameOutline two) (id : String) :
    (one.node? id).map Node.outline = (two.node? id).map Node.outline :=
  find?_of_map_eq same.nodes fun outline => outline.1 = id

theorem outgoing
    (same : one.SameOutline two) (id : String) :
    (one.outgoing id).map Edge.outline = (two.outgoing id).map Edge.outline :=
  filter_of_map_eq same.edges fun outline => outline.1 = id

theorem any_target
    (same : one.SameOutline two) (id : String) :
    one.edges.any (·.target = id) = two.edges.any (·.target = id) := by
  have images : ∀ document : Document,
      document.edges.any (·.target = id) =
        (document.edges.map Edge.outline).any (fun outline => outline.2.1 = id) := by
    intro document
    rw [List.any_map]
    rfl
  rw [images one, images two, same.edges]

theorem start?
    (same : one.SameOutline two) :
    one.start?.map (·.id) = two.start?.map (·.id) := by
  have candidates : ∀ document : Document,
      document.startCandidates.map Node.outline =
        (document.nodes.map Node.outline).filter
          (fun outline => !document.edges.any (·.target = outline.1)) := by
    intro document
    rw [List.filter_map]
    rfl
  have alike : one.startCandidates.map Node.outline = two.startCandidates.map Node.outline := by
    rw [candidates one, candidates two, same.nodes]
    simp only [same.any_target]
  have ids := congrArg (fun outlines => outlines.head?.map Prod.fst) alike
  simp only [List.head?_map, Option.map_map] at ids
  exact ids

end SameOutline
end Document

/-!
## Decisions under the same outline
-/

theorem Condition.holds_of_agree
    {context other : Context} {condition? : Option Condition}
    (agree : ∀ condition, condition? = some condition →
      present? context condition.field = present? other condition.field) :
    Condition.holds condition? context = Condition.holds condition? other := by
  cases condition? with
  | none =>
      rfl
  | some condition =>
      rw [Condition.holds, Condition.holds, Condition.evaluate, Condition.evaluate,
        agree condition rfl]

namespace Decision

open Document

theorem ofOtherwise_of_outline
    {edges others : List Edge} (same : edges.map Edge.outline = others.map Edge.outline) :
    (ofOtherwise edges).map target = (ofOtherwise others).map target := by
  have targets := congrArg (Option.map fun outline => outline.2.1)
    (tagged?_of_outline same BranchTag.otherwise)
  rw [Option.map_map, Option.map_map] at targets
  rw [ofOtherwise, ofOtherwise, Option.map_map, Option.map_map]
  exact targets

theorem amongBranches_of_outline
    {edges others : List Edge} (same : edges.map Edge.outline = others.map Edge.outline)
    {context other : Context} {branches branchesToo : List Branch}
    (conditions : branches.map (·.condition) = branchesToo.map (·.condition))
    (agree : ∀ text ∈ branches.map (·.condition), ∀ condition,
      Condition.parse? text = some condition →
        present? context condition.field = present? other condition.field)
    (index : Nat) :
    Option.map target <$> amongBranches edges context index branches =
      Option.map target <$> amongBranches others other index branchesToo := by
  -- Both lists of branches are passed through in step.
  induction branches generalizing branchesToo index with
  | nil =>
      cases branchesToo with
      | nil =>
          exact congrArg Except.ok (ofOtherwise_of_outline same)
      | cons =>
          cases conditions
  | cons branch rest ih =>
      cases branchesToo with
      | nil =>
          cases conditions
      | cons branchToo restToo =>
          rw [List.map_cons, List.map_cons, List.cons.injEq] at conditions
          rcases conditions with ⟨text, texts⟩
          have agreeHere := agree branch.condition List.mem_cons_self
          have agreeLater := fun text member => agree text (List.mem_cons_of_mem _ member)
          have later := ih texts agreeLater (index + 1)
          have tags := tagged?_of_outline same (BranchTag.branch index)
          rw [amongBranches, amongBranches, ← text, ← Condition.holds_of_agree agreeHere]
          cases Condition.holds (Condition.parse? branch.condition) context with
          | error fault =>
              rfl
          | ok result =>
              cases result with
              | false =>
                  exact later
              | true =>
                  cases found : tagged? edges (BranchTag.branch index) with
                  | none =>
                      rw [found] at tags
                      rw [Option.map_eq_none_iff.mp tags.symm]
                      exact later
                  | some edge =>
                      rw [found] at tags
                      rcases Option.map_eq_some_iff.mp tags.symm with ⟨edgeToo, foundToo, outlines⟩
                      rw [foundToo]
                      have targets : edgeToo.target = edge.target :=
                        congrArg (fun outline => outline.2.1) outlines
                      exact congrArg (Except.ok ∘ some) targets.symm

theorem resolve_of_outline
    {one two : Document} (same : one.SameOutline two) {context other : Context}
    (agree : ∀ field, one.AsksFor field → present? context field = present? other field)
    {node nodeToo : Node} (member : node ∈ one.nodes) (outlines : node.outline = nodeToo.outline) :
    Option.map target <$> resolve one context node =
      Option.map target <$> resolve two other nodeToo := by
  have leaving := same.outgoing node.id
  rw [resolve, resolve, ← Node.id_of_outline outlines]
  rcases Node.branches?_of_outline outlines with
    ⟨held, heldToo⟩ | ⟨branches, branchesToo, held, heldToo, conditions⟩
  · rw [held, heldToo]
    have first := congrArg (fun outlines => outlines.head?.map fun outline => outline.2.1) leaving
    simp only [List.head?_map, Option.map_map] at first
    refine congrArg Except.ok ?_
    rw [Option.map_map, Option.map_map]
    exact first
  · rw [held, heldToo]
    apply amongBranches_of_outline leaving conditions
    intro text among condition parsed
    apply agree
    rw [← Node.conditions_of_branches held] at among
    exact ⟨node, member, text, among, condition, parsed, rfl⟩

end Decision
end WorkflowWalk
