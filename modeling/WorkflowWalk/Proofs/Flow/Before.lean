import Mathlib.Data.List.Basic
import WorkflowWalk.Proofs.Flow.Reachable

/-!
# What comes before what

An id comes before another one if it leads there along any edges, whatever their tags and whether
nodes have the ids between them. A loop that keeps the ids still to be looked at on a stack finds
out whether it is so. An id may be put on the stack several times, but its edges are followed only
once, so the number of edges bounds the number of turns.
-/

namespace WorkflowWalk
namespace Document

def Joins (document : Document) (id target : String) : Prop :=
  ∃ edge ∈ document.edges, edge.source = id ∧ edge.target = target

def Before (document : Document) : String → String → Prop :=
  Relation.ReflTransGen document.Joins

variable {document : Document}

/-!
## The answer
-/

theorem leads_edgeLinks
    {id target : String} :
    document.edgeLinks.Leads id target ↔ document.Joins id target := by
  rw [Links.Leads, Links.mem_successors, edgeLinks]
  constructor
  · intro leads
    rcases leads with ⟨targets, entry, among⟩
    rcases List.mem_map.mp entry with ⟨edge, member, same⟩
    rcases Prod.mk.inj same with ⟨source, rfl⟩
    exact ⟨edge, member, source, (List.mem_singleton.mp among).symm⟩
  · intro joins
    rcases joins with ⟨edge, member, rfl, rfl⟩
    exact ⟨_, List.mem_map_of_mem member, List.mem_cons_self⟩

theorem isBefore_iff
    {first second : String} :
    document.isBefore first second = true ↔ document.Before first second := by
  have same : document.edgeLinks.Leads = document.Joins := by
    funext id target
    exact propext leads_edgeLinks
  rw [isBefore, List.contains_iff_mem, Links.mem_reachable, Links.Reaches, same, Before]

/-!
## A loop that finds it
-/

/-- Looks for an id behind those on the stack, for a number of turns at most. There is no answer if
these are too few. -/
def seekWithin (document : Document) (target : String) :
    Nat → List String → List String → Option Bool
  | 0, _, _ => none
  | _ + 1, _, [] => some false
  | turns + 1, visited, id :: stack =>
      if id = target then
        some true
      else if id ∈ visited then
        document.seekWithin target turns visited stack
      else
        document.seekWithin target turns (id :: visited)
          (((document.outgoing id).map (·.target)).reverse ++ stack)

def edgesLeft (document : Document) (visited : List String) : List Edge :=
  document.edges.filter (!visited.contains ·.source)

theorem length_edgesLeft
    {visited : List String} {id : String} (fresh : id ∉ visited) :
    (document.edgesLeft visited).length =
      (document.outgoing id).length + (document.edgesLeft (id :: visited)).length := by
  have split := List.length_eq_length_filter_add
    (l := document.edgesLeft visited) fun edge => decide (edge.source = id)
  rw [split, edgesLeft, edgesLeft, outgoing, List.filter_filter, List.filter_filter]
  congr 2
  · apply List.filter_congr
    intro edge _
    by_cases same : edge.source = id
    · simp [same, fresh]
    · simp [same]
  · apply List.filter_congr
    intro edge _
    simp

/-- The id that is looked for is not among those visited, and their edges lead to ids that are
visited or on the stack. -/
structure Seeking (document : Document) (target : String) (visited stack : List String) : Prop where
  missed : target ∉ visited
  frontier : ∀ met ∈ visited, ∀ next, document.Joins met next → next ∈ visited ∨ next ∈ stack

/-- What lies behind an id visited lies behind one on the stack. -/
theorem Seeking.exists_origin
    {target : String} {visited stack : List String}
    (seeking : document.Seeking target visited stack) {met : String}
    (before : document.Before met target) (member : met ∈ visited) :
    ∃ origin ∈ stack, document.Before origin target := by
  induction before using Relation.ReflTransGen.head_induction_on with
  | refl =>
      exact absurd member seeking.missed
  | head joins later ih =>
      rcases seeking.frontier _ member _ joins with again | onStack
      · exact ih again
      · exact ⟨_, onStack, later⟩

theorem Seeking.skip
    {target id : String} {visited stack : List String}
    (seeking : document.Seeking target visited (id :: stack)) (seen : id ∈ visited) :
    document.Seeking target visited stack where
  missed := seeking.missed
  frontier := by
    intro met member next joins
    rcases seeking.frontier met member next joins with again | onStack
    · exact Or.inl again
    · rcases List.mem_cons.mp onStack with rfl | below
      · exact Or.inl seen
      · exact Or.inr below

theorem mem_targets_iff
    {id next : String} :
    next ∈ ((document.outgoing id).map (·.target)).reverse ↔ document.Joins id next := by
  simp [outgoing, Joins, and_assoc]

theorem Seeking.visit
    {target id : String} {visited stack : List String}
    (seeking : document.Seeking target visited (id :: stack)) (differs : id ≠ target) :
    document.Seeking target (id :: visited)
      (((document.outgoing id).map (·.target)).reverse ++ stack) where
  missed := by
    rw [List.mem_cons, not_or]
    exact ⟨differs.symm, seeking.missed⟩
  frontier := by
    intro met member next joins
    rcases List.mem_cons.mp member with rfl | earlier
    · exact Or.inr (List.mem_append_left _ (mem_targets_iff.mpr joins))
    · rcases seeking.frontier met earlier next joins with again | onStack
      · exact Or.inl (List.mem_cons_of_mem _ again)
      · rcases List.mem_cons.mp onStack with rfl | below
        · exact Or.inl List.mem_cons_self
        · exact Or.inr (List.mem_append_right _ below)

/-- In enough turns it is found out whether the id lies behind one on the stack. Each turn takes an
id off the stack, and when it puts others on it, their edges are never followed again. -/
theorem seekWithin_spec
    {target : String} {turns : Nat} {visited stack : List String}
    (seeking : document.Seeking target visited stack)
    (enough : (document.edgesLeft visited).length + stack.length < turns) :
    ∃ answer, document.seekWithin target turns visited stack = some answer ∧
      (answer = true ↔ ∃ origin ∈ stack, document.Before origin target) := by
  induction turns generalizing visited stack with
  | zero =>
      cases enough
  | succ turns ih =>
      cases stack with
      | nil =>
          exact ⟨false, rfl, by simp⟩
      | cons id stack =>
          rw [List.length_cons] at enough
          rw [seekWithin]
          by_cases here : id = target
          · rw [if_pos here]
            exact ⟨true, rfl, iff_of_true rfl ⟨id, List.mem_cons_self, here ▸ .refl⟩⟩
          rw [if_neg here]
          by_cases seen : id ∈ visited
          · rw [if_pos seen]
            rcases ih (seeking.skip seen) (by omega) with ⟨answer, found, correct⟩
            refine ⟨answer, found, correct.trans ?_⟩
            constructor
            · intro behind
              rcases behind with ⟨origin, member, before⟩
              exact ⟨origin, List.mem_cons_of_mem _ member, before⟩
            · intro behind
              rcases behind with ⟨origin, member, before⟩
              rcases List.mem_cons.mp member with rfl | below
              · exact (seeking.skip seen).exists_origin before seen
              · exact ⟨origin, below, before⟩
          · rw [if_neg seen]
            have left := document.length_edgesLeft seen
            have fewer : (document.edgesLeft (id :: visited)).length +
                (((document.outgoing id).map (·.target)).reverse ++ stack).length < turns := by
              rw [List.length_append, List.length_reverse, List.length_map]
              omega
            rcases ih (seeking.visit here) fewer with ⟨answer, found, correct⟩
            refine ⟨answer, found, correct.trans ?_⟩
            constructor
            · intro behind
              rcases behind with ⟨origin, member, before⟩
              rcases List.mem_append.mp member with next | below
              · exact ⟨id, List.mem_cons_self, .head (mem_targets_iff.mp next) before⟩
              · exact ⟨origin, List.mem_cons_of_mem _ below, before⟩
            · intro behind
              rcases behind with ⟨origin, member, before⟩
              rcases List.mem_cons.mp member with rfl | below
              · rcases Relation.ReflTransGen.cases_head before with same | ⟨next, joins, later⟩
                · exact absurd same here
                · exact ⟨next, List.mem_append_left _ (mem_targets_iff.mpr joins), later⟩
              · exact ⟨origin, List.mem_append_right _ below, before⟩

theorem seekWithin_edges (document : Document) (first second : String) :
    document.seekWithin second (document.edges.length + 2) [] [first] =
      some (document.isBefore first second) := by
  have seeking : document.Seeking second [] [first] :=
    ⟨List.not_mem_nil, fun met none => absurd none List.not_mem_nil⟩
  have enough : (document.edgesLeft []).length + [first].length < document.edges.length + 2 := by
    have within : (document.edgesLeft []).length ≤ document.edges.length :=
      List.length_filter_le ..
    rw [List.length_singleton]
    omega
  rcases seekWithin_spec seeking enough with ⟨answer, found, correct⟩
  rw [found, Option.some.injEq, Bool.eq_iff_iff, correct, isBefore_iff]
  simp

end Document
end WorkflowWalk
