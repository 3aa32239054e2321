import WorkflowWalk.Proofs.Flow.Reachable

/-!
# Gathering what can be reached

A loop gathers the ids that can be reached from an id. It keeps the ids still to be looked at on a
stack, the last one put there first, and puts the targets of an id there unless they have been found
already. An id may be on the stack several times, but its links are followed only once, so the
number of links bounds the number of turns. What the loop has found at its end is the least set of
ids that holds the first one and whatever its ids lead to.
-/

namespace WorkflowWalk
namespace Links

/-!
## Looking up targets
-/

theorem successors_of_mem
    {links : Links} (distinct : links.sources.Nodup) {id : String} {targets : List String}
    (member : (id, targets) ∈ links) :
    links.successors id = targets := by
  induction links with
  | nil =>
      cases member
  | cons entry rest ih =>
      rw [sources, List.map_cons, List.nodup_cons] at distinct
      rw [successors, List.flatMap_cons, ← successors]
      rcases List.mem_cons.mp member with rfl | later
      · rw [if_pos rfl, successors_eq_nil distinct.1, List.append_nil]
      · have differs : entry.1 ≠ id := by
          intro same
          exact distinct.1 (same ▸ List.mem_map_of_mem later)
        rw [if_neg differs, List.nil_append]
        exact ih distinct.2 later

/-!
## The loop
-/

def newTargets (links : Links) (found : List String) (id : String) : List String :=
  ((links.successors id).filter (· ∉ id :: found)).reverse

theorem mem_newTargets
    {links : Links} {found : List String} {id target : String} :
    target ∈ links.newTargets found id ↔ links.Leads id target ∧ target ∉ id :: found := by
  rw [newTargets, List.mem_reverse, List.mem_filter, decide_eq_true_eq, Leads]

theorem length_newTargets_le (links : Links) (found : List String) (id : String) :
    (links.newTargets found id).length ≤ (links.successors id).length := by
  rw [newTargets, List.length_reverse]
  exact List.length_filter_le ..

def gatherWithin (links : Links) : Nat → List String → List String → Option (List String)
  | 0, _, _ => none
  | _ + 1, found, [] => some found
  | turns + 1, found, id :: stack =>
      if id ∈ found then links.gatherWithin turns found stack
      else links.gatherWithin turns (id :: found) (links.newTargets found id ++ stack)

/-!
## The number of turns
-/

def linksLeft (found : List String) : Links → Nat
  | [] => 0
  | (source, targets) :: rest =>
      (if source ∈ found then 0 else targets.length) + linksLeft found rest

theorem linksLeft_of_fresh
    {found : List String} {id : String} (fresh : id ∉ found) (links : Links) :
    links.linksLeft found = (links.successors id).length + links.linksLeft (id :: found) := by
  induction links with
  | nil =>
      rfl
  | cons entry rest ih =>
      rcases entry with ⟨source, targets⟩
      rw [successors, List.flatMap_cons, List.length_append, ← successors, linksLeft, linksLeft, ih]
      by_cases here : source = id
      · simp [here, fresh, Nat.add_assoc]
      · simp [here, Nat.add_left_comm]

/-!
## The invariant
-/

/-- What has been found and what is on the stack can be reached from the first id, and what has been
found leads only to ids that have been found or are on the stack. -/
structure Gathers (links : Links) (start : String) (found stack : List String) : Prop where
  distinct : found.Nodup
  begun : start ∈ found ∨ start ∈ stack
  reached : ∀ id, id ∈ found ∨ id ∈ stack → links.Reaches start id
  frontier : ∀ id ∈ found, ∀ target, links.Leads id target → target ∈ found ∨ target ∈ stack

namespace Gathers

variable {links : Links} {start : String} {found stack : List String}

theorem begin (links : Links) (start : String) :
    links.Gathers start [] [start] where
  distinct := List.nodup_nil
  begun := Or.inr List.mem_cons_self
  reached id member := by
    rcases member with none | first
    · cases none
    · rw [List.mem_singleton.mp first]
      exact .refl
  frontier id none := by
    cases none

theorem skip
    {id : String} (gathers : links.Gathers start found (id :: stack)) (known : id ∈ found) :
    links.Gathers start found stack := by
  have kept : ∀ other, other ∈ found ∨ other ∈ id :: stack → other ∈ found ∨ other ∈ stack := by
    intro other member
    rcases member with here | onStack
    · exact Or.inl here
    · rcases List.mem_cons.mp onStack with rfl | below
      · exact Or.inl known
      · exact Or.inr below
  constructor
  · exact gathers.distinct
  · exact kept start gathers.begun
  · intro other member
    exact gathers.reached other (member.imp_right (List.mem_cons_of_mem _))
  · intro other member target leads
    exact kept target (gathers.frontier other member target leads)

theorem take
    {id : String} (gathers : links.Gathers start found (id :: stack)) (fresh : id ∉ found) :
    links.Gathers start (id :: found) (links.newTargets found id ++ stack) := by
  have kept : ∀ other, other ∈ found ∨ other ∈ id :: stack →
      other ∈ id :: found ∨ other ∈ links.newTargets found id ++ stack := by
    intro other member
    rcases member with here | onStack
    · exact Or.inl (List.mem_cons_of_mem _ here)
    · rcases List.mem_cons.mp onStack with rfl | below
      · exact Or.inl List.mem_cons_self
      · exact Or.inr (List.mem_append_right _ below)
  have here : links.Reaches start id := gathers.reached id (Or.inr List.mem_cons_self)
  constructor
  · exact List.nodup_cons.mpr ⟨fresh, gathers.distinct⟩
  · exact kept start gathers.begun
  · intro other member
    rcases member with known | onStack
    · rcases List.mem_cons.mp known with rfl | earlier
      · exact here
      · exact gathers.reached other (Or.inl earlier)
    · rcases List.mem_append.mp onStack with next | below
      · exact here.tail (mem_newTargets.mp next).1
      · exact gathers.reached other (Or.inr (List.mem_cons_of_mem _ below))
  · intro other member target leads
    rcases List.mem_cons.mp member with rfl | earlier
    · by_cases known : target ∈ other :: found
      · exact Or.inl known
      · exact Or.inr (List.mem_append_left _ (mem_newTargets.mpr ⟨leads, known⟩))
    · exact kept target (gathers.frontier other earlier target leads)

/-- A turn takes an id off the stack, and the links by which it puts others there are left no
longer. -/
theorem exists_turn
    {id : String} (gathers : links.Gathers start found (id :: stack)) :
    ∃ more below, links.Gathers start more below ∧
      links.linksLeft more + below.length < links.linksLeft found + (id :: stack).length ∧
      ∀ turns, links.gatherWithin (turns + 1) found (id :: stack) =
        links.gatherWithin turns more below := by
  by_cases known : id ∈ found
  · refine ⟨found, stack, gathers.skip known, ?_, ?_⟩
    · rw [List.length_cons]
      omega
    · intro turns
      rw [gatherWithin, if_pos known]
  · refine ⟨id :: found, links.newTargets found id ++ stack, gathers.take known, ?_, ?_⟩
    · have followed := linksLeft_of_fresh known links
      have pushed := links.length_newTargets_le found id
      rw [List.length_append, List.length_cons]
      omega
    · intro turns
      rw [gatherWithin, if_neg known]

theorem exists_all
    (gathers : links.Gathers start found stack) :
    ∃ all, links.Gathers start all [] ∧
      ∀ turns, links.linksLeft found + stack.length < turns →
        links.gatherWithin turns found stack = some all := by
  induction size : links.linksLeft found + stack.length using Nat.strongRecOn
    generalizing found stack with
  | ind size ih =>
      cases stack with
      | nil =>
          refine ⟨found, gathers, ?_⟩
          intro turns enough
          rcases Nat.exists_eq_add_of_lt enough with ⟨spare, rfl⟩
          rfl
      | cons id stack =>
          rcases gathers.exists_turn with ⟨more, below, onward, fewer, turned⟩
          rw [size] at fewer
          rcases ih _ fewer onward rfl with ⟨all, ended, ends⟩
          refine ⟨all, ended, ?_⟩
          intro turns enough
          rcases Nat.exists_eq_add_of_lt enough with ⟨spare, rfl⟩
          rw [turned]
          exact ends _ (by omega)

theorem mem_iff
    (gathers : links.Gathers start found []) {id : String} :
    id ∈ found ↔ links.Reaches start id := by
  constructor
  · intro member
    exact gathers.reached id (Or.inl member)
  · intro reaches
    induction reaches with
    | refl =>
        exact gathers.begun.resolve_right List.not_mem_nil
    | tail _ leads ih =>
        exact (gathers.frontier _ ih _ leads).resolve_right List.not_mem_nil

end Gathers

/-!
## What is gathered
-/

/-- The ids of a list are those of the least set that holds an id and all that its ids lead to. -/
structure IsLeastClosed (links : Links) (start : String) (ids : List String) : Prop where
  begun : start ∈ ids
  closed : ∀ id ∈ ids, ∀ target, links.Leads id target → target ∈ ids
  least : ∀ holds : String → Prop, holds start →
    (∀ id, holds id → ∀ target, links.Leads id target → holds target) → ∀ id ∈ ids, holds id

structure Gathered (links : Links) (start : String) (found : List String) : Prop where
  ends : ∀ turns, links.linksLeft [] + 1 < turns →
    links.gatherWithin turns [] [start] = some found
  once : found.Nodup
  reached : ∀ id, id ∈ found ↔ links.Reaches start id
  least : links.IsLeastClosed start found
  same : found.Perm (links.reachable start)

theorem isLeastClosed_of_reached
    {links : Links} {start : String} {ids : List String}
    (reached : ∀ id, id ∈ ids ↔ links.Reaches start id) :
    links.IsLeastClosed start ids where
  begun := (reached start).mpr .refl
  closed id member target leads := (reached target).mpr (((reached id).mp member).tail leads)
  least holds first step id member := by
    induction (reached id).mp member with
    | refl =>
        exact first
    | tail before leads ih =>
        exact step _ (ih ((reached _).mpr before)) _ leads

theorem nodup_explore
    {links : Links} {found pending : List String} (distinct : found.Nodup) :
    (links.explore found pending).Nodup := by
  induction links, found, pending using explore.induct with
  | case1 links found =>
      rw [explore]
      exact distinct
  | case2 links found first pending known ih =>
      rw [explore, if_pos known]
      exact ih distinct
  | case3 links found first pending unknown ih =>
      rw [explore, if_neg unknown]
      exact ih (List.nodup_cons.mpr ⟨unknown, distinct⟩)

theorem nodup_reachable (links : Links) (start : String) :
    (links.reachable start).Nodup :=
  (List.mergeSort_perm ..).nodup_iff.mpr (nodup_explore List.nodup_nil)

theorem exists_gathered (links : Links) (start : String) :
    ∃ found, links.Gathered start found := by
  rcases (Gathers.begin links start).exists_all with ⟨found, ended, ends⟩
  have reached : ∀ id, id ∈ found ↔ links.Reaches start id := fun _ => ended.mem_iff
  refine ⟨found, ends, ended.distinct, reached, isLeastClosed_of_reached reached, ?_⟩
  rw [List.perm_ext_iff_of_nodup ended.distinct (links.nodup_reachable start)]
  intro id
  rw [reached, mem_reachable]

/-- The room is on the stack twice, and the street is found although it has no links. -/
example :
    gatherWithin [("hall", ["room", "yard"]), ("yard", ["room", "street"])] 6 [] ["hall"] =
      some ["room", "street", "yard", "hall"] :=
  rfl

end Links
end WorkflowWalk
