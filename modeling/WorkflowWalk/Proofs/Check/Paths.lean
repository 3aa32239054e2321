import WorkflowWalk.Proofs.Check.Flow
import WorkflowWalk.Proofs.Flow.Paths

/-!
# The flow and the paths agree

The ids on the paths from an id are those that can be reached from it, although the search for them
remembers all that it has met and a path only its own ids. A path comes round a cycle exactly if a
cycle can be reached.
-/

namespace WorkflowWalk
namespace Document

variable {document : Document}

/-!
## Ids on paths
-/

theorem Extends.reaches
    {visited : List String} {id : String} {path : Path}
    (extension : document.Extends visited id path) {start : String}
    (before : ∀ met ∈ visited, document.followableLinks.Reaches start met)
    (here : document.followableLinks.Reaches start id) {other : String}
    (member : other ∈ path.nodeIds) :
    document.followableLinks.Reaches start other := by
  induction extension with
  | revisit | unknown | rest =>
      rcases List.mem_cons.mp (List.mem_reverse.mp member) with rfl | earlier
      · exact here
      · exact before other earlier
  | @onward visited id node target path fresh found leads later ih =>
      apply ih _ (here.tail (leads_followableLinks.mpr ⟨node, found, leads⟩)) member
      intro met among
      rcases List.mem_cons.mp among with rfl | earlier
      · exact here
      · exact before met earlier

/-- If a path passes an id for the first time, another one goes on from there to any id that it
leads to. -/
theorem Extends.exists_through
    {visited : List String} {id : String} {path : Path}
    (extension : document.Extends visited id path) {source target : String}
    (member : source ∈ path.nodeIds) (leads : document.followableLinks.Leads source target) :
    source ∈ visited ∨ ∃ other, document.Extends visited id other ∧ target ∈ other.nodeIds := by
  rcases leads_followableLinks.mp leads with ⟨node, found, among⟩
  induction extension with
  | revisit seen =>
      rcases List.mem_cons.mp (List.mem_reverse.mp member) with rfl | earlier
      · exact Or.inl seen
      · exact Or.inl earlier
  | unknown fresh absent =>
      rcases List.mem_cons.mp (List.mem_reverse.mp member) with rfl | earlier
      · rw [absent] at found
        cases found
      · exact Or.inl earlier
  | rest fresh last sink =>
      rcases List.mem_cons.mp (List.mem_reverse.mp member) with rfl | earlier
      · cases last.symm.trans found
        rw [sink] at among
        cases among
      · exact Or.inl earlier
  | @onward visited id first next path fresh here along later ih =>
      rcases ih member with passed | ⟨other, extension, onIt⟩
      · rcases List.mem_cons.mp passed with rfl | earlier
        · rcases document.exists_extends (source :: visited) target with ⟨other, extension⟩
          refine Or.inr ⟨other, .onward fresh found among extension, ?_⟩
          exact extension.isPrefix.subset (by simp)
        · exact Or.inl earlier
      · exact Or.inr ⟨other, .onward fresh here along extension, onIt⟩

theorem exists_extends_of_reaches
    {start id : String} (reaches : document.followableLinks.Reaches start id) :
    ∃ path, document.Extends [] start path ∧ id ∈ path.nodeIds := by
  -- Each link on the way from the start is put at the end of a path.
  induction reaches with
  | refl =>
      rcases document.exists_extends [] start with ⟨path, extension⟩
      exact ⟨path, extension, extension.isPrefix.subset (by simp)⟩
  | tail _ leads ih =>
      rcases ih with ⟨path, extension, member⟩
      rcases extension.exists_through member leads with none | found
      · cases none
      · exact found

theorem reaches_iff_exists_path
    {start id : String} :
    document.followableLinks.Reaches start id ↔
      ∃ path ∈ document.allPaths start, id ∈ path.nodeIds := by
  constructor
  · intro reaches
    rcases exists_extends_of_reaches reaches with ⟨path, extension, member⟩
    exact ⟨path, extension.mem_extensions, member⟩
  · rintro ⟨path, listed, member⟩
    apply (mem_extensions.mp listed).reaches _ .refl member
    intro met none
    cases none

/-!
## Paths that come round a cycle
-/

theorem leadsWithin_of_leads
    {id target : String} (leads : document.followableLinks.Leads id target)
    (known : target ∈ document.nodeIds) :
    document.followableLinks.LeadsWithin id target := by
  rcases leads_followableLinks.mp leads with ⟨node, found, among⟩
  refine ⟨⟨_, ?_, among⟩, ?_⟩
  · rw [targets?_followableLinks, found]
    rfl
  · rw [sources_followableLinks]
    exact known

theorem leads_of_leadsWithin
    {id target : String} (leads : document.followableLinks.LeadsWithin id target) :
    document.followableLinks.Leads id target := by
  rcases leads with ⟨⟨targets, entry, among⟩, _⟩
  rw [targets?_followableLinks, Option.map_eq_some_iff] at entry
  rcases entry with ⟨node, found, rfl⟩
  exact leads_followableLinks.mpr ⟨node, found, among⟩

/-- A path is cyclic if it has come back to an id that it has visited, and then that id has been left
along links between nodes. -/
theorem Extends.exists_returning
    {visited : List String} {id : String} {path : Path}
    (extension : document.Extends visited id path) (cyclic : path.cyclic = true) {start : String}
    (here : document.followableLinks.Reaches start id)
    (before : ∀ met ∈ visited, met ∈ document.nodeIds ∧
      ∃ last, Relation.ReflTransGen document.followableLinks.LeadsWithin met last ∧
        document.followableLinks.Leads last id) :
    ∃ back, document.followableLinks.Reaches start back ∧
      Relation.TransGen document.followableLinks.LeadsWithin back back := by
  induction extension with
  | @revisit visited id seen =>
      rcases before id seen with ⟨known, last, way, leads⟩
      exact ⟨id, here, .tail' way (leadsWithin_of_leads leads known)⟩
  | unknown | rest =>
      cases cyclic
  | @onward visited id node target path fresh found leads later ih =>
      have onward : document.followableLinks.Leads id target :=
        leads_followableLinks.mpr ⟨node, found, leads⟩
      have known := mem_nodeIds_of_node? found
      apply ih cyclic (here.tail onward)
      intro met among
      rcases List.mem_cons.mp among with rfl | earlier
      · exact ⟨known, met, .refl, onward⟩
      · rcases before met earlier with ⟨inNodes, last, way, toHere⟩
        exact ⟨inNodes, id, way.tail (leadsWithin_of_leads toHere known), onward⟩

theorem exists_cyclic_extends
    {Endless : String → Prop}
    (leadsOn : ∀ id, Endless id → ∃ next, document.followableLinks.Leads id next ∧ Endless next)
    (visited : List String) {id : String} (endless : Endless id) :
    ∃ path, document.Extends visited id path ∧ path.cyclic = true := by
  -- The induction is on the ids that are left to be visited.
  generalize left : (document.unvisited visited).length = size
  induction size using Nat.strongRecOn generalizing visited id with
  | ind size ih =>
      by_cases seen : id ∈ visited
      · exact ⟨_, .revisit seen, rfl⟩
      rcases leadsOn id endless with ⟨next, leads, still⟩
      rcases leads_followableLinks.mp leads with ⟨node, found, among⟩
      have fewer := document.length_unvisited_cons_lt (mem_nodeIds_of_node? found) seen
      rw [left] at fewer
      rcases ih _ fewer (id :: visited) still rfl with ⟨path, later, cyclic⟩
      exact ⟨path, .onward seen found among later, cyclic⟩

theorem exists_cyclic_path_iff
    {start : String} :
    (∃ path ∈ document.allPaths start, path.cyclic = true) ↔
      ∃ id, document.followableLinks.Reaches start id ∧
        Relation.TransGen document.followableLinks.LeadsWithin id id := by
  constructor
  · rintro ⟨path, listed, cyclic⟩
    apply (mem_extensions.mp listed).exists_returning cyclic .refl
    intro met none
    cases none
  · rintro ⟨id, reaches, returns⟩
    -- Ids from which the cycle can be reached always lead on to such ids.
    have leadsOn : ∀ other, document.followableLinks.Reaches other id →
        ∃ next, document.followableLinks.Leads other next ∧
          document.followableLinks.Reaches next id := by
      intro other toId
      rcases Relation.ReflTransGen.cases_head toId with rfl | ⟨next, leads, way⟩
      · rcases Relation.TransGen.head'_iff.mp returns with ⟨next, leads, back⟩
        exact ⟨next, leads_of_leadsWithin leads,
          Relation.ReflTransGen.mono (fun _ _ => leads_of_leadsWithin) _ _ back⟩
      · exact ⟨next, leads, way⟩
    rcases exists_cyclic_extends leadsOn [] reaches with ⟨path, extension, cyclic⟩
    exact ⟨path, extension.mem_extensions, cyclic⟩

/-!
## Other paths
-/

theorem Extends.nodup
    {visited : List String} {id : String} {path : Path}
    (extension : document.Extends visited id path) (straight : path.cyclic = false)
    (distinct : visited.Nodup) :
    path.nodeIds.Nodup := by
  induction extension with
  | revisit =>
      cases straight
  | unknown fresh _ | rest fresh _ _ =>
      exact (List.reverse_perm _).nodup_iff.mpr (List.nodup_cons.mpr ⟨fresh, distinct⟩)
  | onward fresh _ _ _ ih =>
      exact ih straight (List.nodup_cons.mpr ⟨fresh, distinct⟩)

/-!
## What is reported
-/

theorem exists_cycle_reported
    {start : String} (round : ∃ path ∈ document.allPaths start, path.cyclic = true) :
    ∃ ids, .cycle ids ∈ Check.flowFindings document document.flow := by
  rcases exists_cyclic_path_iff.mp round with ⟨id, _, returns⟩
  cases cycle : document.flow.cycle with
  | some ids =>
      exact ⟨ids, Check.cycle_mem_flowFindings.mpr cycle⟩
  | none =>
      exact absurd returns (acyclic_of_flow cycle id)

/-- What the flow of a document with a start says and what its paths say is the same, if the list of
paths is not cut off. It is not from some number of paths on. -/
theorem flow_agrees_with_paths
    {start : Node} (starts : document.start? = some start) :
    (∃ enough, ∀ limit, enough ≤ limit → (document.paths limit none).2 = false) ∧
      ∀ limit, (document.paths limit none).2 = false →
        (∀ id, id ∈ document.flow.reachable ↔
          ∃ path ∈ (document.paths limit none).1, id ∈ path.nodeIds) ∧
        ((∃ path ∈ (document.paths limit none).1, path.cyclic = true) ↔
          ∃ id, document.followableLinks.Reaches start.id id ∧
            Relation.TransGen document.followableLinks.LeadsWithin id id) ∧
        ((∃ path ∈ (document.paths limit none).1, path.cyclic = true) →
          ∃ ids, .cycle ids ∈ Check.flowFindings document document.flow) ∧
        ((∀ ids, .cycle ids ∉ Check.flowFindings document document.flow) →
          ∀ path ∈ (document.paths limit none).1, path.cyclic = false ∧ path.nodeIds.Nodup) := by
  refine ⟨exists_enough_paths document, ?_⟩
  intro limit whole
  rw [paths_of_start? starts] at whole ⊢
  rw [pathsFrom_eq_allPaths whole]
  refine ⟨?_, exists_cyclic_path_iff, exists_cycle_reported, ?_⟩
  · intro id
    rw [mem_flow_reachable starts]
    exact reaches_iff_exists_path
  · intro silent path listed
    have straight : path.cyclic = false := by
      rw [← Bool.not_eq_true]
      intro cyclic
      rcases exists_cycle_reported ⟨path, listed, cyclic⟩ with ⟨ids, reported⟩
      exact silent ids reported
    exact ⟨straight, (mem_extensions.mp listed).nodup straight List.nodup_nil⟩

/-- A level that leads to the first of two levels that lead to each other. -/
def roundabout : Document where
  nodes := [
    ⟨"enter", "", .level none none [], [], by decide⟩,
    ⟨"north", "", .level none none [], [], by decide⟩,
    ⟨"south", "", .level none none [], [], by decide⟩]
  edges := [
    ⟨"in", "enter", "north", none, by decide, by decide, by decide⟩,
    ⟨"round", "north", "south", none, by decide, by decide, by decide⟩,
    ⟨"back", "south", "north", none, by decide, by decide, by decide⟩]
  distinct := by decide

/-- A path comes round the two levels, so the cycle is reported. -/
theorem flow_agrees_with_paths_roundabout :
    roundabout.start? = some ⟨"enter", "", .level none none [], [], by decide⟩ ∧
      ∃ limit, (roundabout.paths limit none).2 = false ∧
        (∃ path ∈ (roundabout.paths limit none).1, path.cyclic = true) ∧
        ∃ ids, .cycle ids ∈ Check.flowFindings roundabout roundabout.flow := by
  have starts : roundabout.start? = some ⟨"enter", "", .level none none [], [], by decide⟩ := rfl
  rcases flow_agrees_with_paths starts with ⟨⟨enough, whole⟩, agrees⟩
  rcases agrees enough (whole enough le_rfl) with ⟨_, cyclic, reported, _⟩
  have enters : roundabout.followableLinks.Leads "enter" "north" :=
    leads_followableLinks.mpr ⟨_, rfl, List.mem_cons_self⟩
  have onward : roundabout.followableLinks.Leads "north" "south" :=
    leads_followableLinks.mpr ⟨_, rfl, List.mem_cons_self⟩
  have back : roundabout.followableLinks.Leads "south" "north" :=
    leads_followableLinks.mpr ⟨_, rfl, List.mem_cons_self⟩
  have round := cyclic.mpr ⟨"north", .single enters,
    .tail (.single (leadsWithin_of_leads onward (by decide))) (leadsWithin_of_leads back (by decide))⟩
  exact ⟨starts, enough, whole enough le_rfl, round, reported round⟩

end Document
end WorkflowWalk
