import Mathlib.Logic.Relation
import WorkflowWalk.Flow.Reachable

/-!
# Reachability along links

The search for what can be reached from an id puts the entries of an id aside once it has been
looked at. What it finds is nevertheless all that can be reached along any entries.
-/

namespace WorkflowWalk
namespace Links

def Leads (links : Links) (id target : String) : Prop :=
  target ∈ links.successors id

def Reaches (links : Links) : String → String → Prop :=
  Relation.ReflTransGen links.Leads

/-!
## Links without the entries of one id
-/

theorem leads_without
    {links : Links} {id source target : String} :
    (links.without id).Leads source target ↔ source ≠ id ∧ links.Leads source target := by
  simp only [Leads, mem_successors, without, List.mem_filter, ne_eq, decide_eq_true_eq]
  constructor
  · rintro ⟨targets, ⟨member, differs⟩, among⟩
    exact ⟨differs, targets, member, among⟩
  · rintro ⟨differs, targets, member, among⟩
    exact ⟨targets, ⟨member, differs⟩, among⟩

theorem Reaches.of_without
    {links : Links} {id source target : String}
    (reaches : (links.without id).Reaches source target) :
    links.Reaches source target :=
  Relation.ReflTransGen.mono (fun _ _ leads => (leads_without.mp leads).2) _ _ reaches

/-- A way that passes an id can be cut behind the last place where it does. -/
theorem Reaches.without
    {links : Links} (id : String) {source target : String}
    (reaches : links.Reaches source target) :
    (links.without id).Reaches source target ∨ target = id ∨
      ∃ next, links.Leads id next ∧ (links.without id).Reaches next target := by
  induction reaches with
  | refl =>
      exact Or.inl .refl
  | @tail middle last _ leads ih =>
      by_cases same : middle = id
      · exact Or.inr (Or.inr ⟨last, same ▸ leads, .refl⟩)
      · have kept : (links.without id).Leads middle last := leads_without.mpr ⟨same, leads⟩
        rcases ih with avoids | here | ⟨next, first, avoids⟩
        · exact Or.inl (avoids.tail kept)
        · exact absurd here same
        · exact Or.inr (Or.inr ⟨next, first, avoids.tail kept⟩)

theorem Reaches.eq_of_not_mem_sources
    {links : Links} {source target : String} (reaches : links.Reaches source target)
    (absent : source ∉ links.sources) :
    target = source := by
  rcases Relation.ReflTransGen.cases_head reaches with same | ⟨next, leads, _⟩
  · exact same.symm
  · rw [Leads, successors_eq_nil absent] at leads
    cases leads

/-!
## The search
-/

/-- The ids found already have no entries left, so a way from a pending id never needs to pass one
of them. -/
theorem mem_explore
    {links : Links} {found pending : List String} {id : String}
    (settled : ∀ met ∈ found, met ∉ links.sources) :
    id ∈ links.explore found pending ↔
      id ∈ found ∨ ∃ origin ∈ pending, links.Reaches origin id := by
  induction links, found, pending using explore.induct with
  | case1 links found =>
      simp [explore]
  | case2 links found first pending known ih =>
      rw [explore, if_pos known, ih settled]
      constructor
      · rintro (inFound | ⟨origin, member, reaches⟩)
        · exact Or.inl inFound
        · exact Or.inr ⟨origin, List.mem_cons_of_mem _ member, reaches⟩
      · rintro (inFound | ⟨origin, member, reaches⟩)
        · exact Or.inl inFound
        · rcases List.mem_cons.mp member with rfl | later
          · rw [reaches.eq_of_not_mem_sources (settled origin known)]
            exact Or.inl known
          · exact Or.inr ⟨origin, later, reaches⟩
  | case3 links found first pending unknown ih =>
      have settledNow : ∀ met ∈ first :: found, met ∉ (links.without first).sources := by
        intro met member inSources
        rw [mem_sources_without] at inSources
        rcases List.mem_cons.mp member with same | later
        · exact inSources.1 same
        · exact settled met later inSources.2
      rw [explore, if_neg unknown, ih settledNow]
      constructor
      · rintro (member | ⟨origin, member, reaches⟩)
        · rcases List.mem_cons.mp member with rfl | inFound
          · exact Or.inr ⟨id, List.mem_cons_self, .refl⟩
          · exact Or.inl inFound
        · rcases List.mem_append.mp member with next | later
          · exact Or.inr ⟨first, List.mem_cons_self,
              Relation.ReflTransGen.head next reaches.of_without⟩
          · exact Or.inr ⟨origin, List.mem_cons_of_mem _ later, reaches.of_without⟩
      · rintro (inFound | ⟨origin, member, reaches⟩)
        · exact Or.inl (List.mem_cons_of_mem _ inFound)
        · rcases reaches.without first with avoids | rfl | ⟨next, leads, avoids⟩
          · rcases List.mem_cons.mp member with rfl | later
            · rw [avoids.eq_of_not_mem_sources (settledNow origin List.mem_cons_self)]
              exact Or.inl List.mem_cons_self
            · exact Or.inr ⟨origin, List.mem_append_right _ later, avoids⟩
          · exact Or.inl List.mem_cons_self
          · exact Or.inr ⟨next, List.mem_append_left _ leads, avoids⟩

theorem mem_reachable
    {links : Links} {start id : String} :
    id ∈ links.reachable start ↔ links.Reaches start id := by
  rw [reachable, Text.sorted, List.mem_mergeSort, mem_explore]
  · simp
  · intro met member
    cases member

end Links
end WorkflowWalk
