import Mathlib.Data.List.Chain
import WorkflowWalk.Proofs.Flow.Acyclic

/-!
# Cycles that are found

What the search for a cycle returns is a cycle: a way along entries that comes back to its first id
and passes no other id twice.
-/

namespace WorkflowWalk
namespace Links

/-- A way along entries from an id back to it, on which no other id is repeated. -/
structure IsCycle (links : Links) (ids : List String) : Prop where
  closed : ∃ first inner, ids = first :: inner ++ [first] ∧ (first :: inner).Nodup
  chain : ids.IsChain links.LeadsWithin

theorem IsCycle.exists_next
    {links : Links} {ids : List String} (cycle : links.IsCycle ids) {id : String}
    (member : id ∈ ids) :
    ∃ target ∈ ids, links.LeadsWithin id target := by
  rcases cycle.closed with ⟨first, inner, rfl, _⟩
  have among : id ∈ first :: inner := by
    rcases List.mem_append.mp member with here | last
    · exact here
    · rw [List.mem_singleton.mp last]
      exact List.mem_cons_self
  rcases List.mem_iff_append.mp among with ⟨before, after, parts⟩
  have chain := cycle.chain
  rw [parts, List.append_assoc, List.cons_append] at chain
  cases behind : after ++ [first] with
  | nil =>
      exact absurd behind (by simp)
  | cons next rest =>
      rw [behind] at chain
      refine ⟨next, ?_, (List.isChain_append_cons_cons.mp chain).2.1⟩
      rw [parts, List.append_assoc, List.cons_append, behind]
      simp

theorem transGen_of_isChain
    {R : String → String → Prop} {first last : String} {inner : List String}
    (chain : (first :: inner ++ [last]).IsChain R) :
    Relation.TransGen R first last := by
  induction inner generalizing first with
  | nil =>
      exact .single (List.isChain_cons_cons.mp chain).1
  | cons next rest ih =>
      rcases List.isChain_cons_cons.mp chain with ⟨leads, later⟩
      exact .head leads (ih later)

theorem IsCycle.not_acyclic
    {links : Links} {ids : List String} (cycle : links.IsCycle ids) :
    ¬links.Acyclic := by
  intro acyclic
  rcases cycle.closed with ⟨first, inner, rfl, _⟩
  exact acyclic first (transGen_of_isChain cycle.chain)

/-!
## Closing a way
-/

theorem closeCycle_append
    {passed : List String} {target : String} (off : target ∉ passed) (rest : List String) :
    closeCycle (passed ++ target :: rest) target = target :: passed.reverse ++ [target] := by
  have taken : (passed ++ target :: rest).takeWhile (· ≠ target) = passed := by
    rw [List.takeWhile_append_of_pos, List.takeWhile_cons_of_neg (by simp), List.append_nil]
    intro id among
    rw [decide_eq_true_eq]
    rintro rfl
    exact off among
  rw [closeCycle, taken]

/-- A way is closed from the last place where it has passed an id. The way has its last id first. -/
theorem isCycle_closeCycle
    {links : Links} {way : List String} {target : String} (member : target ∈ way)
    (distinct : way.Nodup) (chain : way.IsChain fun id before => links.LeadsWithin before id)
    (last : ∀ id ∈ way.head?, links.LeadsWithin id target) :
    links.IsCycle (closeCycle way target) := by
  rcases List.eq_append_cons_of_mem member with ⟨passed, rest, rfl, off⟩
  have turned : target :: passed.reverse = (passed ++ [target]).reverse := by
    rw [List.reverse_append, List.reverse_singleton, List.singleton_append]
  rw [closeCycle_append off]
  constructor
  · refine ⟨target, passed.reverse, rfl, ?_⟩
    rw [turned, (List.reverse_perm _).nodup_iff]
    rw [List.append_cons] at distinct
    exact (List.nodup_append.mp distinct).1
  · rw [turned]
    apply List.IsChain.append
    · rw [List.isChain_reverse]
      rw [List.append_cons] at chain
      exact chain.left_of_append
    · exact List.isChain_singleton target
    · intro id atEnd other here
      cases Option.mem_some_iff.mp here
      apply last
      rw [List.getLast?_reverse] at atEnd
      cases passed <;> exact atEnd

/-!
## The invariant of the search

The ids on the way lead one to the next, and each of them leads to its targets that are still to be
looked at.
-/

/-- Where a search stands: `fresh` are the entries that it has not met, and `way` is the way it has
come by, its last id first. -/
structure Way (links fresh : Links) (way : List Frame) : Prop where
  kept : ∀ id ∈ fresh.sources, id ∈ links.sources ∧ fresh.targets? id = links.targets? id
  apart : ∀ id ∈ wayIds way, id ∈ links.sources ∧ id ∉ fresh.sources
  distinct : (wayIds way).Nodup
  chain : (wayIds way).IsChain fun id before => links.LeadsWithin before id
  left : ∀ frame ∈ way, ∃ targets, links.targets? frame.1 = some targets ∧ frame.2 ⊆ targets

namespace Way

variable {links fresh : Links} {way : List Frame}

theorem start (links : Links) : Way links links [] where
  kept _ member := ⟨member, rfl⟩
  apart _ member := by cases member
  distinct := List.nodup_nil
  chain := List.isChain_nil
  left _ member := by cases member

theorem enter
    {id : String} {targets : List String} (on : Way links fresh way)
    (entry : fresh.targets? id = some targets)
    (leads : ∀ before ∈ (wayIds way).head?, links.LeadsWithin before id) :
    Way links (fresh.without id) ((id, targets) :: way) where
  kept other member := by
    rw [mem_sources_without] at member
    rw [targets?_without fresh member.1]
    exact on.kept other member.2
  apart other member := by
    rw [mem_sources_without]
    rcases List.mem_cons.mp member with rfl | before
    · exact ⟨(on.kept other (mem_sources_of_targets? entry)).1, fun unmet => unmet.1 rfl⟩
    · exact ⟨(on.apart other before).1, fun unmet => (on.apart other before).2 unmet.2⟩
  distinct := by
    refine List.nodup_cons.mpr ⟨?_, on.distinct⟩
    intro before
    exact (on.apart id before).2 (mem_sources_of_targets? entry)
  chain := List.isChain_cons.mpr ⟨leads, on.chain⟩
  left frame member := by
    rcases List.mem_cons.mp member with rfl | below
    · refine ⟨targets, ?_, List.Subset.refl _⟩
      rw [← entry]
      exact (on.kept id (mem_sources_of_targets? entry)).2.symm
    · exact on.left frame below

theorem leave {frame : Frame} (on : Way links fresh (frame :: way)) : Way links fresh way where
  kept := on.kept
  apart id member := on.apart id (List.mem_cons_of_mem _ member)
  distinct := (List.nodup_cons.mp on.distinct).2
  chain := on.chain.tail
  left other member := on.left other (List.mem_cons_of_mem _ member)

theorem pass
    {id target : String} {targets : List String}
    (on : Way links fresh ((id, target :: targets) :: way)) :
    Way links fresh ((id, targets) :: way) where
  kept := on.kept
  apart := on.apart
  distinct := on.distinct
  chain := on.chain
  left frame member := by
    rcases List.mem_cons.mp member with rfl | below
    · rcases on.left _ List.mem_cons_self with ⟨all, entry, among⟩
      exact ⟨all, entry, fun _ later => among (List.mem_cons_of_mem _ later)⟩
    · exact on.left frame (List.mem_cons_of_mem _ below)

theorem leadsWithin
    {id target : String} {targets : List String}
    (on : Way links fresh ((id, target :: targets) :: way)) (known : target ∈ links.sources) :
    links.LeadsWithin id target := by
  rcases on.left _ List.mem_cons_self with ⟨all, entry, among⟩
  exact ⟨⟨all, entry, among List.mem_cons_self⟩, known⟩

end Way

/-!
## What the search finds is a cycle
-/

theorem Way.isCycle_of_searchCycle
    {links fresh : Links} {roots : List String} {way : List Frame} (on : Way links fresh way)
    {cycle : List String} (found : searchCycle fresh roots way = some cycle) :
    links.IsCycle cycle := by
  induction fresh, roots, way using searchCycle.induct with
  | case1 fresh =>
      rw [searchCycle] at found
      cases found
  | case2 fresh root rest targets entry ih =>
      rw [searchCycle, entry] at found
      refine ih (on.enter entry ?_) found
      intro before none
      cases none
  | case3 fresh root rest absent ih =>
      rw [searchCycle, absent] at found
      exact ih on found
  | case4 fresh roots id below ih =>
      rw [searchCycle] at found
      exact ih on.leave found
  | case5 fresh roots id target targets below closes =>
      rw [searchCycle, if_pos closes, Option.some.injEq] at found
      have member : target ∈ id :: wayIds below := by
        simpa using closes
      have leads := on.leadsWithin (on.apart target member).1
      rw [← found]
      apply isCycle_closeCycle member on.distinct on.chain
      intro last same
      cases same
      exact leads
  | case6 fresh roots id target targets below opens next entry ih =>
      rw [searchCycle, if_neg opens, entry] at found
      refine ih (on.pass.enter entry ?_) found
      intro before same
      cases same
      exact on.leadsWithin (on.kept target (mem_sources_of_targets? entry)).1
  | case7 fresh roots id target targets below opens absent ih =>
      rw [searchCycle, if_neg opens, absent] at found
      exact ih on.pass found

theorem isCycle_of_findCycle
    {links : Links} {order cycle : List String} (found : links.findCycle order = some cycle) :
    links.IsCycle cycle :=
  (Way.start links).isCycle_of_searchCycle found

end Links
end WorkflowWalk
