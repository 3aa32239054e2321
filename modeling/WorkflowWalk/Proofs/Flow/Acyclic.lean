import Mathlib.Logic.Relation
import WorkflowWalk.Flow.Cycle

/-!
# Links without cycles

If the search for a cycle finds none, it has left every id for good, and each id after all ids that
it leads to. The order in which the ids were left shows that there is no cycle.
-/

namespace WorkflowWalk
namespace Links

/-- An id with an entry leads to another id with an entry, by the first entry of the former. -/
def LeadsWithin (links : Links) (id target : String) : Prop :=
  (∃ targets, links.targets? id = some targets ∧ target ∈ targets) ∧ target ∈ links.sources

def Acyclic (links : Links) : Prop :=
  ∀ id, ¬Relation.TransGen links.LeadsWithin id id

/-!
## Entries by id
-/

theorem targets?_cons (source : String) (targets : List String) (rest : Links) (id : String) :
    targets? ((source, targets) :: rest) id =
      if id = source then some targets else targets? rest id := by
  by_cases same : id = source
  · simp [targets?, same]
  · have differs : (id == source) = false := by
      simpa using same
    simp [targets?, List.lookup_cons, differs, same]

theorem exists_targets_of_mem_sources
    {links : Links} {id : String} (member : id ∈ links.sources) :
    ∃ targets, links.targets? id = some targets := by
  induction links with
  | nil =>
      cases member
  | cons first rest ih =>
      rcases first with ⟨source, targets⟩
      rw [targets?_cons]
      by_cases same : id = source
      · exact ⟨targets, if_pos same⟩
      · rw [if_neg same]
        rcases List.mem_cons.mp member with here | later
        · exact absurd here same
        · exact ih later

theorem targets?_without
    (links : Links) {id other : String} (differs : other ≠ id) :
    (links.without id).targets? other = links.targets? other := by
  induction links with
  | nil =>
      rfl
  | cons first rest ih =>
      rcases first with ⟨source, targets⟩
      rw [targets?_cons]
      by_cases dropped : source = id
      · have shorter : without ((source, targets) :: rest) id = without rest id := by
          simp [without, dropped]
        rw [shorter, ih, if_neg (dropped ▸ differs)]
      · have kept : without ((source, targets) :: rest) id =
            (source, targets) :: without rest id := by
          simp [without, dropped]
        rw [kept, targets?_cons, ih]

/-!
## Orders in which nothing leads back
-/

/-- Each id of a list leads only to ids behind it. -/
def Sinks (links : Links) : List String → Prop
  | [] => True
  | id :: rest => (∀ target, links.LeadsWithin id target → target ∈ rest) ∧ links.Sinks rest

theorem Sinks.closed
    {links : Links} {settled : List String} (sinks : links.Sinks settled) {id target : String}
    (member : id ∈ settled) (leads : links.LeadsWithin id target) :
    target ∈ settled := by
  induction settled with
  | nil =>
      cases member
  | cons first rest ih =>
      rcases List.mem_cons.mp member with rfl | later
      · exact List.mem_cons_of_mem _ (sinks.1 target leads)
      · exact List.mem_cons_of_mem _ (ih sinks.2 later)

theorem Sinks.closed_reflTransGen
    {links : Links} {settled : List String} (sinks : links.Sinks settled) {id target : String}
    (member : id ∈ settled) (leads : Relation.ReflTransGen links.LeadsWithin id target) :
    target ∈ settled := by
  induction leads with
  | refl =>
      exact member
  | tail _ last ih =>
      exact sinks.closed ih last

theorem Sinks.no_return
    {links : Links} {settled : List String} (sinks : links.Sinks settled) {id : String}
    (member : id ∈ settled) :
    ¬Relation.TransGen links.LeadsWithin id id := by
  induction settled with
  | nil =>
      cases member
  | cons first rest ih =>
      intro returns
      rcases List.mem_cons.mp member with rfl | later
      · rcases Relation.TransGen.head'_iff.mp returns with ⟨next, leads, back⟩
        have behind : id ∈ rest := sinks.2.closed_reflTransGen (sinks.1 next leads) back
        exact ih sinks.2 behind returns
      · exact ih sinks.2 later returns

theorem acyclic_of_sinks
    {links : Links} {settled : List String} (sinks : links.Sinks settled)
    (all : ∀ id ∈ links.sources, id ∈ settled) :
    links.Acyclic := by
  intro id returns
  rcases Relation.TransGen.tail'_iff.mp returns with ⟨_, _, last⟩
  exact sinks.no_return (all id last.2) returns

/-!
## The invariant of the search

Of an id on the way all targets have been settled but those still to be looked at and the one that
the way goes on with.
-/

/-- What is known of the frames on the way, the last one first; `next` is what the way goes on
with. -/
def Frames (links : Links) (settled : List String) (next : Option String) : List Frame → Prop
  | [] => True
  | (id, left) :: below =>
      (∀ target, links.LeadsWithin id target →
        target ∈ left ∨ target ∈ settled ∨ next = some target) ∧
      links.Frames settled (some id) below

theorem Frames.weaken
    {links : Links} {settled : List String} {next : Option String} {way : List Frame}
    (frames : links.Frames settled next way) (id : String) :
    links.Frames (id :: settled) next way := by
  induction way generalizing next with
  | nil =>
      trivial
  | cons frame below ih =>
      refine ⟨?_, ih frames.2⟩
      intro target leads
      rcases frames.1 target leads with left | done | same
      · exact Or.inl left
      · exact Or.inr (Or.inl (List.mem_cons_of_mem _ done))
      · exact Or.inr (Or.inr same)

theorem Frames.settle
    {links : Links} {settled : List String} {id : String} {way : List Frame}
    (frames : links.Frames settled (some id) way) :
    links.Frames (id :: settled) none way := by
  cases way with
  | nil =>
      trivial
  | cons frame below =>
      refine ⟨?_, frames.2.weaken id⟩
      intro target leads
      rcases frames.1 target leads with left | done | same
      · exact Or.inl left
      · exact Or.inr (Or.inl (List.mem_cons_of_mem _ done))
      · cases same
        exact Or.inr (Or.inl List.mem_cons_self)

/-- Where a search stands: `fresh` are the entries that it has not met, `roots` the ids it has still
to start from, `way` is the way it has come by, and `settled` are the ids it has left for good, the
last one first. -/
structure Search (links fresh : Links) (roots : List String) (way : List Frame)
    (settled : List String) : Prop where
  kept : ∀ id ∈ fresh.sources, fresh.targets? id = links.targets? id
  met : ∀ id ∈ links.sources, id ∈ fresh.sources ∨ id ∈ wayIds way ∨ id ∈ settled
  pending : ∀ id ∈ fresh.sources, id ∈ roots
  sinks : links.Sinks settled
  frames : links.Frames settled none way

namespace Search

variable {links fresh : Links} {roots : List String} {way : List Frame} {settled : List String}

theorem start {order : List String} (complete : ∀ id ∈ links.sources, id ∈ order) :
    Search links links order [] [] where
  kept _ _ := rfl
  met _ member := Or.inl member
  pending := complete
  sinks := trivial
  frames := trivial

theorem skipRoot {root : String} (search : Search links fresh (root :: roots) way settled)
    (absent : root ∉ fresh.sources) :
    Search links fresh roots way settled where
  kept := search.kept
  met := search.met
  pending id member := by
    rcases List.mem_cons.mp (search.pending id member) with rfl | later
    · exact absurd member absent
    · exact later
  sinks := search.sinks
  frames := search.frames

theorem enter
    {id : String} {targets : List String} {below : List Frame}
    (search : Search links fresh roots way settled)
    (entry : fresh.targets? id = some targets) (same : wayIds below = wayIds way)
    (frames : links.Frames settled (some id) below) :
    Search links (fresh.without id) roots ((id, targets) :: below) settled where
  kept other member := by
    rw [mem_sources_without] at member
    rw [targets?_without fresh member.1]
    exact search.kept other member.2
  met other member := by
    by_cases here : other = id
    · exact Or.inr (Or.inl (here ▸ List.mem_cons_self))
    · rcases search.met other member with unmet | onWay | done
      · exact Or.inl (mem_sources_without.mpr ⟨here, unmet⟩)
      · rw [← same] at onWay
        exact Or.inr (Or.inl (List.mem_cons_of_mem _ onWay))
      · exact Or.inr (Or.inr done)
  pending other member := search.pending other (mem_sources_without.mp member).2
  sinks := search.sinks
  frames := by
    refine ⟨?_, frames⟩
    rintro target ⟨⟨all, first, among⟩, _⟩
    rw [← search.kept id (mem_sources_of_targets? entry), entry, Option.some.injEq] at first
    exact Or.inl (first ▸ among)

theorem leave {id : String} (search : Search links fresh roots ((id, []) :: way) settled) :
    Search links fresh roots way (id :: settled) where
  kept := search.kept
  met other member := by
    rcases search.met other member with unmet | onWay | done
    · exact Or.inl unmet
    · rcases List.mem_cons.mp onWay with rfl | below
      · exact Or.inr (Or.inr List.mem_cons_self)
      · exact Or.inr (Or.inl below)
    · exact Or.inr (Or.inr (List.mem_cons_of_mem _ done))
  pending := search.pending
  sinks := by
    refine ⟨?_, search.sinks⟩
    intro target leads
    rcases search.frames.1 target leads with left | done | next
    · cases left
    · exact done
    · cases next
  frames := search.frames.2.settle

/-- A target that is neither on the way nor left to be met has been settled, if it has an entry. -/
theorem pass
    {id target : String} {targets : List String}
    (search : Search links fresh roots ((id, target :: targets) :: way) settled)
    (off : target ∉ id :: wayIds way) (absent : target ∉ fresh.sources) :
    Search links fresh roots ((id, targets) :: way) settled where
  kept := search.kept
  met := search.met
  pending := search.pending
  sinks := search.sinks
  frames := by
    refine ⟨?_, search.frames.2⟩
    intro other leads
    rcases search.frames.1 other leads with left | done | next
    · rcases List.mem_cons.mp left with rfl | later
      · rcases search.met other leads.2 with unmet | onWay | done
        · exact absurd unmet absent
        · exact absurd onWay off
        · exact Or.inr (Or.inl done)
      · exact Or.inl later
    · exact Or.inr (Or.inl done)
    · cases next

theorem descend
    {id target : String} {targets : List String}
    (search : Search links fresh roots ((id, target :: targets) :: way) settled) :
    links.Frames settled (some target) ((id, targets) :: way) := by
  refine ⟨?_, search.frames.2⟩
  intro other leads
  rcases search.frames.1 other leads with left | done | next
  · rcases List.mem_cons.mp left with rfl | later
    · exact Or.inr (Or.inr rfl)
    · exact Or.inl later
  · exact Or.inr (Or.inl done)
  · cases next

end Search

/-!
## The search finds every cycle
-/

theorem not_mem_sources_of_targets?
    {links : Links} {id : String} (absent : links.targets? id = none) :
    id ∉ links.sources := by
  intro member
  rcases exists_targets_of_mem_sources member with ⟨targets, found⟩
  rw [absent] at found
  cases found

theorem Search.exists_sinks
    {links fresh : Links} {roots : List String} {way : List Frame} {settled : List String}
    (search : Search links fresh roots way settled)
    (nothing : searchCycle fresh roots way = none) :
    ∃ order, links.Sinks order ∧ ∀ id ∈ links.sources, id ∈ order := by
  induction fresh, roots, way using searchCycle.induct generalizing settled with
  | case1 fresh =>
      refine ⟨settled, search.sinks, ?_⟩
      intro id member
      rcases search.met id member with unmet | onWay | done
      · exact absurd (search.pending id unmet) List.not_mem_nil
      · cases onWay
      · exact done
  | case2 fresh root rest targets found ih =>
      rw [searchCycle, found] at nothing
      have entered := search.enter found rfl trivial
      exact ih (entered.skipRoot fun member => (mem_sources_without.mp member).1 rfl) nothing
  | case3 fresh root rest found ih =>
      rw [searchCycle, found] at nothing
      exact ih (search.skipRoot (not_mem_sources_of_targets? found)) nothing
  | case4 fresh roots id below ih =>
      rw [searchCycle] at nothing
      exact ih search.leave nothing
  | case5 fresh roots id target targets below closes =>
      rw [searchCycle, if_pos closes] at nothing
      cases nothing
  | case6 fresh roots id target targets below opens next found ih =>
      rw [searchCycle, if_neg opens, found] at nothing
      exact ih (search.enter found rfl search.descend) nothing
  | case7 fresh roots id target targets below opens found ih =>
      rw [searchCycle, if_neg opens, found] at nothing
      have off : target ∉ id :: wayIds below := by
        simpa using opens
      exact ih (search.pass off (not_mem_sources_of_targets? found)) nothing

theorem acyclic_of_findCycle
    {links : Links} {order : List String} (complete : ∀ id ∈ links.sources, id ∈ order)
    (nothing : links.findCycle order = none) :
    links.Acyclic := by
  rcases (Search.start complete).exists_sinks nothing with ⟨settled, sinks, all⟩
  exact acyclic_of_sinks sinks all

end Links
end WorkflowWalk
