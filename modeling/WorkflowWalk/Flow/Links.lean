/-!
# Links between ids

A directed graph on ids: from each id the ids that it leads to, in order. An id without an entry
leads nowhere, and what several entries of an id lead to is taken together.
-/

namespace WorkflowWalk

/-- From each id the ids that it leads to. -/
abbrev Links := List (String × List String)

namespace Links

def successors (links : Links) (id : String) : List String :=
  links.flatMap fun entry => if entry.1 = id then entry.2 else []

def sources (links : Links) : List String :=
  links.map Prod.fst

def without (links : Links) (id : String) : Links :=
  links.filter (·.1 ≠ id)

theorem mem_successors
    {links : Links} {id target : String} :
    target ∈ links.successors id ↔ ∃ targets, (id, targets) ∈ links ∧ target ∈ targets := by
  simp only [successors, List.mem_flatMap]
  constructor
  · rintro ⟨⟨source, targets⟩, member, holds⟩
    by_cases same : source = id
    · subst same
      exact ⟨targets, member, by simpa using holds⟩
    · simp [same] at holds
  · rintro ⟨targets, member, holds⟩
    exact ⟨(id, targets), member, by simpa using holds⟩

theorem length_without_lt
    {links : Links} {id : String} (member : id ∈ links.sources) :
    (links.without id).length < links.length := by
  obtain ⟨entry, inLinks, same⟩ := List.mem_map.mp member
  rw [without, List.length_filter_lt_length_iff_exists]
  exact ⟨entry, inLinks, by simp [same]⟩

theorem mem_sources_without
    {links : Links} {id source : String} :
    source ∈ (links.without id).sources ↔ source ≠ id ∧ source ∈ links.sources := by
  simp only [sources, without, List.mem_map, List.mem_filter, ne_eq, decide_eq_true_eq]
  constructor
  · rintro ⟨entry, ⟨member, differs⟩, rfl⟩
    exact ⟨differs, entry, member, rfl⟩
  · rintro ⟨differs, entry, member, rfl⟩
    exact ⟨entry, ⟨member, differs⟩, rfl⟩

theorem without_eq_self
    {links : Links} {id : String} (absent : id ∉ links.sources) :
    links.without id = links := by
  rw [without, List.filter_eq_self]
  intro entry member
  simp only [ne_eq, decide_eq_true_eq]
  intro same
  exact absent (List.mem_map.mpr ⟨entry, member, same⟩)

theorem successors_eq_nil
    {links : Links} {id : String} (absent : id ∉ links.sources) :
    links.successors id = [] := by
  rw [successors, List.flatMap_eq_nil_iff]
  intro entry member
  have differs : entry.1 ≠ id := fun same =>
    absent (List.mem_map.mpr ⟨entry, member, same⟩)
  simp [differs]

end Links
end WorkflowWalk
