import WorkflowWalk.Flow.Paths

/-!
# Paths by rules

The paths that are listed are those that four rules make: a path ends at one of its own ids, at an
id that no node has, or at a node that nothing can be followed out of, and else it goes on with any
of the targets. The first paths are a beginning of that list.
-/

namespace WorkflowWalk
namespace Document

/-- A path extends the ids visited by an id; they have the last one first. -/
inductive Extends (document : Document) : List String → String → Path → Prop
  | revisit {visited : List String} {id : String} (seen : id ∈ visited) :
      Extends document visited id ⟨(id :: visited).reverse, true⟩
  | unknown {visited : List String} {id : String} (fresh : id ∉ visited)
      (absent : document.node? id = none) :
      Extends document visited id ⟨(id :: visited).reverse, false⟩
  | rest {visited : List String} {id : String} {node : Node} (fresh : id ∉ visited)
      (found : document.node? id = some node) (sink : document.followableTargets node = []) :
      Extends document visited id ⟨(id :: visited).reverse, false⟩
  | onward {visited : List String} {id : String} {node : Node} {target : String} {path : Path}
      (fresh : id ∉ visited) (found : document.node? id = some node)
      (leads : target ∈ document.followableTargets node)
      (later : Extends document (id :: visited) target path) :
      Extends document visited id path

variable {document : Document}

/-!
## The list by cases
-/

theorem extensionsAlong_eq_flatMap (visited targets : List String) :
    document.extensionsAlong visited targets = targets.flatMap (document.extensions visited) := by
  induction targets with
  | nil =>
      rw [extensionsAlong, List.flatMap_nil]
  | cons target rest ih =>
      rw [extensionsAlong, List.flatMap_cons, ih]

theorem extensions_of_revisit
    {visited : List String} {id : String} (seen : id ∈ visited) :
    document.extensions visited id = [⟨(id :: visited).reverse, true⟩] := by
  rw [extensions, if_pos seen]

theorem extensions_of_unknown
    {visited : List String} {id : String} (fresh : id ∉ visited)
    (absent : document.node? id = none) :
    document.extensions visited id = [⟨(id :: visited).reverse, false⟩] := by
  rw [extensions, if_neg fresh]
  split
  · rfl
  · rename_i found
    rw [absent] at found
    cases found

theorem extensions_of_known
    {visited : List String} {id : String} {node : Node} (fresh : id ∉ visited)
    (found : document.node? id = some node) :
    document.extensions visited id =
      if document.followableTargets node = [] then
        [⟨(id :: visited).reverse, false⟩]
      else
        (document.followableTargets node).flatMap (document.extensions (id :: visited)) := by
  rw [extensions, if_neg fresh]
  split
  · rename_i absent
    rw [found] at absent
    cases absent
  · rename_i other same
    rw [found, Option.some.injEq] at same
    subst same
    cases leads : document.followableTargets node with
    | nil =>
        rfl
    | cons first rest =>
        rw [if_neg (List.cons_ne_nil _ _)]
        exact extensionsAlong_eq_flatMap _ _

/-!
## The list by rules
-/

theorem Extends.mem_extensions
    {visited : List String} {id : String} {path : Path}
    (extension : document.Extends visited id path) :
    path ∈ document.extensions visited id := by
  induction extension with
  | revisit seen =>
      rw [extensions_of_revisit seen]
      exact List.mem_cons_self
  | unknown fresh absent =>
      rw [extensions_of_unknown fresh absent]
      exact List.mem_cons_self
  | rest fresh found sink =>
      rw [extensions_of_known fresh found, if_pos sink]
      exact List.mem_cons_self
  | onward fresh found leads later ih =>
      rw [extensions_of_known fresh found, if_neg (List.ne_nil_of_mem leads)]
      exact List.mem_flatMap.mpr ⟨_, leads, ih⟩

theorem mem_extensions
    {visited : List String} {id : String} {path : Path} :
    path ∈ document.extensions visited id ↔ document.Extends visited id path := by
  refine ⟨?_, Extends.mem_extensions⟩
  intro member
  -- The induction is on the ids that are left to be visited.
  generalize left : (document.unvisited visited).length = size
  induction size using Nat.strongRecOn generalizing visited id with
  | ind size ih =>
      by_cases seen : id ∈ visited
      · rw [extensions_of_revisit seen, List.mem_singleton] at member
        rw [member]
        exact .revisit seen
      cases found : document.node? id with
      | none =>
          rw [extensions_of_unknown seen found, List.mem_singleton] at member
          rw [member]
          exact .unknown seen found
      | some node =>
          rw [extensions_of_known seen found] at member
          split at member
          · rename_i sink
            rw [List.mem_singleton.mp member]
            exact .rest seen found sink
          · rcases List.mem_flatMap.mp member with ⟨target, leads, among⟩
            have fewer := document.length_unvisited_cons_lt (mem_nodeIds_of_node? found) seen
            rw [left] at fewer
            exact .onward seen found leads (ih _ fewer among rfl)

/-!
## Every way goes on to the end of a path
-/

theorem Extends.isPrefix
    {visited : List String} {id : String} {path : Path}
    (extension : document.Extends visited id path) :
    (id :: visited).reverse <+: path.nodeIds := by
  induction extension with
  | revisit | unknown | rest =>
      exact List.prefix_rfl
  | @onward visited id node target path fresh found leads later ih =>
      rw [List.reverse_cons] at ih
      exact (List.prefix_append _ _).trans ih

theorem exists_extends
    (document : Document) (visited : List String) (id : String) :
    ∃ path, document.Extends visited id path := by
  generalize left : (document.unvisited visited).length = size
  induction size using Nat.strongRecOn generalizing visited id with
  | ind size ih =>
      by_cases seen : id ∈ visited
      · exact ⟨_, .revisit seen⟩
      cases found : document.node? id with
      | none =>
          exact ⟨_, .unknown seen found⟩
      | some node =>
          cases leads : document.followableTargets node with
          | nil =>
              exact ⟨_, .rest seen found leads⟩
          | cons target rest =>
              have fewer := document.length_unvisited_cons_lt (mem_nodeIds_of_node? found) seen
              rw [left] at fewer
              rcases ih _ fewer (id :: visited) target rfl with ⟨path, later⟩
              exact ⟨path, .onward seen found (leads ▸ List.mem_cons_self) later⟩

/-!
## The first paths

The search for the first paths stops as soon as it has found enough, and what it has found then is a
beginning of the whole list.
-/

theorem firstAlong_eq_take_of
    {visited : List String}
    (first : ∀ room ≠ 0, ∀ target, document.firstExtensions room visited target =
      (document.extensions visited target).take room)
    (room : Nat) (targets : List String) :
    document.firstAlong room visited targets =
      (targets.flatMap (document.extensions visited)).take room := by
  induction targets generalizing room with
  | nil =>
      rw [firstAlong, List.flatMap_nil, List.take_nil]
  | cons target rest ih =>
      rw [firstAlong]
      by_cases full : room = 0
      · rw [if_pos full, full, List.take_zero]
      · simp only [if_neg full]
        rw [first room full, ih, List.flatMap_cons, List.take_append, List.length_take]
        congr 2
        omega

theorem firstExtensions_eq_take
    {room : Nat} (some : room ≠ 0) (visited : List String) (id : String) :
    document.firstExtensions room visited id = (document.extensions visited id).take room := by
  generalize left : (document.unvisited visited).length = size
  induction size using Nat.strongRecOn generalizing visited id room with
  | ind size ih =>
      have one : ∀ path : Path, [path] = [path].take room := by
        intro path
        exact (List.take_of_length_le (Nat.one_le_iff_ne_zero.mpr some)).symm
      rw [firstExtensions]
      by_cases seen : id ∈ visited
      · rw [if_pos seen, extensions_of_revisit seen]
        exact one _
      rw [if_neg seen]
      split
      · rename_i absent
        rw [extensions_of_unknown seen absent]
        exact one _
      · rename_i node found
        have fewer := document.length_unvisited_cons_lt (mem_nodeIds_of_node? found) seen
        rw [left] at fewer
        rw [extensions_of_known seen found]
        cases leads : document.followableTargets node with
        | nil =>
            rw [if_pos rfl]
            exact one _
        | cons target rest =>
            rw [if_neg (List.cons_ne_nil _ _)]
            apply firstAlong_eq_take_of
            intro room some target
            exact ih _ fewer some (id :: visited) target rfl

theorem pathsFrom_eq (limit : Nat) (start : String) :
    document.pathsFrom limit start =
      ((document.allPaths start).take limit,
        decide (limit < (document.allPaths start).length)) := by
  rw [pathsFrom, firstExtensions_eq_take (Nat.succ_ne_zero limit), allPaths, List.take_take,
    List.length_take, Nat.min_eq_left (Nat.le_succ limit)]
  congr 2
  rw [eq_iff_iff]
  omega

theorem pathsFrom_eq_allPaths
    {limit : Nat} {start : String} (whole : (document.pathsFrom limit start).2 = false) :
    (document.pathsFrom limit start).1 = document.allPaths start := by
  rw [pathsFrom_eq] at whole ⊢
  exact List.take_of_length_le (Nat.le_of_not_lt (of_decide_eq_false whole))

theorem pathsFrom_whole
    {limit : Nat} {start : String} (enough : (document.allPaths start).length ≤ limit) :
    (document.pathsFrom limit start).2 = false := by
  rw [pathsFrom_eq]
  exact decide_eq_false (Nat.not_lt_of_le enough)

/-!
## Paths from the start
-/

theorem paths_of_start?
    {document : Document} {start : Node} (starts : document.start? = some start) (limit : Nat) :
    document.paths limit none = document.pathsFrom limit start.id := by
  rw [paths, starts]
  rfl

theorem paths_of_startless
    {document : Document} (startless : document.start? = none) (limit : Nat) :
    document.paths limit none = ([], false) := by
  rw [paths, startless]
  rfl

theorem exists_enough_paths (document : Document) :
    ∃ enough, ∀ limit, enough ≤ limit → (document.paths limit none).2 = false := by
  cases starts : document.start? with
  | none =>
      refine ⟨0, ?_⟩
      intro limit _
      rw [paths_of_startless starts]
  | some start =>
      refine ⟨(document.allPaths start.id).length, ?_⟩
      intro limit enough
      rw [paths_of_start? starts]
      exact pathsFrom_whole enough

end Document
end WorkflowWalk
