import Mathlib.Data.List.Chain
import WorkflowWalk.Proofs.Document.Graph
import WorkflowWalk.Proofs.Flow.Paths

/-!
# Paths one after the other

What a path is can be said without a search: its ids follow each other along edges, no id but the
last one comes twice, and nothing could be added at its end. All such paths are listed. A loop that
keeps the beginnings of paths on a stack lists them in the same order, and it stops as soon as it
has as many as were asked for.
-/

namespace WorkflowWalk
namespace Document

/-!
## What paths are
-/

def Follows (document : Document) (id target : String) : Prop :=
  ∃ node, document.node? id = some node ∧ ∃ edge ∈ document.followable node, edge.target = target

structure IsPath (document : Document) (start : String) (path : Path) : Prop where
  starts : path.nodeIds.head? = some start
  linked : path.nodeIds.IsChain document.Follows
  distinct : path.nodeIds.dropLast.Nodup
  returns : path.cyclic = true ↔ ∃ last ∈ path.nodeIds.getLast?, last ∈ path.nodeIds.dropLast
  ends : path.cyclic = false → ∃ last ∈ path.nodeIds.getLast?,
    document.node? last = none ∨
      ∃ node, document.node? last = some node ∧ document.followable node = []

variable {document : Document}

theorem follows_iff
    {id target : String} :
    document.Follows id target ↔
      ∃ node, document.node? id = some node ∧ target ∈ document.followableTargets node := by
  simp only [Follows, followableTargets, List.mem_map]

theorem followableTargets_eq_nil_iff
    {node : Node} :
    document.followableTargets node = [] ↔ document.followable node = [] :=
  List.map_eq_nil_iff

theorem Follows.mem_nodeIds
    {id target : String} (follows : document.Follows id target) :
    id ∈ document.nodeIds := by
  rcases follows with ⟨node, found, _⟩
  exact mem_nodeIds_of_node? found

/-!
## The rules make paths
-/

/-- The ids visited, with one more, are the beginning of a path from an id. -/
structure Begins (document : Document) (start : String) (visited : List String) (id : String) :
    Prop where
  starts : (id :: visited).reverse.head? = some start
  linked : (id :: visited).reverse.IsChain document.Follows
  distinct : visited.Nodup

theorem begins_start (document : Document) (start : String) :
    document.Begins start [] start where
  starts := rfl
  linked := List.isChain_singleton start
  distinct := List.nodup_nil

theorem Begins.onward
    {start id target : String} {visited : List String} (begins : document.Begins start visited id)
    (fresh : id ∉ visited) (follows : document.Follows id target) :
    document.Begins start (id :: visited) target where
  starts := by
    rw [List.reverse_cons, List.head?_append, begins.starts]
    rfl
  linked := by
    rw [List.reverse_cons, List.isChain_append]
    refine ⟨begins.linked, List.isChain_singleton target, ?_⟩
    intro last isLast next isNext
    rw [List.reverse_cons, List.getLast?_concat, Option.mem_some_iff] at isLast
    rw [List.head?_cons, Option.mem_some_iff] at isNext
    rw [← isLast, ← isNext]
    exact follows
  distinct := List.nodup_cons.mpr ⟨fresh, begins.distinct⟩

theorem Begins.isPath_cyclic
    {start id : String} {visited : List String} (begins : document.Begins start visited id)
    (seen : id ∈ visited) :
    document.IsPath start ⟨(id :: visited).reverse, true⟩ where
  starts := begins.starts
  linked := begins.linked
  distinct := by
    rw [List.reverse_cons, List.dropLast_concat]
    exact (List.reverse_perm _).nodup_iff.mpr begins.distinct
  returns := by
    rw [List.reverse_cons, List.dropLast_concat, List.getLast?_concat]
    exact iff_of_true rfl ⟨id, rfl, List.mem_reverse.mpr seen⟩
  ends := by
    intro straight
    cases straight

theorem Begins.isPath_straight
    {start id : String} {visited : List String} (begins : document.Begins start visited id)
    (fresh : id ∉ visited)
    (last : document.node? id = none ∨
      ∃ node, document.node? id = some node ∧ document.followable node = []) :
    document.IsPath start ⟨(id :: visited).reverse, false⟩ where
  starts := begins.starts
  linked := begins.linked
  distinct := by
    rw [List.reverse_cons, List.dropLast_concat]
    exact (List.reverse_perm _).nodup_iff.mpr begins.distinct
  returns := by
    rw [List.reverse_cons, List.dropLast_concat, List.getLast?_concat]
    refine iff_of_false Bool.false_ne_true ?_
    rintro ⟨met, isLast, seen⟩
    rw [Option.mem_some_iff] at isLast
    rw [← isLast, List.mem_reverse] at seen
    exact fresh seen
  ends := by
    intro _
    rw [List.reverse_cons, List.getLast?_concat]
    exact ⟨id, rfl, last⟩

theorem Extends.isPath
    {visited : List String} {id : String} {path : Path}
    (extension : document.Extends visited id path) {start : String}
    (begins : document.Begins start visited id) :
    document.IsPath start path := by
  induction extension with
  | revisit seen =>
      exact begins.isPath_cyclic seen
  | unknown fresh absent =>
      exact begins.isPath_straight fresh (Or.inl absent)
  | rest fresh found sink =>
      exact begins.isPath_straight fresh (Or.inr ⟨_, found, followableTargets_eq_nil_iff.mp sink⟩)
  | onward fresh found leads _ ih =>
      exact ih (begins.onward fresh (follows_iff.mpr ⟨_, found, leads⟩))

/-!
## Paths are made by the rules
-/

theorem IsPath.extends
    {start : String} {path : Path} (isPath : document.IsPath start path)
    {visited rest : List String} {id : String}
    (split : path.nodeIds = (id :: visited).reverse ++ rest) :
    document.Extends visited id path := by
  -- The induction is on the ids of the path that are still to come.
  induction rest generalizing visited id with
  | nil =>
      rw [List.append_nil] at split
      have ended : path.nodeIds = visited.reverse ++ [id] := by
        rw [split, List.reverse_cons]
      have returns := isPath.returns
      have ends := isPath.ends
      simp only [ended, List.getLast?_concat, List.dropLast_concat, Option.mem_some_iff,
        exists_eq_left', List.mem_reverse] at returns ends
      rcases path with ⟨ids, cyclic⟩
      subst split
      cases cyclic with
      | true =>
          exact .revisit (returns.mp rfl)
      | false =>
          have fresh : id ∉ visited := fun seen => Bool.false_ne_true (returns.mpr seen)
          rcases ends rfl with absent | ⟨node, found, sink⟩
          · exact .unknown fresh absent
          · exact .rest fresh found (followableTargets_eq_nil_iff.mpr sink)
  | cons target rest ih =>
      have linked := isPath.linked
      have distinct := isPath.distinct
      rw [split, List.reverse_cons] at linked distinct
      have fresh : id ∉ visited := by
        rw [List.dropLast_append_of_ne_nil (List.cons_ne_nil _ _), List.nodup_append,
          List.nodup_append] at distinct
        intro seen
        exact distinct.1.2.2 id (List.mem_reverse.mpr seen) id List.mem_cons_self rfl
      have follows : document.Follows id target := by
        rw [List.isChain_append] at linked
        exact linked.2.2 id (by simp) target (by simp)
      rcases follows_iff.mp follows with ⟨node, found, leads⟩
      refine .onward fresh found leads (ih ?_)
      rw [split, List.reverse_cons (a := target), List.append_assoc]
      rfl

theorem mem_allPaths_iff
    {start : String} {path : Path} :
    path ∈ document.allPaths start ↔ document.IsPath start path := by
  rw [allPaths, mem_extensions]
  constructor
  · intro extension
    exact extension.isPath (document.begins_start start)
  · intro isPath
    have starts := isPath.starts
    cases split : path.nodeIds with
    | nil =>
        rw [split] at starts
        cases starts
    | cons first rest =>
        rw [split, List.head?_cons, Option.some.injEq] at starts
        subst starts
        exact isPath.extends split

/-!
## The length of paths
-/

theorem exists_next_of_isChain
    {R : String → String → Prop} {ids : List String} (linked : ids.IsChain R) {id : String}
    (member : id ∈ ids.dropLast) :
    ∃ next, R id next := by
  induction ids with
  | nil =>
      cases member
  | cons first rest ih =>
      cases rest with
      | nil =>
          cases member
      | cons second rest =>
          rw [List.isChain_cons_cons] at linked
          rcases List.mem_cons.mp member with rfl | later
          · exact ⟨second, linked.1⟩
          · exact ih linked.2 later

theorem IsPath.length_le
    {start : String} {path : Path} (isPath : document.IsPath start path) :
    path.nodeIds.length ≤ document.nodes.length + 1 := by
  have within : path.nodeIds.dropLast.length ≤ document.nodeIds.length := by
    apply isPath.distinct.length_le_of_subset
    intro id member
    rcases exists_next_of_isChain isPath.linked member with ⟨next, follows⟩
    exact follows.mem_nodeIds
  rw [List.length_dropLast, nodeIds, List.length_map] at within
  omega

/-!
## A loop that lists paths

The beginnings of paths that are still to be looked at are on a stack, the top one first. Those that
go on from a beginning are put on it in reverse, so that the first edge is followed first.
-/

def extend (path : Path) (target : String) : Path :=
  ⟨path.nodeIds ++ [target], decide (target ∈ path.nodeIds)⟩

def targetsAfter (document : Document) (path : Path) : List String :=
  if path.cyclic then []
  else
    match path.nodeIds.getLast?.bind document.node? with
    | none => []
    | some node => document.followableTargets node

/-- Lists paths until the stack is empty or there are as many as there may be, for a number of turns
at most. There is no list if these are too few. -/
def listWithin (document : Document) (limit : Nat) :
    Nat → List Path → List Path → Option (List Path × Bool)
  | 0, _, _ => none
  | _ + 1, found, [] => some (found, false)
  | turns + 1, found, path :: stack =>
      if limit ≤ found.length then
        some (found, true)
      else
        match document.targetsAfter path with
        | [] => document.listWithin limit turns (found ++ [path]) stack
        | first :: rest =>
            document.listWithin limit turns found
              ((first :: rest).reverse.foldl (fun stack target => extend path target :: stack)
                stack)

def listAfter (document : Document) (limit turns : Nat) (listed stack : List Path) :
    Option (List Path × Bool) :=
  if listed.length ≤ limit then document.listWithin limit turns listed stack
  else some (listed.take limit, true)

def strand (visited : List String) (id : String) : Path :=
  ⟨(id :: visited).reverse, decide (id ∈ visited)⟩

theorem extend_strand
    (visited : List String) (id target : String) :
    extend ⟨(id :: visited).reverse, false⟩ target = strand (id :: visited) target := by
  simp [extend, strand, Bool.or_comm]

theorem strand_of_revisit
    {visited : List String} {id : String} (seen : id ∈ visited) :
    strand visited id = ⟨(id :: visited).reverse, true⟩ := by
  rw [strand, decide_eq_true seen]

theorem strand_of_fresh
    {visited : List String} {id : String} (fresh : id ∉ visited) :
    strand visited id = ⟨(id :: visited).reverse, false⟩ := by
  rw [strand, decide_eq_false fresh]

theorem targetsAfter_of_fresh
    {visited : List String} {id : String} (fresh : id ∉ visited) :
    document.targetsAfter (strand visited id) =
      ((document.node? id).map document.followableTargets).getD [] := by
  rw [strand_of_fresh fresh, targetsAfter, List.reverse_cons, List.getLast?_concat,
    Option.bind_some]
  cases document.node? id <;> rfl

theorem targetsAfter_of_revisit
    {visited : List String} {id : String} (seen : id ∈ visited) :
    document.targetsAfter (strand visited id) = [] := by
  rw [strand_of_revisit seen, targetsAfter]
  rfl

theorem listWithin_of_full
    {limit turns : Nat} {found : List Path} (full : found.length = limit) (later : Nat)
    (path : Path) {more : List Path} (some : more ≠ []) (stack : List Path) :
    document.listWithin limit (turns + 1) found (path :: stack) =
      document.listAfter limit later (found ++ more) stack := by
  have longer : ¬(found ++ more).length ≤ limit := by
    have atLeastOne := List.length_pos_iff.mpr some
    rw [List.length_append]
    omega
  rw [listWithin, if_pos (Nat.le_of_eq full.symm), listAfter, if_neg longer, ← full, List.take_left]

theorem listWithin_of_end
    {limit : Nat} {found : List Path} (fits : found.length ≤ limit) {path : Path}
    (last : document.targetsAfter path = []) (turns : Nat) (stack : List Path) :
    document.listWithin limit (1 + turns) found (path :: stack) =
      document.listAfter limit turns (found ++ [path]) stack := by
  rw [Nat.add_comm]
  rcases Nat.lt_or_eq_of_le fits with room | full
  · have still : (found ++ [path]).length ≤ limit := by
      rw [List.length_append]
      exact room
    rw [listWithin, if_neg (Nat.not_le_of_lt room), last, listAfter, if_pos still]
  · exact listWithin_of_full full turns path (List.cons_ne_nil _ _) stack

theorem extensions_ne_nil (visited : List String) (id : String) :
    document.extensions visited id ≠ [] := by
  rcases document.exists_extends visited id with ⟨path, extension⟩
  exact List.ne_nil_of_mem extension.mem_extensions

theorem listWithin_of_onward
    {limit turns : Nat} {found stack : List Path} {path : Path} (room : found.length < limit)
    {first : String} {rest : List String} (onward : document.targetsAfter path = first :: rest) :
    document.listWithin limit (turns + 1) found (path :: stack) =
      document.listWithin limit turns found ((first :: rest).map (extend path) ++ stack) := by
  rw [listWithin, if_neg (Nat.not_le_of_lt room), onward]
  simp only [List.foldl_reverse, List.foldr_cons_eq_append]

theorem listWithin_strands
    {limit : Nat} {visited : List String} (targets : List String)
    (each : ∀ target, ∃ cost, ∀ turns found stack, found.length ≤ limit →
      document.listWithin limit (cost + turns) found (strand visited target :: stack) =
        document.listAfter limit turns (found ++ document.extensions visited target) stack) :
    ∃ cost, ∀ turns found stack, found.length ≤ limit →
      document.listWithin limit (cost + turns) found (targets.map (strand visited) ++ stack) =
        document.listAfter limit turns (found ++ targets.flatMap (document.extensions visited))
          stack := by
  induction targets with
  | nil =>
      refine ⟨0, ?_⟩
      intro turns found stack fits
      rw [List.flatMap_nil, List.append_nil, listAfter, if_pos fits, Nat.zero_add]
      rfl
  | cons target rest ih =>
      rcases each target with ⟨one, first⟩
      rcases ih with ⟨others, later⟩
      refine ⟨one + others, ?_⟩
      intro turns found stack fits
      rw [List.map_cons, List.cons_append, Nat.add_assoc, first _ _ _ fits, List.flatMap_cons,
        ← List.append_assoc, listAfter]
      split
      · rename_i still
        exact later _ _ _ still
      · rename_i full
        have more := Nat.lt_of_not_le full
        rw [listAfter, if_neg, List.take_append_of_le_length (Nat.le_of_lt more)]
        rw [List.length_append]
        omega

/-- The loop lists all extensions of a beginning before it turns to what is below it on the stack,
unless it has listed enough. The induction is on the ids that are left to be visited. -/
theorem listWithin_strand (limit : Nat) (visited : List String) (id : String) :
    ∃ cost, ∀ turns found stack, found.length ≤ limit →
      document.listWithin limit (cost + turns) found (strand visited id :: stack) =
        document.listAfter limit turns (found ++ document.extensions visited id) stack := by
  generalize left : (document.unvisited visited).length = size
  induction size using Nat.strongRecOn generalizing visited id with
  | ind size ih =>
      by_cases seen : id ∈ visited
      · refine ⟨1, ?_⟩
        intro turns found stack fits
        rw [extensions_of_revisit seen, ← strand_of_revisit seen]
        exact listWithin_of_end fits (targetsAfter_of_revisit seen) turns stack
      have after : document.targetsAfter (strand visited id) = _ := targetsAfter_of_fresh seen
      cases known : document.node? id with
      | none =>
          rw [known] at after
          refine ⟨1, ?_⟩
          intro turns found stack fits
          rw [extensions_of_unknown seen known, ← strand_of_fresh seen]
          exact listWithin_of_end fits after turns stack
      | some node =>
          rw [known, Option.map_some, Option.getD_some] at after
          rw [extensions_of_known seen known]
          cases leads : document.followableTargets node with
          | nil =>
              rw [leads] at after
              refine ⟨1, ?_⟩
              intro turns found stack fits
              rw [if_pos rfl, ← strand_of_fresh seen]
              exact listWithin_of_end fits after turns stack
          | cons first rest =>
              rw [leads] at after
              have fewer := document.length_unvisited_cons_lt (mem_nodeIds_of_node? known) seen
              rw [left] at fewer
              rcases listWithin_strands (first :: rest)
                (fun target => ih _ fewer (id :: visited) target rfl) with ⟨cost, listed⟩
              refine ⟨cost + 1, ?_⟩
              intro turns found stack fits
              rw [if_neg (List.cons_ne_nil _ _), Nat.add_right_comm]
              rcases Nat.lt_or_eq_of_le fits with room | full
              · rw [listWithin_of_onward room after, strand_of_fresh seen,
                  funext (extend_strand visited id)]
                exact listed turns found stack fits
              · apply listWithin_of_full full
                rw [List.flatMap_cons]
                exact List.append_ne_nil_of_left_ne_nil (extensions_ne_nil _ _) _

def pathsWithin (document : Document) (limit turns : Nat) (start : String) :
    Option (List Path × Bool) :=
  document.listWithin limit turns [] [⟨[start], false⟩]

theorem exists_pathsWithin (limit : Nat) (start : String) :
    ∃ turns, ∀ more, turns ≤ more →
      document.pathsWithin limit more start = some (document.pathsFrom limit start) := by
  rcases document.listWithin_strand limit [] start with ⟨cost, listed⟩
  refine ⟨cost + 1, ?_⟩
  intro more enough
  rcases Nat.exists_eq_add_of_le enough with ⟨spare, rfl⟩
  rw [pathsWithin, Nat.add_assoc, Nat.add_comm 1]
  refine (listed (spare + 1) [] [] (Nat.zero_le _)).trans ?_
  rw [List.nil_append, listAfter, pathsFrom_eq, allPaths]
  split
  · rename_i fits
    rw [listWithin, List.take_of_length_le fits, decide_eq_false (Nat.not_lt_of_le fits)]
  · rename_i full
    rw [decide_eq_true (Nat.lt_of_not_le full)]

/-!
## The list of paths
-/

/-- The list of the paths from an id is made by a loop that ends. It is a beginning of the list of
all paths, cut off exactly if there are more, and all paths are what is said of paths. -/
theorem paths_enumerates (document : Document) (start : String) (limit : Nat) :
    (∃ turns, ∀ more, turns ≤ more →
      document.pathsWithin limit more start = some (document.paths limit (some start))) ∧
    document.paths limit (some start) =
      ((document.allPaths start).take limit, decide (limit < (document.allPaths start).length)) ∧
    (∀ path, path ∈ document.allPaths start ↔ document.IsPath start path) ∧
    ∀ path ∈ (document.paths limit (some start)).1,
      document.IsPath start path ∧ path.nodeIds.length ≤ document.nodes.length + 1 := by
  have asked : document.paths limit (some start) = document.pathsFrom limit start := rfl
  rw [asked, pathsFrom_eq]
  refine ⟨?_, rfl, fun path => mem_allPaths_iff, ?_⟩
  · rw [← pathsFrom_eq]
    exact exists_pathsWithin limit start
  · intro path member
    have isPath := mem_allPaths_iff.mp (List.mem_of_mem_take member)
    exact ⟨isPath, isPath.length_le⟩

def revolving : Document where
  nodes := [⟨"door", "", .condition [⟨"again", "again equals yes"⟩], [], by decide⟩]
  edges := [
    ⟨"stay", "door", "door", some "branch-0", by decide, by decide, by decide⟩,
    ⟨"leave", "door", "street", some "else", by decide, by decide, by decide⟩]
  distinct := by decide

theorem allPaths_revolving :
    revolving.allPaths "door" = [⟨["door", "door"], true⟩, ⟨["door", "street"], false⟩] := by
  cases known : revolving.node? "door" with
  | none =>
      cases known
  | some node =>
      have leads : revolving.followableTargets node = ["door", "street"] := by
        cases known
        rfl
      have round : revolving.extensions ["door"] "door" = [⟨["door", "door"], true⟩] :=
        extensions_of_revisit List.mem_cons_self
      have out : revolving.extensions ["door"] "street" = [⟨["door", "street"], false⟩] :=
        extensions_of_unknown (by decide) rfl
      rw [allPaths, extensions_of_known List.not_mem_nil known, leads,
        if_neg (List.cons_ne_nil _ _), List.flatMap_cons, List.flatMap_singleton, round, out]
      rfl

theorem paths_enumerates_revolving :
    revolving.paths 1 (some "door") = ([⟨["door", "door"], true⟩], true) ∧
      revolving.IsPath "door" ⟨["door", "door"], true⟩ ∧
      revolving.IsPath "door" ⟨["door", "street"], false⟩ := by
  rcases paths_enumerates revolving "door" 1 with ⟨_, listed, isPath, within⟩
  have first : revolving.paths 1 (some "door") = ([⟨["door", "door"], true⟩], true) := by
    rw [listed, allPaths_revolving]
    rfl
  have returned : ⟨["door", "door"], true⟩ ∈ (revolving.paths 1 (some "door")).1 := by
    rw [first]
    exact List.mem_cons_self
  have further : ⟨["door", "street"], false⟩ ∈ revolving.allPaths "door" := by
    rw [allPaths_revolving]
    exact List.mem_cons_of_mem _ List.mem_cons_self
  exact ⟨first, (within _ returned).1, (isPath _).mp further⟩

end Document
end WorkflowWalk
