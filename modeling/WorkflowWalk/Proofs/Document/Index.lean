import Mathlib.Algebra.Ring.Nat
import Mathlib.Data.List.Induction
import Mathlib.Data.List.Nodup
import WorkflowWalk.Flow.Report
import WorkflowWalk.Proofs.Document.Graph

/-!
# Indexes of a document

Nodes and edges can be looked up in indexes that are made once, by going through them one after the
other: the nodes by their ids, and the edges by either end. The indexes hold nothing else and lose
nothing. What they give is what is found by going through the nodes and edges each time, and each
edge is in one group of the edges with its source and in one of those with its target. So the edges
that are counted at the nodes and those with a loose end together are all edges, counted twice.
-/

namespace WorkflowWalk

/-!
## Indexes
-/

/-- Values under ids, in the order in which the ids have first been used. -/
abbrev Index (β : Type) := List (String × β)

namespace Index

variable {α β : Type}

def ids (index : Index β) : List String :=
  index.map Prod.fst

def change (id : String) (next : Option β → β) : Index β → Index β
  | [] => [(id, next none)]
  | (first, value) :: rest =>
      if first = id then (first, next (some value)) :: rest
      else (first, value) :: change id next rest

theorem lookup_cons (first : String) (value : β) (rest : Index β) (id : String) :
    List.lookup id ((first, value) :: rest) =
      if first = id then some value else rest.lookup id := by
  by_cases same : first = id
  · simp [same]
  · have differs : (id == first) = false := by
      simpa using Ne.symm same
    rw [List.lookup_cons, differs, if_neg same]

theorem lookup_change (id : String) (next : Option β → β) (index : Index β) (other : String) :
    (change id next index).lookup other =
      if id = other then some (next (index.lookup id)) else index.lookup other := by
  induction index with
  | nil =>
      rw [change, lookup_cons]
      rfl
  | cons entry rest ih =>
      rcases entry with ⟨first, value⟩
      rw [lookup_cons, lookup_cons, change]
      by_cases here : first = id
      · subst here
        rw [if_pos rfl, if_pos rfl, lookup_cons]
        by_cases same : first = other
        · rw [if_pos same, if_pos same]
        · rw [if_neg same, if_neg same, if_neg same]
      · rw [if_neg here, if_neg here, lookup_cons, ih]
        by_cases reached : first = other
        · rw [if_pos reached, if_neg fun same => here (reached.trans same.symm), if_pos reached]
        · rw [if_neg reached, if_neg reached]

theorem ids_change (id : String) (next : Option β → β) (index : Index β) :
    (change id next index).ids = if id ∈ index.ids then index.ids else index.ids ++ [id] := by
  induction index with
  | nil =>
      rfl
  | cons entry rest ih =>
      rcases entry with ⟨first, value⟩
      rw [change]
      by_cases here : first = id
      · simp [ids, here]
      · rw [if_neg here]
        show first :: (change id next rest).ids = _
        rw [ih]
        by_cases known : id ∈ rest.map Prod.fst
        · simp [ids, known]
        · simp [ids, known, Ne.symm here]

theorem nodup_ids_change
    {index : Index β} (distinct : index.ids.Nodup) (id : String) (next : Option β → β) :
    (change id next index).ids.Nodup := by
  rw [ids_change]
  split
  · exact distinct
  · rename_i fresh
    rw [List.nodup_append]
    refine ⟨distinct, List.nodup_singleton id, ?_⟩
    intro known member last among same
    rw [List.mem_singleton.mp among] at same
    exact fresh (same ▸ member)

theorem mem_iff_lookup
    {index : Index β} (distinct : index.ids.Nodup) {id : String} {value : β} :
    (id, value) ∈ index ↔ index.lookup id = some value := by
  induction index with
  | nil =>
      simp
  | cons entry rest ih =>
      rcases entry with ⟨first, held⟩
      rw [ids, List.map_cons, List.nodup_cons] at distinct
      rw [lookup_cons, List.mem_cons, Prod.mk.injEq, ih distinct.2]
      by_cases here : first = id
      · subst here
        have apart : rest.lookup first ≠ some value := by
          intro later
          exact distinct.1 (List.mem_map.mpr ⟨_, (ih distinct.2).mpr later, rfl⟩)
        simp [apart, eq_comm]
      · simp [here, Ne.symm here]

/-!
## The last item under each id
-/

/-- Keeps items under their ids, one after the other; a later item replaces an earlier one. -/
def keyed (key : α → String) (items : List α) : Index α :=
  items.foldl (fun index item => change (key item) (fun _ => item) index) []

theorem lookup_keyed (key : α → String) (items : List α) (id : String) :
    (keyed key items).lookup id = items.reverse.find? (key · = id) := by
  induction items using List.reverseRecOn with
  | nil =>
      rfl
  | append_singleton items item ih =>
      rw [keyed, List.foldl_concat, ← keyed, lookup_change, ih, List.reverse_concat,
        List.find?_cons]
      by_cases here : key item = id
      · simp [here]
      · simp [here]

/-!
## The items under each id
-/

def add (id : String) (item : α) (index : Index (List α)) : Index (List α) :=
  change id (fun group => group.getD [] ++ [item]) index

/-- Groups items under their ids, one after the other. -/
def grouped (key : α → String) (items : List α) : Index (List α) :=
  items.foldl (fun index item => add (key item) item index) []

theorem grouped_concat (key : α → String) (items : List α) (item : α) :
    grouped key (items ++ [item]) = add (key item) item (grouped key items) := by
  rw [grouped, List.foldl_concat, ← grouped]

theorem getD_unless_nil (group : List α) :
    (if group = [] then none else some group).getD [] = group := by
  by_cases empty : group = []
  · rw [if_pos empty, empty]
    rfl
  · rw [if_neg empty]
    rfl

theorem lookup_grouped (key : α → String) (items : List α) (id : String) :
    (grouped key items).lookup id =
      if items.filter (key · = id) = [] then none else some (items.filter (key · = id)) := by
  induction items using List.reverseRecOn with
  | nil =>
      rfl
  | append_singleton items item ih =>
      rw [grouped_concat, add, lookup_change, List.filter_append]
      by_cases here : key item = id
      · rw [if_pos here, here, ih, getD_unless_nil]
        simp [here]
      · rw [if_neg here, ih]
        simp [here]

theorem getD_lookup_grouped (key : α → String) (items : List α) (id : String) :
    ((grouped key items).lookup id).getD [] = items.filter (key · = id) := by
  rw [lookup_grouped, getD_unless_nil]

theorem nodup_ids_grouped (key : α → String) (items : List α) :
    (grouped key items).ids.Nodup := by
  induction items using List.reverseRecOn with
  | nil =>
      exact List.nodup_nil
  | append_singleton items item ih =>
      rw [grouped_concat]
      exact nodup_ids_change ih _ _

theorem flatMap_add_perm (id : String) (item : α) (index : Index (List α)) :
    ((add id item index).flatMap Prod.snd).Perm (index.flatMap Prod.snd ++ [item]) := by
  induction index with
  | nil =>
      exact List.Perm.refl _
  | cons entry rest ih =>
      rcases entry with ⟨first, group⟩
      rw [add, change]
      by_cases here : first = id
      · rw [if_pos here, List.flatMap_cons, List.flatMap_cons, Option.getD_some, List.append_assoc,
          List.append_assoc]
        exact List.perm_append_comm.append_left group
      · rw [if_neg here, List.flatMap_cons, List.flatMap_cons, List.append_assoc]
        exact ih.append_left group

theorem flatMap_grouped_perm (key : α → String) (items : List α) :
    ((grouped key items).flatMap Prod.snd).Perm items := by
  induction items using List.reverseRecOn with
  | nil =>
      exact List.Perm.refl _
  | append_singleton items item ih =>
      rw [grouped_concat]
      exact (flatMap_add_perm (key item) item _).trans (ih.append_right [item])

/-- The groups of an index part items by their ids. -/
structure Partitions (index : Index (List α)) (key : α → String) (items : List α) : Prop where
  distinct : index.ids.Nodup
  groups : ∀ entry ∈ index, entry.2 ≠ [] ∧ entry.2 = items.filter (key · = entry.1)
  once : ∀ item ∈ items, ∃! entry, entry ∈ index ∧ item ∈ entry.2
  whole : (index.flatMap Prod.snd).Perm items

theorem mem_grouped_iff
    {key : α → String} {items : List α} {id : String} {group : List α} :
    (id, group) ∈ grouped key items ↔ group ≠ [] ∧ group = items.filter (key · = id) := by
  rw [mem_iff_lookup (nodup_ids_grouped key items), lookup_grouped]
  split
  · rename_i none
    rw [none]
    simp
  · rename_i some
    constructor
    · intro same
      cases same
      exact ⟨some, rfl⟩
    · intro same
      rw [same.2]

theorem partitions_grouped (key : α → String) (items : List α) :
    (grouped key items).Partitions key items where
  distinct := nodup_ids_grouped key items
  groups _ member := mem_grouped_iff.mp member
  once item member := by
    have among : item ∈ items.filter (key · = key item) :=
      List.mem_filter.mpr ⟨member, decide_eq_true rfl⟩
    refine ⟨(key item, items.filter (key · = key item)),
      ⟨mem_grouped_iff.mpr ⟨List.ne_nil_of_mem among, rfl⟩, among⟩, ?_⟩
    rintro ⟨id, group⟩ ⟨held, inGroup⟩
    rcases mem_grouped_iff.mp held with ⟨_, rfl⟩
    rw [of_decide_eq_true (List.mem_filter.mp inGroup).2]
  whole := flatMap_grouped_perm key items

/-!
## Counting
-/

theorem sum_length_filter
    {ids : List String} (distinct : ids.Nodup) (key : α → String) (items : List α) :
    (ids.map fun id => (items.filter (key · = id)).length).sum =
      (items.filter (key · ∈ ids)).length := by
  induction ids with
  | nil =>
      simp
  | cons id rest ih =>
      rw [List.nodup_cons] at distinct
      have split := List.length_eq_length_filter_add
        (l := items.filter (key · ∈ id :: rest)) fun item => decide (key item = id)
      rw [List.map_cons, List.sum_cons, ih distinct.2, split, List.filter_filter,
        List.filter_filter]
      congr 2
      · apply List.filter_congr
        intro item _
        by_cases here : key item = id
        · simp [here]
        · simp [here]
      · apply List.filter_congr
        intro item _
        by_cases here : key item = id
        · simp [here, distinct.1]
        · simp [here]

end Index

namespace Document

variable {document : Document}

/-!
## The indexes of a document
-/

def nodeIndex (document : Document) : Index Node :=
  Index.keyed Node.id document.nodes

def sourceIndex (document : Document) : Index (List Edge) :=
  Index.grouped Edge.source document.edges

def targetIndex (document : Document) : Index (List Edge) :=
  Index.grouped Edge.target document.edges

theorem find?_eq_some_iff_of_nodup
    {nodes : List Node} (distinct : (nodes.map Node.id).Nodup) {id : String} {node : Node} :
    nodes.find? (·.id = id) = some node ↔ node ∈ nodes ∧ node.id = id := by
  constructor
  · intro found
    exact ⟨List.mem_of_find?_eq_some found, by simpa using List.find?_some found⟩
  · rintro ⟨member, rfl⟩
    exact find?_of_nodup distinct member

theorem node?_eq_some_iff
    {id : String} {node : Node} :
    document.node? id = some node ↔ node ∈ document.nodes ∧ node.id = id :=
  find?_eq_some_iff_of_nodup document.distinct

theorem lookup_nodeIndex (document : Document) (id : String) :
    document.nodeIndex.lookup id = document.node? id := by
  have distinct : (document.nodes.reverse.map Node.id).Nodup := by
    rw [List.map_reverse, List.nodup_reverse]
    exact document.distinct
  apply Option.ext
  intro node
  rw [nodeIndex, Index.lookup_keyed, find?_eq_some_iff_of_nodup distinct, node?_eq_some_iff,
    List.mem_reverse]

/-!
## Starts and ends
-/

theorem mem_startCandidates_iff
    {node : Node} :
    node ∈ document.startCandidates ↔
      node ∈ document.nodes ∧ document.incoming node.id = [] := by
  rw [startCandidates, List.mem_filter, incoming, List.filter_eq_nil_iff]
  simp

theorem mem_endNodes_iff
    {node : Node} :
    node ∈ document.endNodes ↔ node ∈ document.nodes ∧ document.outgoing node.id = [] := by
  rw [endNodes, List.mem_filter, List.isEmpty_iff]

/-!
## Edges at nodes and loose ends
-/

theorem sum_incoming (document : Document) :
    (document.connections.map (·.incoming)).sum =
      (document.edges.filter (·.target ∈ document.nodeIds)).length := by
  have distinct : document.nodeIds.Nodup := document.distinct
  rw [← Index.sum_length_filter distinct Edge.target, connections, nodeIds, List.map_map,
    List.map_map]
  rfl

theorem sum_outgoing (document : Document) :
    (document.connections.map (·.outgoing)).sum =
      (document.edges.filter (·.source ∈ document.nodeIds)).length := by
  have distinct : document.nodeIds.Nodup := document.distinct
  rw [← Index.sum_length_filter distinct Edge.source, connections, nodeIds, List.map_map,
    List.map_map]
  rfl

theorem length_missingEnds (document : Document) (edge : Edge) :
    (document.missingEnds edge).length =
      (if edge.source ∈ document.nodeIds then 0 else 1) +
        if edge.target ∈ document.nodeIds then 0 else 1 := by
  simp only [← hasNode_iff]
  rw [missingEnds]
  cases source : document.hasNode edge.source <;> cases target : document.hasNode edge.target <;>
    simp [source, target]

theorem length_dangling (document : Document) :
    document.dangling.length =
      (document.edges.filter (·.source ∉ document.nodeIds)).length +
        (document.edges.filter (·.target ∉ document.nodeIds)).length := by
  rw [dangling, List.length_flatMap]
  induction document.edges with
  | nil =>
      rfl
  | cons edge rest ih =>
      rw [List.map_cons, List.sum_cons, ih, List.length_map, length_missingEnds, List.filter_cons,
        List.filter_cons]
      -- Either end of the edge is loose or is not, on both sides alike.
      grind

/-- Every end of an edge is counted, at its node or as a loose end. -/
theorem sum_connections (document : Document) :
    (document.connections.map (·.incoming)).sum + (document.connections.map (·.outgoing)).sum +
      document.dangling.length = 2 * document.edges.length := by
  have sources := List.length_eq_length_filter_add
    (l := document.edges) fun edge => decide (edge.source ∈ document.nodeIds)
  have targets := List.length_eq_length_filter_add
    (l := document.edges) fun edge => decide (edge.target ∈ document.nodeIds)
  rw [sum_incoming, sum_outgoing, length_dangling]
  simp only [← decide_not] at sources targets
  omega

/-!
## What the indexes hold
-/

/-- The indexes of a document give what is found by going through its nodes and edges. -/
structure Indexed (document : Document) : Prop where
  node : ∀ id, document.nodeIndex.lookup id = document.node? id
  unique : ∀ id node, document.node? id = some node ↔ node ∈ document.nodes ∧ node.id = id
  sources : document.sourceIndex.Partitions Edge.source document.edges
  targets : document.targetIndex.Partitions Edge.target document.edges
  outgoing : ∀ id, document.outgoing id = (document.sourceIndex.lookup id).getD [] ∧
    document.outgoing id = document.edges.filter (·.source = id)
  incoming : ∀ id, document.incoming id = (document.targetIndex.lookup id).getD [] ∧
    document.incoming id = document.edges.filter (·.target = id)
  starts : ∀ node, node ∈ document.startCandidates ↔
    node ∈ document.nodes ∧ document.incoming node.id = []
  ends : ∀ node, node ∈ document.endNodes ↔
    node ∈ document.nodes ∧ document.outgoing node.id = []
  counted : (document.connections.map (·.incoming)).sum +
    (document.connections.map (·.outgoing)).sum + document.dangling.length =
      2 * document.edges.length

/-- Every document is indexed faithfully: its edges are parted by either end, each node is the only
one with its id, and the edges counted at the nodes and the loose ends come to twice the edges. -/
theorem indexed (document : Document) :
    document.Indexed where
  node := lookup_nodeIndex document
  unique _ _ := node?_eq_some_iff
  sources := Index.partitions_grouped Edge.source document.edges
  targets := Index.partitions_grouped Edge.target document.edges
  outgoing id := ⟨(Index.getD_lookup_grouped Edge.source document.edges id).symm, rfl⟩
  incoming id := ⟨(Index.getD_lookup_grouped Edge.target document.edges id).symm, rfl⟩
  starts _ := mem_startCandidates_iff
  ends _ := mem_endNodes_iff
  counted := sum_connections document

end Document
end WorkflowWalk
