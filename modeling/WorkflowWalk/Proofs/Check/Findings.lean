import WorkflowWalk.Proofs.Check.Verdict

/-!
# Defects and findings

What can be wrong with a document is told apart here without regard to how it is looked for, and
what is found is exactly that. The check is kept from coming to an end by one thing only, a tag with
more digits than can be read on an edge out of a condition. Then nothing is found at all.
-/

namespace WorkflowWalk

open Document

/-!
## Defects
-/

namespace Check

/-- What can be wrong at a condition that some edges leave. A tag that is misspelt is left out: it
is as useless as an invalid one, but it passes. -/
inductive ConditionDefect (node : Node) (branches : List Branch) (edges : List Edge) :
    Finding → Prop
  | tagMissing {edge : Edge} (leaving : edge ∈ edges) (untagged : tag? edge = none) :
      ConditionDefect node branches edges (.tagMissing edge node)
  | tagInvalid {edge : Edge} {tag : String} (leaving : edge ∈ edges) (tagged : tag? edge = some tag)
      (unusable : tag ∉ usableTags branches.length)
      (spelt : ¬BranchTag.Misspelt branches.length tag) :
      ConditionDefect node branches edges (.tagInvalid edge tag node branches.length)
  | tagRepeated {tag : String} (several : 1 < edges.countP fun edge => tag? edge = some tag) :
      ConditionDefect node branches edges
        (.tagRepeated tag (edges.countP fun edge => tag? edge = some tag) node)
  | unparsable {index : Nat} {branch : Branch} (placed : branches[index]? = some branch)
      (unread : Condition.parse? branch.condition = none) :
      ConditionDefect node branches edges (.unparsable branch index node)
  | branchWithoutEdge {index : Nat} {branch : Branch} (placed : branches[index]? = some branch)
      (missing : ∀ edge ∈ edges, tag? edge ≠ some (BranchTag.branch index)) :
      ConditionDefect node branches edges (.branchWithoutEdge branch index node)
  | noOtherwise (missing : ∀ edge ∈ edges, tag? edge ≠ some BranchTag.otherwise) :
      ConditionDefect node branches edges (.noOtherwise node)

inductive PlainDefect (node : Node) (edges : List Edge) : Finding → Prop
  | tagIgnored {edge : Edge} {tag : String} (leaving : edge ∈ edges)
      (tagged : tag? edge = some tag) :
      PlainDefect node edges (.tagIgnored edge tag node)
  | manyOutgoing {first : Edge} (isFirst : edges.head? = some first) (several : 1 < edges.length) :
      PlainDefect node edges (.manyOutgoing node edges.length first)

end Check

inductive Document.Defect (document : Document) : Finding → Prop
  | unknownSource {edge : Edge} (member : edge ∈ document.edges)
      (unknown : edge.source ∉ document.nodeIds) : Defect document (.unknownSource edge)
  | unknownTarget {edge : Edge} (member : edge ∈ document.edges)
      (unknown : edge.target ∉ document.nodeIds) : Defect document (.unknownTarget edge)
  | condition {node : Node} {branches : List Branch} {finding : Finding}
      (member : node ∈ document.nodes) (held : node.branches? = some branches)
      (defect : Check.ConditionDefect node branches (document.outgoing node.id) finding) :
      Defect document finding
  | plain {node : Node} {finding : Finding} (member : node ∈ document.nodes)
      (plain : node.branches? = none)
      (defect : Check.PlainDefect node (document.outgoing node.id) finding) :
      Defect document finding
  | noNodes (empty : document.nodes = []) : Defect document .noNodes
  | noStart (inhabited : document.nodes ≠ []) (startless : document.start? = none) :
      Defect document .noStart
  | manyStarts {start : Node} (starts : document.start? = some start)
      (several : 1 < document.startCandidates.length) :
      Defect document (.manyStarts start.id (document.startCandidates.map (·.id)))
  | unreachable {id : String} {start : Node} (starts : document.start? = some start)
      (known : id ∈ document.nodeIds) (apart : ¬document.followableLinks.Reaches start.id id) :
      Defect document (.unreachable id start.id)
  | cycle {ids : List String} (found : document.flow.cycle = some ids) :
      Defect document (.cycle ids)

/-- An edge that leaves a condition has a tag with more digits than can be read. -/
def Document.HasEndlessTag (document : Document) : Prop :=
  ∃ node ∈ document.nodes, ∃ branches, node.branches? = some branches ∧
    ∃ edge ∈ document.outgoing node.id, ∃ tag, edge.tag = some tag ∧ BranchTag.Endless tag

namespace Check

/-!
## What is found at conditions
-/

section Conditions

variable {document : Document} {node : Node} {branches : List Branch} {edges : List Edge}
  {findings : List Finding} {finding : Finding}

theorem mem_tagFindings_iff
    {edge : Edge} (checked : tagFindings node branches.length edge = .ok findings) :
    finding ∈ findings ↔
      (tag? edge = none ∧ finding = .tagMissing edge node) ∨
        ∃ tag, tag? edge = some tag ∧ tag ∉ usableTags branches.length ∧
          ¬BranchTag.Misspelt branches.length tag ∧
          finding = .tagInvalid edge tag node branches.length := by
  unfold tagFindings at checked
  cases tagged : tag? edge with
  | none =>
      rw [tagged] at checked
      cases checked
      simp
  | some tag =>
      rw [tagged] at checked
      rcases ok_of_map checked with ⟨index, read, rfl⟩
      have strange : (tag ≠ BranchTag.otherwise ∧ namesNoBranch branches.length index = true) ↔
          tag ∉ usableTags branches.length ∧ ¬BranchTag.Misspelt branches.length tag := by
        rw [namesNoBranch_iff read, mem_usableTags_iff, ← and_assoc]
        simp
      split
      · rename_i found
        have unusable := strange.mp found
        simp [unusable]
      · rename_i silent
        have passes : ¬(tag ∉ usableTags branches.length ∧
            ¬BranchTag.Misspelt branches.length tag) := fun found => silent (strange.mpr found)
        simp only [List.not_mem_nil, false_iff]
        rintro (⟨untagged, _⟩ | ⟨other, same, unusable, spelt, _⟩)
        · cases untagged
        · cases same
          exact passes ⟨unusable, spelt⟩

theorem count_filterMap_tag? (edges : List Edge) (tag : String) :
    (edges.filterMap tag?).count tag = edges.countP fun edge => tag? edge = some tag := by
  rw [List.count, List.countP_filterMap]
  congr 1
  funext edge
  cases tag? edge <;> simp [beq_eq_decide]

theorem contains_filterMap_tag?_iff
    {tag : String} :
    (edges.filterMap tag?).contains tag = false ↔ ∀ edge ∈ edges, tag? edge ≠ some tag := by
  rw [List.contains_eq_mem, decide_eq_false_iff_not, List.mem_filterMap]
  simp

theorem mem_repeatFindings_iff :
    finding ∈ repeatFindings node (edges.filterMap tag?) ↔
      ∃ tag, 1 < edges.countP (fun edge => tag? edge = some tag) ∧
        finding = .tagRepeated tag (edges.countP fun edge => tag? edge = some tag) node := by
  simp only [← count_filterMap_tag?]
  constructor
  · intro member
    rcases List.mem_filterMap.mp member with ⟨tag, _, found⟩
    split at found
    · rename_i several
      cases found
      exact ⟨tag, several, rfl⟩
    · cases found
  · rintro ⟨tag, several, rfl⟩
    exact tagRepeated_mem_repeatFindings node several

theorem mem_branchFindings_iff
    {index : Nat} {branch : Branch} :
    finding ∈ branchFindings node (edges.filterMap tag?) index branch ↔
      (Condition.parse? branch.condition = none ∧ finding = .unparsable branch index node) ∨
        (∀ edge ∈ edges, tag? edge ≠ some (BranchTag.branch index)) ∧
          finding = .branchWithoutEdge branch index node := by
  rw [branchFindings, List.mem_append, ← contains_filterMap_tag?_iff]
  refine or_congr ?_ ?_
  · cases Condition.parse? branch.condition <;> simp
  · cases (edges.filterMap tag?).contains (BranchTag.branch index) <;> simp

theorem mem_flatten_mapIdx_iff
    {find : Nat → Branch → List Finding} :
    finding ∈ (branches.mapIdx find).flatten ↔
      ∃ index branch, branches[index]? = some branch ∧ finding ∈ find index branch := by
  rw [List.mem_flatten]
  constructor
  · intro member
    rcases member with ⟨own, among, here⟩
    rcases List.mem_mapIdx.mp among with ⟨index, within, rfl⟩
    exact ⟨index, branches[index], List.getElem?_eq_getElem within, here⟩
  · intro member
    rcases member with ⟨index, branch, placed, here⟩
    rcases List.getElem?_eq_some_iff.mp placed with ⟨within, rfl⟩
    exact ⟨_, List.mem_mapIdx.mpr ⟨index, within, rfl⟩, here⟩

theorem mem_noOtherwise_iff :
    finding ∈ (if (edges.filterMap tag?).contains BranchTag.otherwise then []
      else [.noOtherwise node]) ↔
      (∀ edge ∈ edges, tag? edge ≠ some BranchTag.otherwise) ∧ finding = .noOtherwise node := by
  rw [← contains_filterMap_tag?_iff]
  cases (edges.filterMap tag?).contains BranchTag.otherwise <;> simp

theorem mem_conditionFindings_iff
    (checked : conditionFindings document node branches = .ok findings) :
    finding ∈ findings ↔ ConditionDefect node branches (document.outgoing node.id) finding := by
  rcases ok_of_map checked with ⟨perEdge, each, rfl⟩
  rw [List.mem_append, List.mem_append, List.mem_append,
    mem_flatten_of_mapM each fun edge own => mem_tagFindings_iff, mem_repeatFindings_iff,
    mem_flatten_mapIdx_iff, mem_noOtherwise_iff]
  simp only [mem_branchFindings_iff]
  constructor
  · intro found
    rcases found with ((tagwise | repeated) | branchwise) | otherwise
    · rcases tagwise with ⟨edge, leaving, ⟨untagged, rfl⟩ | ⟨tag, tagged, unusable, spelt, rfl⟩⟩
      · exact .tagMissing leaving untagged
      · exact .tagInvalid leaving tagged unusable spelt
    · rcases repeated with ⟨tag, several, rfl⟩
      exact .tagRepeated several
    · rcases branchwise with ⟨index, branch, placed, ⟨unread, rfl⟩ | ⟨missing, rfl⟩⟩
      · exact .unparsable placed unread
      · exact .branchWithoutEdge placed missing
    · rcases otherwise with ⟨missing, rfl⟩
      exact .noOtherwise missing
  · intro defect
    cases defect with
    | tagMissing leaving untagged =>
        exact Or.inl (Or.inl (Or.inl ⟨_, leaving, Or.inl ⟨untagged, rfl⟩⟩))
    | tagInvalid leaving tagged unusable spelt =>
        exact Or.inl (Or.inl (Or.inl
          ⟨_, leaving, Or.inr ⟨_, tagged, unusable, spelt, rfl⟩⟩))
    | tagRepeated several =>
        exact Or.inl (Or.inl (Or.inr ⟨_, several, rfl⟩))
    | unparsable placed unread =>
        exact Or.inl (Or.inr ⟨_, _, placed, Or.inl ⟨unread, rfl⟩⟩)
    | branchWithoutEdge placed missing =>
        exact Or.inl (Or.inr ⟨_, _, placed, Or.inr ⟨missing, rfl⟩⟩)
    | noOtherwise missing =>
        exact Or.inr ⟨missing, rfl⟩

end Conditions

/-!
## What is found about edges
-/

section Edges

variable {document : Document} {node : Node} {findings : List Finding} {finding : Finding}

theorem mem_ignored_iff
    (node : Node) {edges : List Edge} :
    finding ∈ edges.filterMap (fun edge => (tag? edge).map fun tag => .tagIgnored edge tag node) ↔
      ∃ edge ∈ edges, ∃ tag, tag? edge = some tag ∧ finding = .tagIgnored edge tag node := by
  rw [List.mem_filterMap]
  constructor
  · rintro ⟨edge, leaving, found⟩
    rcases Option.map_eq_some_iff.mp found with ⟨tag, tagged, rfl⟩
    exact ⟨edge, leaving, tag, tagged, rfl⟩
  · rintro ⟨edge, leaving, tag, tagged, rfl⟩
    exact ⟨edge, leaving, by rw [tagged]; rfl⟩

theorem mem_plainFindings_iff :
    finding ∈ plainFindings document node ↔
      PlainDefect node (document.outgoing node.id) finding := by
  unfold plainFindings
  generalize document.outgoing node.id = edges
  constructor
  · intro member
    have ofIgnored (found : finding ∈ edges.filterMap
        (fun edge => (tag? edge).map fun tag => .tagIgnored edge tag node)) :
        PlainDefect node edges finding := by
      rcases (mem_ignored_iff node).mp found with ⟨edge, leaving, tag, tagged, rfl⟩
      exact .tagIgnored leaving tagged
    simp only at member
    split at member
    · rcases List.mem_append.mp member with ignored | further
      · exact ofIgnored ignored
      · rw [List.mem_singleton.mp further]
        exact .manyOutgoing rfl (by simp)
    · exact ofIgnored member
  · intro defect
    cases defect with
    | tagIgnored leaving tagged =>
        have ignored := (mem_ignored_iff node).mpr ⟨_, leaving, _, tagged, rfl⟩
        simp only
        split
        · exact List.mem_append_left _ ignored
        · exact ignored
    | manyOutgoing isFirst several =>
        rcases edges with _ | ⟨first, _ | ⟨second, rest⟩⟩
        · cases isFirst
        · exact absurd several (by simp)
        · cases isFirst
          exact List.mem_append_right _ List.mem_cons_self

theorem mem_endFindings_iff
    {edge : Edge} :
    finding ∈ endFindings document edge ↔
      (edge.source ∉ document.nodeIds ∧ finding = .unknownSource edge) ∨
        edge.target ∉ document.nodeIds ∧ finding = .unknownTarget edge := by
  rw [endFindings, List.mem_append, ← Document.hasNode_iff, ← Document.hasNode_iff]
  refine or_congr ?_ ?_
  · cases document.hasNode edge.source <;> simp
  · cases document.hasNode edge.target <;> simp

theorem mem_nodeFindings_iff
    (checked : nodeFindings document node = .ok findings) :
    finding ∈ findings ↔
      (∃ branches, node.branches? = some branches ∧
        ConditionDefect node branches (document.outgoing node.id) finding) ∨
      node.branches? = none ∧ PlainDefect node (document.outgoing node.id) finding := by
  unfold nodeFindings at checked
  split at checked
  · rename_i branches held
    rw [mem_conditionFindings_iff checked, held]
    simp
  · rename_i plain
    cases checked
    rw [mem_plainFindings_iff, plain]
    simp

/-- What is found about the edges of a document, unless a tag keeps the check from its end, is what
is wrong with its edges. -/
theorem mem_edgeFindings_iff
    (checked : edgeFindings document = .ok findings) :
    finding ∈ findings ↔
      (∃ edge ∈ document.edges, finding ∈ endFindings document edge) ∨
      ∃ node ∈ document.nodes,
        (∃ branches, node.branches? = some branches ∧
          ConditionDefect node branches (document.outgoing node.id) finding) ∨
        node.branches? = none ∧ PlainDefect node (document.outgoing node.id) finding := by
  rcases ok_of_map checked with ⟨perNode, each, rfl⟩
  rw [List.mem_append, List.mem_flatMap,
    mem_flatten_of_mapM each fun node own => mem_nodeFindings_iff]

theorem edgeFindings_error_iff :
    (∃ fault, edgeFindings document = .error fault) ↔ document.HasEndlessTag := by
  constructor
  · rintro ⟨fault, failed⟩
    exact endless_of_edgeFindings failed
  · rintro ⟨node, known, branches, held, edge, leaving, tag, tagged, endless⟩
    cases checked : edgeFindings document with
    | error fault =>
        exact ⟨fault, rfl⟩
    | ok findings =>
        rcases exists_nodeFindings checked known with ⟨own, ownChecked, _⟩
        rw [nodeFindings, held] at ownChecked
        rcases exists_tagFindings ownChecked leaving with ⟨tags, tagChecked, _⟩
        rcases BranchTag.exists_fault_of_endless endless with ⟨fault, unread⟩
        rw [tagFindings, tag?_eq_some.mpr ⟨tagged, endless.ne_empty⟩] at tagChecked
        rcases ok_of_map tagChecked with ⟨index, read, _⟩
        cases unread.symm.trans read

end Edges

/-!
## What is found about the flow
-/

section Flow

variable {document : Document} {finding : Finding}

theorem mem_startFindings_iff :
    finding ∈ startFindings document document.flow ↔
      (document.nodes = [] ∧ finding = .noNodes) ∨
      (document.nodes ≠ [] ∧ document.start? = none ∧ finding = .noStart) ∨
      ∃ start, document.start? = some start ∧ 1 < document.startCandidates.length ∧
        finding = .manyStarts start.id (document.startCandidates.map (·.id)) := by
  have candidates : document.flow.candidates = document.startCandidates.map (·.id) := rfl
  have among : ∀ node ∈ document.startCandidates, node ∈ document.nodes := by
    intro node member
    exact (List.mem_filter.mp member).1
  unfold startFindings start?
  rw [candidates]
  cases listed : document.nodes with
  | nil =>
      have none : document.startCandidates = [] := by
        rw [List.eq_nil_iff_forall_not_mem]
        intro node member
        have known := among node member
        rw [listed] at known
        cases known
      simp [none]
  | cons node rest =>
      rcases document.startCandidates with _ | ⟨first, _ | ⟨second, others⟩⟩ <;> simp

theorem mem_unreachableFindings_iff :
    finding ∈ unreachableFindings document document.flow ↔
      ∃ start, document.start? = some start ∧ ∃ id ∈ document.nodeIds,
        ¬document.followableLinks.Reaches start.id id ∧ finding = .unreachable id start.id := by
  unfold unreachableFindings
  rw [flow_start]
  cases starts : document.start? with
  | none =>
      simp
  | some start =>
      simp only [Option.map_some, List.mem_map, List.mem_filter, Bool.not_eq_true',
        List.contains_eq_mem, decide_eq_false_iff_not, mem_flow_reachable starts]
      constructor
      · rintro ⟨id, ⟨known, apart⟩, rfl⟩
        exact ⟨start, rfl, id, known, apart, rfl⟩
      · rintro ⟨other, same, id, known, apart, rfl⟩
        cases same
        exact ⟨id, ⟨known, apart⟩, rfl⟩

end Flow

/-!
## What a verdict has found
-/

namespace Judges

variable {document : Document} {verdict : Verdict} {notes : List Canonical.Note}

/-- What a verdict on a document has found is the changes that it took, and its defects. -/
theorem mem_findings_iff
    (judges : Judges verdict notes document) {finding : Finding} :
    finding ∈ verdict.findings ↔
      (∃ note ∈ notes, finding = .normalized note) ∨ document.Defect finding := by
  rcases judges.found with ⟨edges, checked, all⟩
  rw [all, List.mem_append, List.mem_append, flowFindings, List.mem_append, List.mem_append,
    mem_edgeFindings_iff checked, mem_startFindings_iff, mem_unreachableFindings_iff]
  constructor
  · rintro ((aboutForm | aboutEdges) | ((aboutStart | aboutReach) | aboutCycle))
    · rcases List.mem_map.mp aboutForm with ⟨note, among, rfl⟩
      exact Or.inl ⟨note, among, rfl⟩
    · refine Or.inr ?_
      rcases aboutEdges with ⟨edge, member, ends⟩ | ⟨node, known, ⟨branches, held, defect⟩ | plain⟩
      · rcases mem_endFindings_iff.mp ends with ⟨unknown, rfl⟩ | ⟨unknown, rfl⟩
        · exact .unknownSource member unknown
        · exact .unknownTarget member unknown
      · exact .condition known held defect
      · exact .plain known plain.1 plain.2
    · refine Or.inr ?_
      rcases aboutStart with ⟨empty, rfl⟩ | ⟨inhabited, startless, rfl⟩ | ⟨start, starts, more, rfl⟩
      · exact .noNodes empty
      · exact .noStart inhabited startless
      · exact .manyStarts starts more
    · rcases aboutReach with ⟨start, starts, id, known, apart, rfl⟩
      exact Or.inr (.unreachable starts known apart)
    · rw [Option.mem_toList] at aboutCycle
      rcases Option.map_eq_some_iff.mp aboutCycle with ⟨ids, found, rfl⟩
      exact Or.inr (.cycle found)
  · rintro (⟨note, among, rfl⟩ | defect)
    · exact Or.inl (Or.inl (List.mem_map_of_mem among))
    · cases defect with
      | unknownSource member unknown =>
          exact Or.inl (Or.inr (Or.inl ⟨_, member,
            mem_endFindings_iff.mpr (Or.inl ⟨unknown, rfl⟩)⟩))
      | unknownTarget member unknown =>
          exact Or.inl (Or.inr (Or.inl ⟨_, member,
            mem_endFindings_iff.mpr (Or.inr ⟨unknown, rfl⟩)⟩))
      | condition known held defect =>
          exact Or.inl (Or.inr (Or.inr ⟨_, known, Or.inl ⟨_, held, defect⟩⟩))
      | plain known plain defect =>
          exact Or.inl (Or.inr (Or.inr ⟨_, known, Or.inr ⟨plain, defect⟩⟩))
      | noNodes empty =>
          exact Or.inr (Or.inl (Or.inl (Or.inl ⟨empty, rfl⟩)))
      | noStart inhabited startless =>
          exact Or.inr (Or.inl (Or.inl (Or.inr (Or.inl ⟨inhabited, startless, rfl⟩))))
      | manyStarts starts more =>
          exact Or.inr (Or.inl (Or.inl (Or.inr (Or.inr ⟨_, starts, more, rfl⟩))))
      | unreachable starts known apart =>
          exact Or.inr (Or.inl (Or.inr ⟨_, starts, _, known, apart, rfl⟩))
      | cycle found =>
          refine Or.inr (Or.inr ?_)
          rw [Option.mem_toList, found]
          rfl

theorem reports_cycle_iff
    (judges : Judges verdict notes document) :
    (∃ ids, .cycle ids ∈ verdict.findings) ↔ ¬document.followableLinks.Acyclic := by
  constructor
  · rintro ⟨ids, member⟩
    rcases judges.mem_findings_iff.mp member with ⟨note, _, same⟩ | defect
    · cases same
    · cases defect with
      | cycle found =>
          exact (isCycle_of_flow found).not_acyclic
      | condition _ _ defect =>
          cases defect
      | plain _ _ defect =>
          cases defect
  · intro cyclic
    cases found : document.flow.cycle with
    | none =>
        exact absurd (acyclic_of_flow found) cyclic
    | some ids =>
        exact ⟨ids, judges.mem_findings_iff.mpr (Or.inr (.cycle found))⟩

end Judges

end Check
end WorkflowWalk
