import WorkflowWalk.Check.Edges
import WorkflowWalk.Proofs.Choice
import WorkflowWalk.Proofs.Document.BranchTag
import WorkflowWalk.Proofs.Document.Graph
import WorkflowWalk.Proofs.Result

/-!
# What is found about edges that are never followed

If an edge out of a node is not among those that can be followed, then something is found that says
so: the edge has no tag or a tag of no branch, or another edge with its tag comes first, or the node
is left by its first edge. There is one exception. A tag that is read as the index of a branch
without being the tag of that branch passes the check, and yet no walk follows the edge.
-/

namespace WorkflowWalk

/-- A finding says of an edge that no walk follows it out of a node. -/
inductive Finding.Disowns (node : Node) (edge : Edge) : Finding → Prop
  | untagged : Disowns node edge (.tagMissing edge node)
  | invalid {tag : String} {branches : Nat} :
      Disowns node edge (.tagInvalid edge tag node branches)
  | repeated {tag : String} {count : Nat} (tagged : edge.tag = some tag) :
      Disowns node edge (.tagRepeated tag count node)
  | further {count : Nat} {first : Edge} : Disowns node edge (.manyOutgoing node count first)

theorem Finding.Disowns.diagnostic
    {finding : Finding} {node : Node} {edge : Edge} (disowns : finding.Disowns node edge) :
    finding.diagnostic.nodeId = some node.id ∧
      finding.diagnostic.code ∈
        ["EDGE_BRANCH_TAG_MISSING", "EDGE_BRANCH_TAG_INVALID", "EDGE_DUPLICATE_BRANCH_TAG",
          "NODE_MULTIPLE_OUTGOING"] := by
  cases disowns <;> simp [Finding.diagnostic]

namespace Check

open Document

/-!
## Tags of edges
-/

theorem tag?_eq_some
    {edge : Edge} {tag : String} :
    tag? edge = some tag ↔ edge.tag = some tag ∧ tag ≠ "" := by
  rw [tag?, Option.filter_eq_some_iff, decide_eq_true_iff]

/-- A tag that can be read passes the check exactly if it is the tag of a branch, or is misspelt. -/
theorem namesNoBranch_iff
    {branches : Nat} {tag : String} {index : Option Nat}
    (read : BranchTag.index? tag = .ok index) :
    namesNoBranch branches index = true ↔
      (∀ index < branches, tag ≠ BranchTag.branch index) ∧ ¬BranchTag.Misspelt branches tag := by
  constructor
  · intro none
    have beyond : ∀ named, index = some named → ¬named < branches := by
      intro named same within
      rw [same] at none
      simp [namesNoBranch, within] at none
    constructor
    · rintro named within rfl
      exact beyond named (BranchTag.index?_branch read) within
    · rintro ⟨named, within, reads, _⟩
      rw [read] at reads
      exact beyond named (Except.ok.inj reads) within
  · rintro ⟨strange, spelt⟩
    cases index with
    | none =>
        rfl
    | some named =>
        have beyond : ¬named < branches := by
          intro within
          exact spelt ⟨named, within, read, strange named within⟩
        simp [namesNoBranch, beyond]

theorem tagMissing_mem_tagFindings
    {node : Node} {branches : Nat} {edge : Edge} (missing : tag? edge = none)
    {findings : List Finding} (checked : tagFindings node branches edge = .ok findings) :
    .tagMissing edge node ∈ findings := by
  rw [tagFindings, missing] at checked
  cases checked
  exact List.mem_cons_self

theorem tagInvalid_mem_tagFindings
    {node : Node} {branches : Nat} {edge : Edge} {tag : String} (tagged : tag? edge = some tag)
    {findings : List Finding} (checked : tagFindings node branches edge = .ok findings) :
    .tagInvalid edge tag node branches ∈ findings ↔
      tag ≠ BranchTag.otherwise ∧ (∀ index < branches, tag ≠ BranchTag.branch index) ∧
        ¬BranchTag.Misspelt branches tag := by
  rw [tagFindings, tagged] at checked
  rcases ok_of_map checked with ⟨index, read, rfl⟩
  rw [← namesNoBranch_iff read]
  split
  · rename_i strange
    exact ⟨fun _ => strange, fun _ => List.mem_cons_self⟩
  · rename_i known
    exact ⟨fun member => absurd member List.not_mem_nil, fun strange => absurd strange known⟩

theorem edge_of_mem_tagFindings
    {node other : Node} {branches total : Nat} {edge another : Edge} {tag : String}
    {findings : List Finding} (checked : tagFindings node branches edge = .ok findings)
    (member : .tagInvalid another tag other total ∈ findings) :
    another = edge ∧ other = node := by
  unfold tagFindings at checked
  split at checked
  · cases checked
    cases List.mem_singleton.mp member
  · rcases ok_of_map checked with ⟨index, _, rfl⟩
    split at member
    · cases List.mem_singleton.mp member
      exact ⟨rfl, rfl⟩
    · cases member

/-!
## Repeated tags
-/

theorem mem_distinctFrom
    {texts seen : List String} {text : String} :
    text ∈ texts.foldl (fun seen text => if seen.contains text then seen else seen ++ [text]) seen ↔
      text ∈ seen ∨ text ∈ texts := by
  induction texts generalizing seen with
  | nil =>
      simp
  | cons first rest ih =>
      rw [List.foldl_cons, ih, List.mem_cons]
      by_cases met : first ∈ seen
      · rw [if_pos (List.contains_iff_mem.mpr met)]
        constructor
        · intro among
          exact among.imp id Or.inr
        · rintro (before | rfl | later)
          · exact Or.inl before
          · exact Or.inl met
          · exact Or.inr later
      · rw [if_neg (fun again => met (List.contains_iff_mem.mp again)), List.mem_append,
          List.mem_singleton, or_assoc]

theorem mem_distinct {texts : List String} {text : String} :
    text ∈ distinct texts ↔ text ∈ texts := by
  rw [distinct, mem_distinctFrom, or_iff_right List.not_mem_nil]

theorem one_lt_count_of_ne
    {edges : List Edge} {edge first : Edge} (member : edge ∈ edges) (earlier : first ∈ edges)
    (differs : edge ≠ first) {tag : String} (tagged : tag? edge = some tag)
    (taggedToo : tag? first = some tag) :
    1 < (edges.filterMap tag?).count tag := by
  rcases List.mem_iff_append.mp earlier with ⟨before, after, rfl⟩
  rw [List.filterMap_append, List.filterMap_cons_some taggedToo, List.count_append,
    List.count_cons_self]
  have counted : ∀ edges : List Edge, edge ∈ edges → 0 < (edges.filterMap tag?).count tag := by
    intro edges among
    exact List.count_pos_iff.mpr (List.mem_filterMap.mpr ⟨edge, among, tagged⟩)
  rcases List.mem_append.mp member with among | among
  · have one := counted before among
    omega
  · rcases List.mem_cons.mp among with same | later
    · exact absurd same differs
    · have one := counted after later
      omega

theorem tagRepeated_mem_repeatFindings
    (node : Node) {tags : List String} {tag : String} (several : 1 < tags.count tag) :
    .tagRepeated tag (tags.count tag) node ∈ repeatFindings node tags := by
  have among : tag ∈ tags := List.count_pos_iff.mp (Nat.lt_of_succ_lt several)
  exact List.mem_filterMap.mpr ⟨tag, mem_distinct.mpr among, if_pos several⟩

/-!
## Nodes
-/

theorem mem_usableTags_iff
    {branches : Nat} {tag : String} :
    tag ∈ usableTags branches ↔
      tag = BranchTag.otherwise ∨ ∃ index < branches, tag = BranchTag.branch index := by
  constructor
  · intro usable
    rcases List.mem_append.mp usable with named | other
    · rcases List.mem_map.mp named with ⟨index, within, rfl⟩
      exact Or.inr ⟨index, List.mem_range.mp within, rfl⟩
    · exact Or.inl (List.mem_singleton.mp other)
  · rintro (rfl | ⟨index, within, rfl⟩)
    · exact Decision.mem_usableTags_otherwise branches
    · exact Decision.mem_usableTags_branch within

theorem not_mem_usableTags_of_misspelt
    {branches : Nat} {tag : String} (misspelt : BranchTag.Misspelt branches tag) :
    tag ∉ usableTags branches := by
  intro usable
  rcases misspelt with ⟨index, _, read, differs⟩
  rcases mem_usableTags_iff.mp usable with rfl | ⟨own, _, rfl⟩
  · have none : BranchTag.index? BranchTag.otherwise = .ok none := rfl
    rw [none] at read
    cases read
  · cases BranchTag.index?_branch read
    exact differs rfl

theorem exists_followable_of_tag
    {document : Document} {node : Node} {branches : List Branch}
    (held : node.branches? = some branches) {edge : Edge} {tag : String}
    (leaving : edge ∈ document.outgoing node.id) (tagged : edge.tag = some tag)
    (usable : tag ∈ usableTags branches.length) :
    ∃ first ∈ document.outgoing node.id, first.tag = some tag ∧
      first ∈ document.followable node := by
  cases found : tagged? (document.outgoing node.id) tag with
  | none =>
      exact absurd (decide_eq_true tagged) (List.find?_eq_none.mp found edge leaving)
  | some first =>
      refine ⟨first, mem_of_tagged? found, tag_of_tagged? found, ?_⟩
      rw [followable, held]
      exact List.mem_filterMap.mpr ⟨tag, usable, found⟩

theorem tag_mem_usableTags
    {document : Document} {node : Node} {branches : List Branch}
    (held : node.branches? = some branches) {edge : Edge}
    (followed : edge ∈ document.followable node) {tag : String} (tagged : edge.tag = some tag) :
    tag ∈ usableTags branches.length := by
  rw [followable, held] at followed
  rcases List.mem_filterMap.mp followed with ⟨usable, among, found⟩
  have carried := tag_of_tagged? found
  rw [tagged, Option.some.injEq] at carried
  rw [carried]
  exact among

section Nodes

variable {document : Document} {node : Node} {branches : List Branch} {edge : Edge}
  {findings : List Finding}

theorem exists_tagFindings
    (checked : conditionFindings document node branches = .ok findings)
    (leaving : edge ∈ document.outgoing node.id) :
    ∃ own, tagFindings node branches.length edge = .ok own ∧
      ∀ finding ∈ own, finding ∈ findings := by
  rcases ok_of_map checked with ⟨perEdge, each, rfl⟩
  rcases exists_of_mapM each leaving with ⟨own, among, ownChecked⟩
  refine ⟨own, ownChecked, ?_⟩
  intro finding member
  exact List.mem_append_left _ (List.mem_append_left _ (List.mem_append_left _
    (List.mem_flatten.mpr ⟨own, among, member⟩)))

theorem tagRepeated_mem_conditionFindings
    (checked : conditionFindings document node branches = .ok findings) {tag : String}
    (several : 1 < ((document.outgoing node.id).filterMap tag?).count tag) :
    .tagRepeated tag (((document.outgoing node.id).filterMap tag?).count tag) node ∈ findings := by
  rcases ok_of_map checked with ⟨perEdge, _, rfl⟩
  exact List.mem_append_left _ (List.mem_append_left _ (List.mem_append_right _
    (tagRepeated_mem_repeatFindings node several)))

theorem disowns_or_misspelt_of_condition
    (held : node.branches? = some branches)
    (checked : conditionFindings document node branches = .ok findings)
    (leaving : edge ∈ document.outgoing node.id) (dead : edge ∉ document.followable node) :
    (∃ finding ∈ findings, finding.Disowns node edge) ∨
      ∃ tag, edge.tag = some tag ∧ BranchTag.Misspelt branches.length tag := by
  rcases exists_tagFindings checked leaving with ⟨own, ownChecked, kept⟩
  cases tagged : tag? edge with
  | none =>
      exact Or.inl ⟨_, kept _ (tagMissing_mem_tagFindings tagged ownChecked), .untagged⟩
  | some tag =>
      have carries : edge.tag = some tag := (tag?_eq_some.mp tagged).1
      have written : tag ≠ "" := (tag?_eq_some.mp tagged).2
      by_cases usable : tag ∈ usableTags branches.length
      · rcases exists_followable_of_tag held leaving carries usable with
          ⟨first, earlier, carriesToo, followed⟩
        have differs : edge ≠ first := by
          rintro rfl
          exact dead followed
        have several := one_lt_count_of_ne leaving earlier differs tagged
          (tag?_eq_some.mpr ⟨carriesToo, written⟩)
        exact Or.inl ⟨_, tagRepeated_mem_conditionFindings checked several, .repeated carries⟩
      · by_cases misspelt : BranchTag.Misspelt branches.length tag
        · exact Or.inr ⟨tag, carries, misspelt⟩
        · rw [mem_usableTags_iff, not_or] at usable
          have strange : ∀ index < branches.length, tag ≠ BranchTag.branch index :=
            fun index within same => usable.2 ⟨index, within, same⟩
          have found := (tagInvalid_mem_tagFindings tagged ownChecked).mpr
            ⟨usable.1, strange, misspelt⟩
          exact Or.inl ⟨_, kept _ found, .invalid⟩

theorem disowns_of_plain
    (plain : node.branches? = none) (leaving : edge ∈ document.outgoing node.id)
    (dead : edge ∉ document.followable node) :
    ∃ finding ∈ plainFindings document node, finding.Disowns node edge := by
  rw [followable, plain] at dead
  unfold plainFindings
  cases edges : document.outgoing node.id with
  | nil =>
      rw [edges] at leaving
      cases leaving
  | cons first rest =>
      cases rest with
      | nil =>
          rw [edges] at leaving dead
          exact absurd leaving dead
      | cons =>
          exact ⟨_, List.mem_append_right _ List.mem_cons_self, .further⟩

theorem disowns_or_misspelt
    (checked : nodeFindings document node = .ok findings)
    (leaving : edge ∈ document.outgoing node.id) (dead : edge ∉ document.followable node) :
    (∃ finding ∈ findings, finding.Disowns node edge) ∨
      ∃ branches tag, node.branches? = some branches ∧ edge.tag = some tag ∧
        BranchTag.Misspelt branches.length tag := by
  unfold nodeFindings at checked
  cases held : node.branches? with
  | none =>
      rw [held] at checked
      cases checked
      exact Or.inl (disowns_of_plain held leaving dead)
  | some branches =>
      rw [held] at checked
      rcases disowns_or_misspelt_of_condition held checked leaving dead with
        found | ⟨tag, carries, misspelt⟩
      · exact Or.inl found
      · exact Or.inr ⟨branches, tag, rfl, carries, misspelt⟩

end Nodes

/-!
## Documents
-/

theorem tagInvalid_not_mem_endFindings
    {document : Document} {edge another : Edge} {tag : String} {node : Node} {branches : Nat} :
    .tagInvalid another tag node branches ∉ endFindings document edge := by
  unfold endFindings
  split <;> split <;> simp

theorem exists_tagFindings_of_condition
    {document : Document} {node other : Node} {branches : List Branch} {edge : Edge} {tag : String}
    {total : Nat} {findings : List Finding}
    (checked : conditionFindings document node branches = .ok findings)
    (member : .tagInvalid edge tag other total ∈ findings) :
    other = node ∧ ∃ own, tagFindings node branches.length edge = .ok own ∧
      .tagInvalid edge tag other total ∈ own := by
  rcases ok_of_map checked with ⟨perEdge, each, rfl⟩
  simp only [List.mem_append] at member
  rcases member with ((among | repeats) | branchwise) | otherwise
  · rcases List.mem_flatten.mp among with ⟨own, inEdges, found⟩
    rcases exists_item_of_mapM each inEdges with ⟨another, _, ownChecked⟩
    rcases edge_of_mem_tagFindings ownChecked found with ⟨rfl, rfl⟩
    exact ⟨rfl, own, ownChecked, found⟩
  · rcases List.mem_filterMap.mp repeats with ⟨text, _, made⟩
    split at made
    · cases made
    · cases made
  · rcases List.mem_flatten.mp branchwise with ⟨own, inBranches, found⟩
    rcases List.mem_mapIdx.mp inBranches with ⟨index, within, rfl⟩
    unfold branchFindings at found
    split at found <;> split at found <;> simp at found
  · split at otherwise
    · cases otherwise
    · cases List.mem_singleton.mp otherwise

theorem tagInvalid_not_mem_plainFindings
    {document : Document} {node other : Node} {edge : Edge} {tag : String} {branches : Nat} :
    .tagInvalid edge tag other branches ∉ plainFindings document node := by
  have none : ∀ edges : List Edge, .tagInvalid edge tag other branches ∉
      edges.filterMap fun edge => (tag? edge).map fun tag => Finding.tagIgnored edge tag node := by
    intro edges member
    rcases List.mem_filterMap.mp member with ⟨another, _, made⟩
    rcases Option.map_eq_some_iff.mp made with ⟨_, _, same⟩
    cases same
  unfold plainFindings
  simp only
  split
  · intro member
    rcases List.mem_append.mp member with ignored | further
    · exact none _ ignored
    · cases List.mem_singleton.mp further
  · exact none _

section Documents

variable {document : Document} {findings : List Finding}

theorem exists_nodeFindings
    (checked : edgeFindings document = .ok findings) {node : Node} (member : node ∈ document.nodes) :
    ∃ own, nodeFindings document node = .ok own ∧ ∀ finding ∈ own, finding ∈ findings := by
  rcases ok_of_map checked with ⟨perNode, each, rfl⟩
  rcases exists_of_mapM each member with ⟨own, among, ownChecked⟩
  refine ⟨own, ownChecked, ?_⟩
  intro finding found
  exact List.mem_append_right _ (List.mem_flatten.mpr ⟨own, among, found⟩)

theorem exists_tagFindings_of_mem
    (checked : edgeFindings document = .ok findings) {edge : Edge} {tag : String} {node : Node}
    {total : Nat} (member : .tagInvalid edge tag node total ∈ findings) :
    ∃ branches own, node.branches? = some branches ∧
      tagFindings node branches.length edge = .ok own ∧ .tagInvalid edge tag node total ∈ own := by
  rcases ok_of_map checked with ⟨perNode, each, rfl⟩
  rcases List.mem_append.mp member with aboutEnds | aboutNodes
  · rcases List.mem_flatMap.mp aboutEnds with ⟨another, _, found⟩
    exact absurd found tagInvalid_not_mem_endFindings
  · rcases List.mem_flatten.mp aboutNodes with ⟨own, inNodes, found⟩
    rcases exists_item_of_mapM each inNodes with ⟨other, _, ownChecked⟩
    unfold nodeFindings at ownChecked
    cases held : other.branches? with
    | none =>
        rw [held] at ownChecked
        cases ownChecked
        exact absurd found tagInvalid_not_mem_plainFindings
    | some branches =>
        rw [held] at ownChecked
        rcases exists_tagFindings_of_condition ownChecked found with ⟨rfl, tags, tagChecked, among⟩
        exact ⟨branches, tags, held, tagChecked, among⟩

theorem tagInvalid_mem_edgeFindings
    (checked : edgeFindings document = .ok findings) {edge : Edge} {tag : String} {node : Node}
    {branches : List Branch} (member : node ∈ document.nodes) (held : node.branches? = some branches)
    (leaving : edge ∈ document.outgoing node.id) (tagged : tag? edge = some tag) :
    .tagInvalid edge tag node branches.length ∈ findings ↔
      tag ≠ BranchTag.otherwise ∧ (∀ index < branches.length, tag ≠ BranchTag.branch index) ∧
        ¬BranchTag.Misspelt branches.length tag := by
  rcases exists_nodeFindings checked member with ⟨own, ownChecked, kept⟩
  rw [nodeFindings, held] at ownChecked
  rcases exists_tagFindings ownChecked leaving with ⟨tags, tagChecked, keptToo⟩
  rw [← tagInvalid_mem_tagFindings tagged tagChecked]
  constructor
  · intro found
    rcases exists_tagFindings_of_mem checked found with ⟨others, again, heldToo, checkedToo, among⟩
    rw [held, Option.some.injEq] at heldToo
    rw [← heldToo, tagChecked] at checkedToo
    cases checkedToo
    exact among
  · intro found
    exact kept _ (keptToo _ found)

theorem endless_of_edgeFindings
    {fault : Numeral.Fault} (failed : edgeFindings document = .error fault) :
    ∃ node ∈ document.nodes, ∃ branches, node.branches? = some branches ∧
      ∃ edge ∈ document.outgoing node.id, ∃ tag, edge.tag = some tag ∧ BranchTag.Endless tag := by
  rcases exists_error_of_mapM (error_of_map failed) with ⟨node, member, nodeFailed⟩
  unfold nodeFindings at nodeFailed
  cases held : node.branches? with
  | none =>
      rw [held] at nodeFailed
      cases nodeFailed
  | some branches =>
      rw [held] at nodeFailed
      rcases exists_error_of_mapM (error_of_map nodeFailed) with ⟨edge, leaving, edgeFailed⟩
      refine ⟨node, member, branches, held, edge, leaving, ?_⟩
      unfold tagFindings at edgeFailed
      split at edgeFailed
      · cases edgeFailed
      · rename_i tag tagged
        exact ⟨tag, (tag?_eq_some.mp tagged).1,
          BranchTag.endless_of_index? (error_of_map edgeFailed)⟩

end Documents

/-- What is found about the edges of a document says of every edge that cannot be followed why that
is so, unless its tag is misspelt. A tag is found to be invalid exactly if it is neither the tag of
a branch nor that of the other case, nor misspelt. No edge with a misspelt tag can be followed. -/
structure Covers (document : Document) (findings : List Finding) : Prop where
  dead : ∀ edge ∈ document.edges, ∀ node, document.node? edge.source = some node →
    edge ∉ document.followable node →
      (∃ finding ∈ findings, finding.Disowns node edge) ∨
        ∃ branches tag, node.branches? = some branches ∧ edge.tag = some tag ∧
          BranchTag.Misspelt branches.length tag
  invalid : ∀ edge ∈ document.edges, ∀ node branches tag,
    document.node? edge.source = some node → node.branches? = some branches →
    edge.tag = some tag → tag ≠ "" →
      (.tagInvalid edge tag node branches.length ∈ findings ↔
        tag ≠ BranchTag.otherwise ∧ (∀ index < branches.length, tag ≠ BranchTag.branch index) ∧
          ¬BranchTag.Misspelt branches.length tag)
  misspelt : ∀ edge ∈ document.edges, ∀ node branches tag,
    document.node? edge.source = some node → node.branches? = some branches →
    edge.tag = some tag → BranchTag.Misspelt branches.length tag → edge ∉ document.followable node

/-- The edges are checked, and what is found covers all that cannot be followed. Only a tag that is
too long to be read, on an edge out of a condition, can keep the check from coming to an end. -/
theorem edgeFindings_covers (document : Document) :
    match edgeFindings document with
    | .ok findings => Covers document findings
    | .error _ =>
        ∃ node ∈ document.nodes, ∃ branches, node.branches? = some branches ∧
          ∃ edge ∈ document.outgoing node.id, ∃ tag, edge.tag = some tag ∧
            BranchTag.Endless tag := by
  have leaves : ∀ edge ∈ document.edges, ∀ node, document.node? edge.source = some node →
      edge ∈ document.outgoing node.id := by
    intro edge member node found
    have source : edge.source = node.id := (node?_eq_some_id found).symm
    exact List.mem_filter.mpr ⟨member, decide_eq_true source⟩
  split
  · rename_i findings checked
    constructor
    · intro edge member node found dead
      rcases exists_nodeFindings checked (node?_mem found) with ⟨own, ownChecked, kept⟩
      rcases disowns_or_misspelt ownChecked (leaves edge member node found) dead with
        ⟨finding, among, disowns⟩ | misspelt
      · exact Or.inl ⟨finding, kept finding among, disowns⟩
      · exact Or.inr misspelt
    · intro edge member node branches tag found held carries written
      exact tagInvalid_mem_edgeFindings checked (node?_mem found) held
        (leaves edge member node found) (tag?_eq_some.mpr ⟨carries, written⟩)
    · intro edge _ node branches tag _ held carries misspelt followed
      exact not_mem_usableTags_of_misspelt misspelt (tag_mem_usableTags held followed carries)
  · rename_i fault failed
    exact endless_of_edgeFindings failed

def ageCheck : Node :=
  ⟨"age", "", .condition [⟨"adult", "age >= 18"⟩], [], by decide⟩

/-- An edge whose tag has one nought too many. -/
def misspeltEdge : Edge :=
  ⟨"yes", "age", "go", some "branch-00", by decide, by decide, by decide⟩

def misspeltCrossroads : Document where
  nodes := [
    ageCheck,
    ⟨"go", "", .action [], [], by decide⟩,
    ⟨"halt", "", .level none none [], [], by decide⟩]
  edges := [
    misspeltEdge,
    ⟨"no", "age", "halt", some "else", by decide, by decide, by decide⟩]
  distinct := by decide

/-- No walk follows the misspelt edge, and nothing is found that says so. -/
theorem edgeFindings_silent_misspelt :
    misspeltCrossroads.node? misspeltEdge.source = some ageCheck ∧
      misspeltEdge ∈ misspeltCrossroads.edges ∧
      misspeltEdge ∉ misspeltCrossroads.followable ageCheck ∧
      (∀ context decision,
        Decision.resolve misspeltCrossroads context ageCheck = .ok (some decision) →
          decision.edge ≠ misspeltEdge) ∧
      ∃ findings, edgeFindings misspeltCrossroads = .ok findings ∧
        ∀ finding ∈ findings, ¬finding.Disowns ageCheck misspeltEdge := by
  have dead : misspeltEdge ∉ misspeltCrossroads.followable ageCheck := by
    decide
  have checked : edgeFindings misspeltCrossroads =
      .ok [.branchWithoutEdge ⟨"adult", "age >= 18"⟩ 0 ageCheck] := rfl
  refine ⟨rfl, List.mem_cons_self, dead, ?_, _, checked, ?_⟩
  · intro context decision decided same
    exact dead (same ▸ Decision.edge_mem_followable decided)
  · intro finding member disowns
    rw [List.mem_singleton.mp member] at disowns
    cases disowns

end Check
end WorkflowWalk
