import Mathlib.Data.List.Nodup
import WorkflowWalk.Proofs.Check.Edges
import WorkflowWalk.Proofs.Walk.Rules

/-!
# Which edge is selected

At a condition the branches are gone through in order, and the first one decides that holds and has
an edge with its tag; if there is none, the edge of the other case does. What is selected depends on
the truths of the branches only. Over all truths that the branches could have, the edges selected
are those that count as followable.
-/

namespace WorkflowWalk

/-!
## Tags of different branches
-/

namespace BranchTag

theorem branch_inj
    {index other : Nat} (same : branch index = branch other) :
    index = other := by
  rcases exists_digits?_branch index with ⟨digits, found, value⟩
  rcases exists_digits?_branch other with ⟨others, also, second⟩
  rw [same, also, Option.some.injEq] at found
  rw [← value, ← second, found]

theorem branch_ne_otherwise (index : Nat) :
    branch index ≠ otherwise := by
  intro same
  rcases exists_digits?_branch index with ⟨digits, found, _⟩
  rw [same] at found
  cases found

end BranchTag

namespace Document

/-!
## First edges
-/

def Wired (document : Document) (id tag : String) : Prop :=
  ∃ edge ∈ document.edges, edge.source = id ∧ edge.tag = some tag

def FirstWired (document : Document) (id tag : String) (edge : Edge) : Prop :=
  ∃ before after, document.edges = before ++ edge :: after ∧
    (edge.source = id ∧ edge.tag = some tag) ∧
    ∀ earlier ∈ before, ¬(earlier.source = id ∧ earlier.tag = some tag)

variable {document : Document} {node : Node} {branches : List Branch}

theorem tagged?_outgoing (id tag : String) :
    tagged? (document.outgoing id) tag =
      document.edges.find? fun edge => decide (edge.source = id ∧ edge.tag = some tag) := by
  rw [tagged?, outgoing, List.find?_filter]
  congr 1
  funext edge
  simp

theorem firstWired_iff
    {id tag : String} {edge : Edge} :
    document.FirstWired id tag edge ↔ tagged? (document.outgoing id) tag = some edge := by
  rw [tagged?_outgoing, List.find?_eq_some_iff_append]
  simp only [decide_eq_true_eq, Bool.not_eq_true', decide_eq_false_iff_not, FirstWired]
  constructor
  · intro found
    rcases found with ⟨before, after, split, leaves, first⟩
    exact ⟨leaves, before, after, split, first⟩
  · intro firstWired
    rcases firstWired with ⟨leaves, before, after, split, first⟩
    exact ⟨before, after, split, leaves, first⟩

theorem not_wired_iff
    {id tag : String} :
    ¬document.Wired id tag ↔ tagged? (document.outgoing id) tag = none := by
  rw [tagged?_outgoing, List.find?_eq_none]
  simp [Wired]

/-!
## What the truths of the branches select
-/

/-- The decision at a condition whose branches are true or not: for the first branch that is true
and has an edge with its tag, else for the other case, if there is an edge for it. -/
inductive Selects (document : Document) (node : Node) (branches : List Branch)
    (truth : Nat → Bool) : Option Decision → Prop
  | branch {index : Nat} {branch : Branch} {edge : Edge}
      (there : branches[index]? = some branch) (holds : truth index = true)
      (first : document.FirstWired node.id (BranchTag.branch index) edge)
      (least : ∀ earlier < index, truth earlier = true →
        ¬document.Wired node.id (BranchTag.branch earlier)) :
      Selects document node branches truth
        (some ⟨edge, some branch.name, some branch.condition⟩)
  | otherwise {edge : Edge}
      (passed : ∀ index < branches.length, truth index = true →
        ¬document.Wired node.id (BranchTag.branch index))
      (first : document.FirstWired node.id BranchTag.otherwise edge) :
      Selects document node branches truth (some ⟨edge, some BranchTag.otherwise, none⟩)
  | nothing
      (passed : ∀ index < branches.length, truth index = true →
        ¬document.Wired node.id (BranchTag.branch index))
      (bare : ¬document.Wired node.id BranchTag.otherwise) :
      Selects document node branches truth none

def Truths (branches : List Branch) (context : Context) (truth : Nat → Bool) : Prop :=
  ∀ index branch, branches[index]? = some branch →
    Condition.holds (Condition.parse? branch.condition) context = .ok (truth index)

theorem exists_truths
    {context : Context} (writable : context.Writable) (branches : List Branch) :
    ∃ truth, Truths branches context truth := by
  have each : ∀ branch : Branch, ∃ result,
      Condition.holds (Condition.parse? branch.condition) context = .ok result :=
    fun branch => Condition.holds_of_writable writable _
  choose evaluate evaluated using each
  refine ⟨fun index => (branches[index]?.map evaluate).getD false, ?_⟩
  intro index branch there
  show _ = Except.ok ((branches[index]?.map evaluate).getD false)
  rw [there, evaluated]
  rfl

theorem lt_length_of_getElem?
    {α : Type} {items : List α} {index : Nat} {item : α} (there : items[index]? = some item) :
    index < items.length :=
  (List.getElem?_eq_some_iff.mp there).1

theorem FirstWired.wired
    {id tag : String} {edge : Edge} (first : document.FirstWired id tag edge) :
    document.Wired id tag := by
  rcases first with ⟨before, after, split, leaves, _⟩
  exact ⟨edge, split ▸ List.mem_append_right _ List.mem_cons_self, leaves⟩

theorem FirstWired.unique
    {id tag : String} {edge other : Edge} (first : document.FirstWired id tag edge)
    (also : document.FirstWired id tag other) :
    edge = other := by
  rw [firstWired_iff] at first also
  rw [first, Option.some.injEq] at also
  exact also

theorem Selects.unique
    {truth : Nat → Bool} {one other : Option Decision}
    (selects : document.Selects node branches truth one)
    (also : document.Selects node branches truth other) :
    one = other := by
  cases selects with
  | @branch index branch edge there holds first least =>
      have within := lt_length_of_getElem? there
      cases also with
      | @branch second branch' edge' there' holds' first' least' =>
          have same : index = second := by
            rcases Nat.lt_trichotomy index second with before | same | after
            · exact absurd first.wired (least' index before holds)
            · exact same
            · exact absurd first'.wired (least second after holds')
          subst same
          rw [there, Option.some.injEq] at there'
          rw [there', first.unique first']
      | otherwise passed =>
          exact absurd first.wired (passed index within holds)
      | nothing passed =>
          exact absurd first.wired (passed index within holds)
  | otherwise passed first =>
      cases also with
      | @branch index _ _ there holds first' =>
          exact absurd first'.wired (passed index (lt_length_of_getElem? there) holds)
      | otherwise _ first' =>
          rw [first.unique first']
      | nothing _ bare =>
          exact absurd first.wired bare
  | nothing passed bare =>
      cases also with
      | @branch index _ _ there holds first' =>
          exact absurd first'.wired (passed index (lt_length_of_getElem? there) holds)
      | otherwise _ first' =>
          exact absurd first'.wired bare
      | nothing =>
          rfl

/-!
## Decisions follow the truths
-/

/-- A branch does not decide: it is not true, or no edge has its tag. -/
def Passed (edges : List Edge) (truth : Nat → Bool) (index : Nat) : Prop :=
  truth index = true → tagged? edges (BranchTag.branch index) = none

theorem amongBranches_cases
    (edges : List Edge) {context : Context} {truth : Nat → Bool} {index : Nat}
    (given : ∀ offset branch, branches[offset]? = some branch →
      Condition.holds (Condition.parse? branch.condition) context = .ok (truth (index + offset))) :
    (∃ offset branch edge, branches[offset]? = some branch ∧ truth (index + offset) = true ∧
      tagged? edges (BranchTag.branch (index + offset : Nat)) = some edge ∧
      (∀ earlier < offset, Passed edges truth (index + earlier)) ∧
      Decision.amongBranches edges context index branches =
        .ok (some ⟨edge, some branch.name, some branch.condition⟩)) ∨
    ((∀ offset < branches.length, Passed edges truth (index + offset)) ∧
      Decision.amongBranches edges context index branches = .ok (Decision.ofOtherwise edges)) := by
  induction branches generalizing index with
  | nil =>
      refine Or.inr ⟨?_, rfl⟩
      intro offset within
      cases within
  | cons branch rest ih =>
      have shift : ∀ offset, index + 1 + offset = index + (offset + 1) := by
        omega
      have later : ∀ offset next, rest[offset]? = some next →
          Condition.holds (Condition.parse? next.condition) context =
            .ok (truth (index + 1 + offset)) := by
        intro offset next there
        rw [shift]
        exact given (offset + 1) next there
      rcases Decision.amongBranches_cons edges (given 0 branch rfl) index rest with
        ⟨holds, edge, found, taken⟩ | ⟨passed, onward⟩
      · refine Or.inl ⟨0, branch, edge, rfl, holds, found, ?_, taken⟩
        intro earlier before
        cases before
      · rw [onward]
        rcases ih later with ⟨offset, next, edge, there, holds, found, least, taken⟩ |
          ⟨none, otherwise⟩
        · rw [shift] at holds found
          refine Or.inl ⟨offset + 1, next, edge, there, holds, found, ?_, taken⟩
          intro earlier before
          cases earlier with
          | zero =>
              exact passed
          | succ earlier =>
              rw [← shift]
              exact least earlier (Nat.lt_of_succ_lt_succ before)
        · refine Or.inr ⟨?_, otherwise⟩
          intro offset within
          cases offset with
          | zero =>
              exact passed
          | succ offset =>
              rw [← shift]
              exact none offset (Nat.lt_of_succ_lt_succ within)

theorem passed_iff
    {truth : Nat → Bool} {index : Nat} :
    Passed (document.outgoing node.id) truth index ↔
      (truth index = true → ¬document.Wired node.id (BranchTag.branch index)) := by
  rw [Passed, not_wired_iff]

/-- What is decided in a context is what the truths of the branches in it select. -/
theorem exists_selected
    (held : node.branches? = some branches) {context : Context} {truth : Nat → Bool}
    (given : Truths branches context truth) :
    ∃ decision, Decision.resolve document context node = .ok decision ∧
      document.Selects node branches truth decision := by
  have offset : ∀ index branch, branches[index]? = some branch →
      Condition.holds (Condition.parse? branch.condition) context = .ok (truth (0 + index)) := by
    intro index branch there
    rw [Nat.zero_add]
    exact given index branch there
  rw [Decision.resolve, held]
  rcases amongBranches_cases (document.outgoing node.id) offset with
    ⟨index, branch, edge, there, holds, found, least, taken⟩ | ⟨none, otherwise⟩
  · simp only [Nat.zero_add, passed_iff] at holds found least
    exact ⟨_, taken, .branch there holds (firstWired_iff.mpr found) least⟩
  · simp only [Nat.zero_add, passed_iff] at none
    refine ⟨_, otherwise, ?_⟩
    cases found : tagged? (document.outgoing node.id) BranchTag.otherwise with
    | none =>
        rw [Decision.ofOtherwise, found]
        exact .nothing none (not_wired_iff.mpr found)
    | some edge =>
        rw [Decision.ofOtherwise, found]
        exact .otherwise none (firstWired_iff.mpr found)

/-!
## Edges that are selected
-/

theorem mem_followable_iff
    (held : node.branches? = some branches) {edge : Edge} :
    edge ∈ document.followable node ↔
      (∃ index < branches.length,
        document.FirstWired node.id (BranchTag.branch index) edge) ∨
      document.FirstWired node.id BranchTag.otherwise edge := by
  rw [followable, held]
  simp only [List.mem_filterMap, firstWired_iff]
  constructor
  · intro taken
    rcases taken with ⟨tag, usable, found⟩
    rcases Check.mem_usableTags_iff.mp usable with rfl | ⟨index, within, rfl⟩
    · exact Or.inr found
    · exact Or.inl ⟨index, within, found⟩
  · intro first
    rcases first with ⟨index, within, found⟩ | found
    · exact ⟨_, Decision.mem_usableTags_branch within, found⟩
    · exact ⟨_, Decision.mem_usableTags_otherwise _, found⟩

theorem mem_followable_iff_selects
    (held : node.branches? = some branches) {edge : Edge} :
    edge ∈ document.followable node ↔
      ∃ truth decision, document.Selects node branches truth (some decision) ∧
        decision.edge = edge := by
  rw [mem_followable_iff held]
  constructor
  · intro wired
    rcases wired with ⟨index, within, first⟩ | first
    · refine ⟨fun other => decide (other = index), _,
        .branch (List.getElem?_eq_getElem within) (decide_eq_true rfl) first ?_, rfl⟩
      intro earlier before holds
      exact absurd (of_decide_eq_true holds) (Nat.ne_of_lt before)
    · refine ⟨fun _ => false, _, .otherwise ?_ first, rfl⟩
      intro index _ holds
      cases holds
  · intro selected
    rcases selected with ⟨truth, decision, selects, rfl⟩
    cases selects with
    | branch there _ first =>
        exact Or.inl ⟨_, lt_length_of_getElem? there, first⟩
    | otherwise _ first =>
        exact Or.inr first

theorem nodup_usableTags (branches : Nat) :
    (usableTags branches).Nodup := by
  rw [usableTags, List.nodup_append]
  refine ⟨?_, List.nodup_cons.mpr ⟨List.not_mem_nil, List.nodup_nil⟩, ?_⟩
  · exact List.nodup_range.map fun _ _ => BranchTag.branch_inj
  · intro tag named other isOther same
    rcases List.mem_map.mp named with ⟨index, _, rfl⟩
    rw [List.mem_singleton.mp isOther] at same
    exact BranchTag.branch_ne_otherwise index same

theorem nodup_followable
    (held : node.branches? = some branches) :
    (document.followable node).Nodup := by
  rw [followable, held]
  apply (nodup_usableTags branches.length).filterMap
  intro tag other edge found also
  have again := tag_of_tagged? also
  rw [tag_of_tagged? found, Option.some.injEq] at again
  exact again

theorem exists_selects_none_iff :
    (∃ truth, document.Selects node branches truth none) ↔
      ¬document.Wired node.id BranchTag.otherwise := by
  constructor
  · intro selected
    rcases selected with ⟨truth, selects⟩
    cases selects with
    | nothing _ bare =>
        exact bare
  · intro bare
    refine ⟨fun _ => false, .nothing ?_ bare⟩
    intro index _ holds
    cases holds

/-!
## Decisions at conditions
-/

/-- The decision at a condition is what the truths of its branches select. The edges that any truths
select are those that can be followed, each of them once, and there are truths that select nothing
exactly if there is no edge for the other case. -/
theorem resolve_selects
    (document : Document) {node : Node} {branches : List Branch}
    (held : node.branches? = some branches) :
    (∀ context : Context, context.Writable → ∃ truth, Truths branches context truth) ∧
    (∀ context truth, Truths branches context truth →
      ∃ decision, Decision.resolve document context node = .ok decision ∧
        ∀ other, document.Selects node branches truth other ↔ other = decision) ∧
    (∀ edge, edge ∈ document.followable node ↔
      ∃ truth decision, document.Selects node branches truth (some decision) ∧
        decision.edge = edge) ∧
    (document.followable node).Nodup ∧
    ((∃ truth, document.Selects node branches truth none) ↔
      ¬document.Wired node.id BranchTag.otherwise) := by
  refine ⟨fun context writable => exists_truths writable branches, ?_,
    fun edge => mem_followable_iff_selects held, nodup_followable held, exists_selects_none_iff⟩
  intro context truth given
  rcases exists_selected held given with ⟨decision, decided, selects⟩
  refine ⟨decision, decided, ?_⟩
  intro other
  constructor
  · intro also
    exact also.unique selects
  · intro same
    exact same ▸ selects

def crossroadsBranches : List Branch :=
  [⟨"adult", "age >= 18"⟩]

theorem resolve_selects_crossroads :
    ∃ node, Walk.crossroads.node? "check" = some node ∧
      node.branches? = some crossroadsBranches ∧
      (Truths crossroadsBranches Walk.crossing.context fun _ => true) ∧
      (∃ decision,
        Decision.resolve Walk.crossroads Walk.crossing.context node = .ok decision ∧
          ∀ other, Walk.crossroads.Selects node crossroadsBranches (fun _ => true) other ↔
            other = decision) ∧
      ∀ edge ∈ Walk.crossroads.edges, ∃ truth decision,
        Walk.crossroads.Selects node crossroadsBranches truth (some decision) ∧
          decision.edge = edge := by
  have given : Truths crossroadsBranches Walk.crossing.context fun _ => true := by
    intro index branch there
    cases index with
    | zero =>
        cases there
        exact Walk.crossing_holds
    | succ index =>
        cases there
  cases found : Walk.crossroads.node? "check" with
  | none =>
      cases found
  | some node =>
      have held : node.branches? = some crossroadsBranches := by
        cases found
        rfl
      have both : Walk.crossroads.followable node = Walk.crossroads.edges := by
        cases found
        rfl
      rcases resolve_selects Walk.crossroads held with ⟨_, decides, selected, _, _⟩
      refine ⟨node, rfl, held, given, decides _ _ given, ?_⟩
      intro edge member
      exact (selected edge).mp (both ▸ member)

end Document
end WorkflowWalk
