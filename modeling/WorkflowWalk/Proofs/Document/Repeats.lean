import Mathlib.Data.List.Nodup
import WorkflowWalk.Proofs.Document.Canonical
import WorkflowWalk.Proofs.Document.Places

/-!
# Ids that repeat

That two nodes have one id is noticed where an id repeats an earlier one for the first time, and then
the rest of the nodes is not looked at. So of the ids that repeat one is named, whatever their
number, and none of the others.
-/

namespace WorkflowWalk
namespace Document

open Problem (Place)

/-!
## The first id that repeats
-/

def IsFirstRepeat (ids : List String) (id : String) : Prop :=
  ∃ before after, ids = before ++ id :: after ∧ id ∈ before ∧ before.Nodup

theorem exists_first_of_firstRepeat?
    {seen ids : List String} {id : String} (found : firstRepeat? seen ids = some id) :
    ∃ before after, ids = before ++ id :: after ∧ (id ∈ seen ∨ id ∈ before) ∧ before.Nodup ∧
      ∀ other ∈ before, other ∉ seen := by
  induction ids generalizing seen with
  | nil =>
      cases found
  | cons first rest ih =>
      unfold firstRepeat? at found
      split at found
      · rename_i known
        cases found
        have inside : id ∈ seen := by
          simpa using known
        exact ⟨[], rest, rfl, Or.inl inside, List.nodup_nil, fun _ member => by cases member⟩
      · rename_i fresh
        have unseen : first ∉ seen := by
          simpa using fresh
        rcases ih found with ⟨before, after, rfl, again, distinct, others⟩
        have once : first ∉ before := fun member => others first member List.mem_cons_self
        refine ⟨first :: before, after, rfl, ?_, List.nodup_cons.mpr ⟨once, distinct⟩, ?_⟩
        · rcases again with known | earlier
          · rcases List.mem_cons.mp known with rfl | known
            · exact Or.inr List.mem_cons_self
            · exact Or.inl known
          · exact Or.inr (List.mem_cons_of_mem _ earlier)
        · intro other member
          rcases List.mem_cons.mp member with rfl | member
          · exact unseen
          · exact fun known => others other member (List.mem_cons_of_mem _ known)

theorem firstRepeat?_of_first
    {seen before after : List String} {id : String} (again : id ∈ seen ∨ id ∈ before)
    (distinct : before.Nodup) (others : ∀ other ∈ before, other ∉ seen) :
    firstRepeat? seen (before ++ id :: after) = some id := by
  induction before generalizing seen with
  | nil =>
      have known : seen.contains id = true := by
        simpa using again
      rw [List.nil_append, firstRepeat?, if_pos known]
  | cons first rest ih =>
      rcases List.nodup_cons.mp distinct with ⟨once, distinct⟩
      have fresh : ¬seen.contains first = true := by
        simpa using others first List.mem_cons_self
      rw [List.cons_append, firstRepeat?, if_neg fresh]
      apply ih _ distinct
      · intro other member known
        rcases List.mem_cons.mp known with rfl | known
        · exact once member
        · exact others other (List.mem_cons_of_mem _ member) known
      · rcases again with known | earlier
        · exact Or.inl (List.mem_cons_of_mem _ known)
        · rcases List.mem_cons.mp earlier with rfl | earlier
          · exact Or.inl List.mem_cons_self
          · exact Or.inr earlier

theorem firstRepeat?_eq_some_iff
    {ids : List String} {id : String} :
    firstRepeat? [] ids = some id ↔ IsFirstRepeat ids id := by
  constructor
  · intro found
    rcases exists_first_of_firstRepeat? found with ⟨before, after, whole, again, distinct, _⟩
    rcases again with none | earlier
    · cases none
    · exact ⟨before, after, whole, earlier, distinct⟩
  · rintro ⟨before, after, rfl, earlier, distinct⟩
    exact firstRepeat?_of_first (Or.inr earlier) distinct fun _ _ => List.not_mem_nil

theorem IsFirstRepeat.unique
    {ids : List String} {id other : String} (first : IsFirstRepeat ids id)
    (also : IsFirstRepeat ids other) :
    id = other := by
  rw [← firstRepeat?_eq_some_iff] at first also
  exact Option.some.inj (first.symm.trans also)

theorem IsFirstRepeat.two_le_count
    {ids : List String} {id : String} (first : IsFirstRepeat ids id) :
    2 ≤ ids.count id := by
  rcases first with ⟨before, after, rfl, earlier, _⟩
  have here := List.count_pos_iff.mpr earlier
  rw [List.count_append, List.count_cons_self]
  omega

theorem exists_isFirstRepeat
    {ids : List String} {id : String} (twice : 2 ≤ ids.count id) :
    ∃ first, IsFirstRepeat ids first := by
  cases found : firstRepeat? [] ids with
  | none =>
      have once := List.nodup_iff_count_le_one.mp (firstRepeat?_eq_none_iff.mp found).1 id
      omega
  | some first =>
      exact ⟨first, firstRepeat?_eq_some_iff.mp found⟩

/-!
## What is said of ids that repeat
-/

def repeatText (id : String) : String :=
  (⟨.list .nodes, .duplicateId id⟩ : Problem).text

theorem toList_repeatText (id : String) :
    (repeatText id).toList =
      "nodes: Value error, Duplicate node id '".toList ++ (id.toList ++ "'.".toList) := by
  have whole : repeatText id =
      "nodes" ++ ": " ++ ("Value error, Duplicate node id '" ++ id ++ "'.") :=
    rfl
  have lead : "nodes: Value error, Duplicate node id '".toList =
      "nodes".toList ++ ": ".toList ++ "Value error, Duplicate node id '".toList :=
    rfl
  rw [whole, lead]
  simp only [String.toList_append, List.append_assoc]

theorem repeatText_inj
    {id other : String} (same : repeatText id = repeatText other) :
    id = other := by
  have lists := congrArg String.toList same
  rw [toList_repeatText, toList_repeatText] at lists
  exact String.toList_inj.mp (List.append_cancel_right (List.append_cancel_left lists))

theorem repeatText_not_mem_edges (id : String) (payload : Fields) :
    repeatText id ∉ (problemsIn .edges edgeSchema.flaws payload).map Problem.text := by
  intro member
  rcases List.mem_map.mp member with ⟨problem, among, same⟩
  rcases exists_toList_text problem.place with ⟨rest, start⟩
  have lists := congrArg String.toList same
  rw [fst_origin_of_mem_problemsIn among] at start
  rw [toList_repeatText, Problem.text, String.toList_append, String.toList_append, start] at lists
  cases (List.cons.inj lists).1

/-- Where nothing is wrong with the nodes one by one, the first id that repeats is named. -/
theorem repeatText_mem_listing_iff
    {payload : Fields} (nodes : ListOf .nodes IsNode payload) (id : String) :
    repeatText id ∈ (listing payload).map Problem.text ↔ IsFirstRepeat (idsOf payload) id := by
  have sound := (problemsIn_eq_nil_iff nodeFlaws_eq_nil_iff).mpr nodes
  have parts : listing payload =
      repeatedId payload ++ problemsIn .edges edgeSchema.flaws payload := by
    rw [listing, nodeProblems, sound]
  rw [parts, List.map_append, List.mem_append,
    or_iff_left (repeatText_not_mem_edges id payload), ← firstRepeat?_eq_some_iff]
  constructor
  · intro member
    rcases List.mem_map.mp member with ⟨problem, among, same⟩
    rcases mem_repeatedId among with ⟨first, found, rfl⟩
    rwa [← repeatText_inj same]
  · intro found
    rw [repeatedId, found]
    exact List.mem_singleton_self _

/-!
## Rejected documents
-/

/-- The errors of a document name exactly one of the ids that repeat, the one that is the first to do
so. -/
structure NamesFirstRepeat (ids errors : List String) : Prop where
  named : ∀ id, repeatText id ∈ errors ↔ IsFirstRepeat ids id
  twice : ∀ id, repeatText id ∈ errors → 2 ≤ ids.count id
  one : ∀ id, 2 ≤ ids.count id → ∃ first, repeatText first ∈ errors ∧
    ∀ other, repeatText other ∈ errors → other = first
  only : ∀ id, 2 ≤ ids.count id → (∀ other, 2 ≤ ids.count other → other = id) →
    repeatText id ∈ errors

theorem namesFirstRepeat_of_listing
    {payload : Fields} (nodes : ListOf .nodes IsNode payload) :
    NamesFirstRepeat (idsOf payload) ((listing payload).map Problem.text) := by
  have named := repeatText_mem_listing_iff nodes
  constructor
  · exact named
  · intro id member
    exact ((named id).mp member).two_le_count
  · intro id twice
    rcases exists_isFirstRepeat twice with ⟨first, isFirst⟩
    refine ⟨first, (named first).mpr isFirst, ?_⟩
    intro other member
    exact ((named other).mp member).unique isFirst
  · intro id twice alone
    rcases exists_isFirstRepeat twice with ⟨first, isFirst⟩
    rw [← alone first isFirst.two_le_count]
    exact (named first).mpr isFirst

/-- If the nodes of a document are sound one by one and some of their ids repeat, then the document
is rejected, and its errors name the first id that repeats. If there are others, they are not named.
Nothing is said at all if the id of an edge has no text. -/
theorem validate_names_first_repeat
    {payload : Fields} (nodes : ListOf .nodes IsNode (Canonical.normalize payload).1) :
    (Canonical.normalize? payload = .error .tooLongToWrite ∧
      validate (.obj payload) = .error .tooLongToWrite) ∨
    ∃ errors, validate (.obj payload) = .ok errors ∧
      (∀ rejection, ofJson (.obj payload) = .error rejection → rejection.errors = errors) ∧
      NamesFirstRepeat (idsOf (Canonical.normalize payload).1) errors := by
  cases read : ofJson (.obj payload) with
  | ok document =>
      rcases (exists_ofFields_iff payload).mp ⟨document, read⟩ with
        ⟨canonical, notes, normalized, wellFormed⟩
      have form := (Canonical.normalize?_eq_ok_iff.mp normalized).2
      rw [form] at nodes ⊢
      have names := namesFirstRepeat_of_listing nodes
      rw [(listing_eq_nil_iff canonical).mpr wellFormed] at names
      refine Or.inr ⟨[], by rw [validate, read], ?_, names⟩
      intro rejection rejected
      cases rejected
  | error rejection =>
      rcases cases_of_ofFields read with ⟨limit, rfl⟩ | ⟨canonical, notes, normalized, rfl⟩
      · exact Or.inl ⟨limit, by rw [validate, read]⟩
      · have form := (Canonical.normalize?_eq_ok_iff.mp normalized).2
        rw [form] at nodes ⊢
        refine Or.inr ⟨(listing canonical).map Problem.text, by rw [validate, read]; rfl, ?_,
          namesFirstRepeat_of_listing nodes⟩
        intro other rejected
        rw [← Except.error.inj rejected]
        rfl

def twins : Fields :=
  [("nodes", .arr [
      .obj [("id", .str "a"), ("kind", .str "level")],
      .obj [("id", .str "b"), ("kind", .str "level")],
      .obj [("id", .str "a"), ("kind", .str "level")],
      .obj [("id", .str "b"), ("kind", .str "level")]]),
    ("edges", .arr [])]

theorem validate_names_first_repeat_twins :
    ListOf .nodes IsNode (Canonical.normalize twins).1 ∧
      ∃ errors, validate (.obj twins) = .ok errors ∧ repeatText "a" ∈ errors ∧
        ∀ other, repeatText other ∈ errors → other = "a" := by
  have nodes : ListOf .nodes IsNode (Canonical.normalize twins).1 :=
    (problemsIn_eq_nil_iff nodeFlaws_eq_nil_iff).mp rfl
  rcases validate_names_first_repeat nodes with ⟨limit, _⟩ | ⟨errors, listed, _, names⟩
  · cases limit
  · have first : IsFirstRepeat (idsOf (Canonical.normalize twins).1) "a" :=
      ⟨["a", "b"], ["b"], rfl, List.mem_cons_self, by simp⟩
    refine ⟨nodes, errors, listed, (names.named "a").mpr first, ?_⟩
    intro other member
    exact ((names.named other).mp member).unique first

/-- Of the two ids that repeat, one is not named. -/
theorem validate_conceals_repeat :
    (idsOf (Canonical.normalize twins).1).count "a" = 2 ∧
      (idsOf (Canonical.normalize twins).1).count "b" = 2 ∧
      validate (.obj twins) = .ok ["nodes: Value error, Duplicate node id 'a'."] ∧
      repeatText "b" ∉ ["nodes: Value error, Duplicate node id 'a'."] := by
  have spelt : ["nodes: Value error, Duplicate node id 'a'."] = [repeatText "a"] := rfl
  refine ⟨rfl, rfl, rfl, ?_⟩
  rw [spelt, List.mem_singleton]
  intro same
  have letters := repeatText_inj same
  simp at letters

end Document
end WorkflowWalk
