import Mathlib.Data.List.Nodup
import WorkflowWalk.Proofs.Document.NormalForm
import WorkflowWalk.Proofs.Number.Text

/-!
# Ids that are made for edges

An edge without an id is given the first candidate for its two ends that is free. What counts as
taken are the ids that other edges have been given, wherever they stand in the list, and those made
for the edges before it. As the candidates for two ends are all different, one of them is free after
fewer turns than there are edges. So an id that is made is the id of no other edge.
-/

namespace WorkflowWalk
namespace Canonical

open Fields

/-!
## Candidates
-/

theorem candidate_succ_ne (base : String) (k : Nat) :
    candidate base (k + 1) ≠ base := by
  intro same
  have lengths := congrArg String.length same
  rw [candidate, String.length_append, String.length_append] at lengths
  have mark : "#".length = 1 := rfl
  omega

theorem candidate_injective (base : String) :
    Function.Injective (candidate base) := by
  intro one other same
  cases one with
  | zero =>
      cases other with
      | zero =>
          rfl
      | succ k =>
          exact absurd same.symm (candidate_succ_ne base k)
  | succ j =>
      cases other with
      | zero =>
          exact absurd same (candidate_succ_ne base j)
      | succ k =>
          have numbers : Nat.repr (j + 2) = Nat.repr (k + 2) :=
            (String.append_right_inj _).mp same
          rw [Nat.repr, Nat.repr, String.ofList_inj] at numbers
          have equal : j + 2 = k + 2 := toDigits_inj numbers
          omega

/-- Of one candidate more than there are taken ids one is free. -/
theorem exists_free (taken : List String) (base : String) :
    ∃ k ≤ taken.length, candidate base k ∉ taken := by
  by_contra none
  push Not at none
  -- The candidates are different, so there are too many of them to be all taken.
  have within : (List.range (taken.length + 1)).map (candidate base) ⊆ taken := by
    intro id member
    rcases List.mem_map.mp member with ⟨k, below, rfl⟩
    exact none k (Nat.le_of_lt_succ (List.mem_range.mp below))
  have different : ((List.range (taken.length + 1)).map (candidate base)).Nodup :=
    List.Nodup.map (candidate_injective base) List.nodup_range
  have few := different.length_le_of_subset within
  rw [List.length_map, List.length_range] at few
  omega

/-- An id is the first candidate for a base that is not taken. It is come to in a number of turns,
each of which passes over a candidate that is taken. -/
structure FirstFree (taken : String → Prop) (base id : String) (turns : Nat) : Prop where
  found : id = candidate base turns
  free : ¬taken id
  passed : ∀ k < turns, taken (candidate base k)

theorem exists_turns_freeId (taken : List String) (base : String) :
    ∃ turns ≤ taken.length, FirstFree (· ∈ taken) base (freeId taken base) turns := by
  cases found :
      (List.range (taken.length + 1)).find? fun k => !taken.contains (candidate base k) with
  | none =>
      rcases exists_free taken base with ⟨k, within, free⟩
      rw [List.find?_eq_none] at found
      exact absurd (found k (List.mem_range.mpr (Nat.lt_succ_of_le within))) (by simp [free])
  | some turns =>
      have made : freeId taken base = candidate base turns := by
        rw [freeId, found]
        rfl
      rcases List.find?_range_eq_some.mp found with ⟨free, within, passed⟩
      refine ⟨turns, Nat.le_of_lt_succ (List.mem_range.mp within), made, ?_, ?_⟩
      · rw [made]
        simpa using free
      · intro k before
        simpa using passed k before

theorem FirstFree.congr
    {taken others : String → Prop} {base id : String} {turns : Nat}
    (first : FirstFree taken base id turns) (same : ∀ id, taken id ↔ others id) :
    FirstFree others base id turns where
  found := first.found
  free held := first.free ((same id).mpr held)
  passed k before := (same _).mp (first.passed k before)

/-!
## One item after the other
-/

def namedItem (taken : List String) : Json → Json
  | .obj fields => .obj (edge taken fields).1
  | other => other

def madeFor (taken : List String) : Json → List String
  | .obj fields => madeIds (edge taken fields).2
  | _ => []

def lacksId : Json → Bool
  | .obj fields => (givenId? fields).isNone
  | _ => false

theorem edgeItems_cons (taken : List String) (item : Json) (rest : List Json) :
    (edgeItems taken (item :: rest)).1 =
      namedItem taken item :: (edgeItems (madeFor taken item ++ taken) rest).1 := by
  cases item <;> rfl

theorem madeFor_of_given
    {fields : Fields} {id : String} (given : givenId? fields = some id) (taken : List String) :
    madeFor taken (.obj fields) = [] := by
  rw [madeFor, Document.madeIds_edge, nameEdge_of_given given]
  rfl

theorem madeFor_of_lacking
    {fields : Fields} (lacks : givenId? fields = none) (taken : List String) :
    madeFor taken (.obj fields) = [freeId taken (baseId fields)] := by
  rw [madeFor, Document.madeIds_edge, nameEdge, lacks]
  rfl

theorem get?_id_edge_of_lacking
    {fields : Fields} (lacks : givenId? fields = none) (taken : List String) :
    (edge taken fields).1.get? "id" = some (.str (freeId taken (baseId fields))) := by
  show (nameTag (nameEdge taken fields).1).1.get? "id" = _
  rw [Document.get?_nameTag_of_not_mem _ (by decide), nameEdge, lacks]
  exact get?_put_self ..

theorem length_madeFor (taken : List String) (item : Json) :
    (madeFor taken item).length = (if lacksId item then 1 else 0) := by
  cases item with
  | obj fields =>
      cases given : givenId? fields with
      | some id =>
          rw [madeFor_of_given given, lacksId, given]
          rfl
      | none =>
          rw [madeFor_of_lacking given, lacksId, given]
          rfl
  | null | bool | int | float | str | arr =>
      rfl

/-!
## Places in a list
-/

def MadeAt (items named : List Json) (position : Nat) (id : String) : Prop :=
  ∃ before after : Fields, items[position]? = some (.obj before) ∧ givenId? before = none ∧
    named[position]? = some (.obj after) ∧ after.get? "id" = some (.str id)

theorem MadeAt.unique
    {items named : List Json} {position : Nat} {one other : String}
    (first : MadeAt items named position one) (second : MadeAt items named position other) :
    one = other := by
  rcases first with ⟨_, after, _, _, there, put⟩
  rcases second with ⟨_, after', _, _, there', put'⟩
  rw [there] at there'
  cases there'
  rw [put] at put'
  cases put'
  rfl

theorem madeAt_zero_iff
    {taken : List String} {item : Json} {rest named : List Json} {id : String} :
    MadeAt (item :: rest) (namedItem taken item :: named) 0 id ↔ id ∈ madeFor taken item := by
  cases item with
  | obj fields =>
      cases given : givenId? fields with
      | some own =>
          rw [madeFor_of_given given]
          constructor
          · rintro ⟨before, _, here, lacks, _⟩
            cases here
            rw [given] at lacks
            cases lacks
          · intro member
            cases member
      | none =>
          have put := get?_id_edge_of_lacking given taken
          rw [madeFor_of_lacking given, List.mem_singleton]
          constructor
          · rintro ⟨_, after, _, _, there, standing⟩
            cases there
            rw [put] at standing
            cases standing
            rfl
          · intro made
            subst made
            exact ⟨fields, _, rfl, given, rfl, put⟩
  | null | bool | int | float | str | arr =>
      constructor
      · rintro ⟨_, _, here, _⟩
        cases here
      · intro member
        cases member

theorem taken_cons_iff
    {taken : List String} {item : Json} {rest named : List Json} {position : Nat} {id : String} :
    (id ∈ madeFor taken item ++ taken ∨ ∃ earlier < position, MadeAt rest named earlier id) ↔
      (id ∈ taken ∨ ∃ earlier < position + 1,
        MadeAt (item :: rest) (namedItem taken item :: named) earlier id) := by
  rw [List.mem_append]
  constructor
  · rintro ((made | known) | ⟨earlier, before, made⟩)
    · exact Or.inr ⟨0, Nat.succ_pos position, madeAt_zero_iff.mpr made⟩
    · exact Or.inl known
    · exact Or.inr ⟨earlier + 1, Nat.succ_lt_succ before, made⟩
  · rintro (known | ⟨earlier, before, made⟩)
    · exact Or.inl (Or.inr known)
    · cases earlier with
      | zero =>
          exact Or.inl (Or.inl (madeAt_zero_iff.mp made))
      | succ earlier =>
          exact Or.inr ⟨earlier, Nat.lt_of_succ_lt_succ before, made⟩

/-- Each edge without an id is given the first candidate that is free where it stands. There is room
for as many turns as there are ids that are taken or still to be made. -/
theorem exists_madeAt_edgeItems
    {bound : Nat} {items : List Json} {taken : List String}
    (room : taken.length + items.countP lacksId ≤ bound) {position : Nat} {fields : Fields}
    (here : items[position]? = some (.obj fields)) (lacks : givenId? fields = none) :
    ∃ id turns, MadeAt items (edgeItems taken items).1 position id ∧ turns < bound ∧
      FirstFree
        (fun other => other ∈ taken ∨
          ∃ earlier < position, MadeAt items (edgeItems taken items).1 earlier other)
        (baseId fields) id turns := by
  induction items generalizing taken position with
  | nil =>
      cases here
  | cons item rest ih =>
      rw [edgeItems_cons]
      rw [List.countP_cons] at room
      cases position with
      | zero =>
          cases here
          rcases exists_turns_freeId taken (baseId fields) with ⟨turns, within, first⟩
          have made : freeId taken (baseId fields) ∈ madeFor taken (.obj fields) := by
            rw [madeFor_of_lacking lacks]
            exact List.mem_cons_self
          have counted : lacksId (.obj fields) = true := by
            rw [lacksId, lacks]
            rfl
          rw [if_pos counted] at room
          refine ⟨_, turns, madeAt_zero_iff.mpr made, by omega, first.congr ?_⟩
          intro other
          simp
      | succ position =>
          have counted := length_madeFor taken item
          have left : (madeFor taken item ++ taken).length + rest.countP lacksId ≤ bound := by
            rw [List.length_append, counted]
            omega
          rcases ih left here with ⟨id, turns, made, few, first⟩
          exact ⟨id, turns, made, few, first.congr fun _ => taken_cons_iff⟩

theorem givenIds_cons_of_given
    {fields : Fields} {id : String} (given : givenId? fields = some id) (rest : List Json) :
    givenIds (.obj fields :: rest) = id :: givenIds rest :=
  List.filterMap_cons_some given

theorem givenIds_cons_of_lacking
    {fields : Fields} (lacks : givenId? fields = none) (rest : List Json) :
    givenIds (.obj fields :: rest) = givenIds rest :=
  List.filterMap_cons_none lacks

theorem length_givenIds (items : List Json) :
    (givenIds items).length + items.countP lacksId ≤ items.length := by
  induction items with
  | nil =>
      exact Nat.le_refl 0
  | cons item rest ih =>
      rw [List.countP_cons, List.length_cons]
      cases item with
      | obj fields =>
          rw [lacksId]
          cases given : givenId? fields with
          | some id =>
              simp only [givenIds_cons_of_given given, List.length_cons, Option.isNone_some,
                Bool.false_eq_true, if_false]
              omega
          | none =>
              simp only [givenIds_cons_of_lacking given, Option.isNone_none, if_true]
              omega
      | null | bool | int | float | str | arr =>
          exact Nat.le_succ_of_le ih

/-!
## Ids in a list
-/

def objectIds (items : List Json) : List (Option Json) :=
  items.filterMap fun
    | .obj fields => some (Fields.get? fields "id")
    | _ => none

def GivenText (fields : Fields) : Prop :=
  (Json.field fields "id").isTruthy = true → ∃ id, fields.get? "id" = some (.str id)

theorem get?_of_givenText
    {fields : Fields} (text : GivenText fields) {id : String} (given : givenId? fields = some id) :
    fields.get? "id" = some (.str id) := by
  have truthy := exists_givenId?_iff.mp ⟨id, given⟩
  rcases text truthy with ⟨own, found⟩
  rw [givenId?] at given
  simp only [truthy, if_true, Option.some.injEq] at given
  rw [Json.field, found] at given
  rw [found, ← given]
  rfl

/-- If the ids that are given are different texts, then so are all ids in the end: those that are
made are taken by none of the others. -/
theorem objectIds_edgeItems
    {items : List Json} {taken : List String} (texts : EachObject GivenText items)
    (apart : (givenIds items).Nodup) (within : givenIds items ⊆ taken) :
    ∃ ids : List String, objectIds (edgeItems taken items).1 = ids.map (fun id => some (.str id)) ∧
      ids.Nodup ∧ ∀ id ∈ ids, id ∈ givenIds items ∨ id ∉ taken := by
  induction items generalizing taken with
  | nil =>
      exact ⟨[], rfl, List.nodup_nil, fun _ member => absurd member List.not_mem_nil⟩
  | cons item rest ih =>
      rcases eachObject_cons.mp texts with ⟨here, later⟩
      rw [edgeItems_cons]
      cases item with
      | obj fields =>
          cases given : givenId? fields with
          | some own =>
              rw [givenIds_cons_of_given given] at apart within ⊢
              rcases List.nodup_cons.mp apart with ⟨fresh, apart⟩
              rcases List.cons_subset.mp within with ⟨known, within⟩
              rcases ih later apart within with ⟨ids, standing, different, origin⟩
              have kept : (edge taken fields).1.get? "id" = some (.str own) :=
                ((edgeKept_edge taken fields).given (exists_givenId?_iff.mp ⟨own, given⟩)).trans
                  (get?_of_givenText (here fields rfl) given)
              rw [madeFor_of_given given, List.nil_append]
              refine ⟨own :: ids, ?_, List.nodup_cons.mpr ⟨?_, different⟩, ?_⟩
              · rw [List.map_cons, ← standing, ← kept]
                rfl
              · intro again
                rcases origin own again with among | free
                · exact fresh among
                · exact free known
              · intro id member
                rcases List.mem_cons.mp member with rfl | among
                · exact Or.inl List.mem_cons_self
                · exact (origin id among).imp_left (List.mem_cons_of_mem _)
          | none =>
              rw [givenIds_cons_of_lacking given] at apart within ⊢
              rcases exists_turns_freeId taken (baseId fields) with ⟨_, _, first⟩
              rw [madeFor_of_lacking given, List.singleton_append]
              rcases ih later apart (List.subset_cons_of_subset _ within) with
                ⟨ids, standing, different, origin⟩
              refine ⟨freeId taken (baseId fields) :: ids, ?_,
                List.nodup_cons.mpr ⟨?_, different⟩, ?_⟩
              · rw [List.map_cons, ← standing, ← get?_id_edge_of_lacking given taken]
                rfl
              · intro again
                rcases origin _ again with among | free
                · exact first.free (within among)
                · exact free List.mem_cons_self
              · intro id member
                rcases List.mem_cons.mp member with rfl | among
                · exact Or.inr first.free
                · exact (origin id among).imp_right (fun free known =>
                    free (List.mem_cons_of_mem _ known))
      | null | bool | int | float | str | arr =>
          exact ih later apart within

/-!
## Documents
-/

/-- Each edge without an id is given the first candidate for its two ends that neither another edge
has been given nor an edge before it has got. It is come to in fewer turns than there are edges. -/
def NamedInTurn (items named : List Json) : Prop :=
  ∀ (position : Nat) (fields : Fields), items[position]? = some (.obj fields) →
    givenId? fields = none →
    ∃ id turns, MadeAt items named position id ∧ turns < items.length ∧
      FirstFree
        (fun other => other ∈ givenIds items ∨
          ∃ earlier < position, MadeAt items named earlier other)
        (baseId fields) id turns

namespace NamedInTurn

variable {items named : List Json} {position : Nat} {id : String}

theorem firstFree
    (inTurn : NamedInTurn items named) (made : MadeAt items named position id) :
    ∃ base turns, FirstFree
      (fun other => other ∈ givenIds items ∨
        ∃ earlier < position, MadeAt items named earlier other) base id turns := by
  have again := made
  rcases made with ⟨before, _, here, lacks, _⟩
  rcases inTurn _ _ here lacks with ⟨own, turns, there, _, first⟩
  rw [again.unique there]
  exact ⟨_, turns, first⟩

theorem not_mem_givenIds
    (inTurn : NamedInTurn items named) (made : MadeAt items named position id) :
    id ∉ givenIds items := by
  rcases inTurn.firstFree made with ⟨_, _, first⟩
  intro given
  exact first.free (Or.inl given)

theorem not_before
    (inTurn : NamedInTurn items named) {earlier : Nat} (before : earlier < position)
    (made : MadeAt items named position id) :
    ¬MadeAt items named earlier id := by
  rcases inTurn.firstFree made with ⟨_, _, first⟩
  intro again
  exact first.free (Or.inr ⟨earlier, before, again⟩)

theorem position_unique
    (inTurn : NamedInTurn items named) {other : Nat} (here : MadeAt items named position id)
    (there : MadeAt items named other id) :
    position = other := by
  rcases Nat.lt_trichotomy position other with before | same | after
  · exact absurd here (inTurn.not_before before there)
  · exact same
  · exact absurd there (inTurn.not_before after here)

end NamedInTurn

theorem namedInTurn_edgeItems (items : List Json) :
    NamedInTurn items (edgeItems (givenIds items) items).1 :=
  fun _ _ => exists_madeAt_edgeItems (length_givenIds items)

/-- The ids that are made for the edges of a list are all different, and each differs from all ids
that edges have been given. If the latter are different texts, no two edges have one id in the
end. -/
theorem normalize?_edgeIds
    {payload : Fields} {items : List Json} (listed : payload.get? "edges" = some (.arr items))
    (written : writable payload = true) :
    ∃ canonical notes named,
      normalize? payload = .ok (canonical, notes) ∧
      canonical.get? "edges" = some (.arr named) ∧
      NamedInTurn items named ∧
      (∀ position id, MadeAt items named position id → id ∉ givenIds items) ∧
      (∀ position other id, MadeAt items named position id → MadeAt items named other id →
        position = other) ∧
      (EachObject GivenText items → (givenIds items).Nodup →
        ∃ ids : List String, objectIds named = ids.map (fun id => some (.str id)) ∧ ids.Nodup) := by
  have inTurn := namedInTurn_edgeItems items
  refine ⟨(normalize payload).1, (normalize payload).2,
    (edgeItems (givenIds items) items).1, if_pos written, ?_, inTurn,
    fun _ _ => inTurn.not_mem_givenIds, fun _ _ _ => inTurn.position_unique, ?_⟩
  · rw [get?_edges_normalize, listed]
    rfl
  · intro texts apart
    rcases objectIds_edgeItems texts apart (List.Subset.refl _) with ⟨ids, standing, different, _⟩
    exact ⟨ids, standing, different⟩

/-- Four edges of which two have ids like those that are made: the one is taken for the first edge,
the other is the next candidate. The ends of the last edge suggest the id that is then made. -/
def lookalikes : List Json :=
  [.obj [("source", .str "a"), ("target", .str "b")],
    .obj [("id", .str "a->b"), ("source", .str "a"), ("target", .str "c")],
    .obj [("id", .str "a->b#2"), ("source", .str "b"), ("target", .str "c")],
    .obj [("source", .str "a"), ("target", .str "b#3")]]

example :
    objectIds (edgeItems (givenIds lookalikes) lookalikes).1 =
      ["a->b#3", "a->b", "a->b#2", "a->b#3#2"].map fun id => some (.str id) := by
  rfl

theorem normalize?_edgeIds_lookalikes :
    writable [("edges", .arr lookalikes)] = true ∧ (givenIds lookalikes).Nodup ∧
      ∃ canonical notes named,
        normalize? [("edges", .arr lookalikes)] = .ok (canonical, notes) ∧
        canonical.get? "edges" = some (.arr named) ∧
        NamedInTurn lookalikes named ∧
        ∃ ids : List String, objectIds named = ids.map (fun id => some (.str id)) ∧ ids.Nodup := by
  have written : writable [("edges", .arr lookalikes)] = true := rfl
  have apart : (givenIds lookalikes).Nodup := by decide
  have texts : EachObject GivenText lookalikes := by
    intro fields member given
    simp only [lookalikes, List.mem_cons, List.not_mem_nil, or_false] at member
    rcases member with same | same | same | same <;> cases same
    · cases given
    · exact ⟨"a->b", rfl⟩
    · exact ⟨"a->b#2", rfl⟩
    · cases given
  rcases normalize?_edgeIds rfl written with
    ⟨canonical, notes, named, reached, there, inTurn, _, _, different⟩
  exact ⟨written, apart, canonical, notes, named, reached, there, inTurn, different texts apart⟩

end Canonical
end WorkflowWalk
