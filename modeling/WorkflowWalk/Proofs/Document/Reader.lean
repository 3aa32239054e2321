import WorkflowWalk.Document.Rejection

/-!
# Readings that fail say why

A reading fails only with something that is wrong. So whatever is rejected has something reported of
it, and what is reported of nothing is a document.
-/

namespace WorkflowWalk
namespace Document

/-- A reading does not fail without saying why. -/
def Telling {ε α : Type} (reading : Except (List ε) α) : Prop :=
  reading ≠ .error []

namespace Telling

open Reading

variable {ε α β : Type}

/-!
## Readers of parts
-/

theorem ok (value : α) :
    Telling (.ok value : Except (List ε) α) := by
  intro failed
  cases failed

theorem flaw (cause : Problem.Cause) :
    Telling (Reading.flaw cause : Reading α) := by
  intro failed
  cases failed

theorem map
    {reading : Except (List ε) α} (telling : Telling reading) (change : α → β) :
    Telling (change <$> reading) := by
  cases reading with
  | ok value =>
      exact ok (change value)
  | error flaws =>
      intro failed
      cases failed
      exact telling rfl

theorem both
    {first : Except (List ε) α} {second : Except (List ε) β} (one : Telling first)
    (two : Telling second) :
    Telling (Reading.both first second) := by
  cases first with
  | ok value =>
      cases second with
      | ok other =>
          exact ok (value, other)
      | error more =>
          intro failed
          cases failed
          exact two rfl
  | error flaws =>
      cases second with
      | ok other =>
          intro failed
          cases failed
          exact one rfl
      | error more =>
          intro failed
          cases flaws with
          | nil =>
              exact one rfl
          | cons flaw rest =>
              cases failed

theorem under
    {reading : Reading α} (telling : Telling reading) (part : Problem.Part) :
    Telling (Reading.under part reading) := by
  cases reading with
  | ok value =>
      exact ok value
  | error flaws =>
      cases flaws with
      | nil =>
          exact absurd rfl telling
      | cons flaw rest =>
          intro failed
          cases failed

theorem eachFrom
    {read : Nat → Json → Except (List ε) α}
    (telling : ∀ position item, Telling (read position item)) (items : List Json) (position : Nat) :
    Telling (Reading.eachFrom read position items) := by
  induction items generalizing position with
  | nil =>
      exact ok []
  | cons item rest ih =>
      have all := both (telling position item) (ih (position + 1))
      unfold Reading.eachFrom
      split
      · exact ok _
      · rename_i flaws failed
        rw [failed] at all
        intro same
        cases same
        exact all rfl

theorem list
    {read : Json → Reading α} (telling : ∀ item, Telling (read item)) (value : Json) :
    Telling (Reading.list read value) := by
  unfold Reading.list
  split
  · exact eachFrom (fun position item => under (telling item) _) _ _
  · exact flaw _

theorem object
    {read : Fields → Reading α} (telling : ∀ fields, Telling (read fields))
    (shape : Problem.Shape) (value : Json) :
    Telling (Reading.object shape read value) := by
  unfold Reading.object
  split
  · exact telling _
  · exact flaw _

theorem optional
    {read : Json → Reading α} (telling : ∀ value, Telling (read value)) (default : α)
    (key : String) (fields : Fields) :
    Telling (Reading.optional default key read fields) := by
  unfold Reading.optional
  split
  · exact under (telling _) _
  · exact ok _

theorem required
    {read : Json → Reading α} (telling : ∀ value, Telling (read value)) (key : String)
    (fields : Fields) :
    Telling (Reading.required key read fields) := by
  unfold Reading.required
  apply under
  cases fields.get? key with
  | none =>
      exact flaw .missing
  | some value =>
      exact telling value

theorem text (value : Json) :
    Telling (Reading.text value) := by
  unfold Reading.text
  split
  · exact ok _
  · exact flaw _

theorem text? (value : Json) :
    Telling (Reading.text? value) := by
  unfold Reading.text?
  split
  · exact ok _
  · exact ok _
  · exact flaw _

theorem word (value : Json) :
    Telling (Reading.word value) := by
  unfold Reading.word
  split
  · split
    · exact ok _
    · exact flaw _
  · exact flaw _

/-!
## Nodes and edges
-/

theorem readBranch (value : Json) :
    Telling (Document.readBranch value) := by
  apply object
  intro fields
  apply map
  exact both (optional text _ _ _) (optional text _ _ _)

theorem readValue (value : Json) :
    Telling (Document.readValue value) := by
  unfold Document.readValue
  split
  · exact ok _
  · split
    · exact ok _
    · exact flaw _
  · exact ok _
  · exact text? _

theorem readActionItem (value : Json) :
    Telling (Document.readActionItem value) := by
  apply object
  intro fields
  apply map
  exact both (required text _ _) (both (optional text _ _ _) (optional readValue _ _ _))

theorem readData (kind : Kind) (fields : Fields) :
    Telling (Document.readData kind fields) := by
  cases kind with
  | level =>
      apply map
      apply both (optional text _ _ _)
      apply both (optional text? _ _ _)
      exact both (optional text? _ _ _) (optional (list text) _ _ _)
  | condition =>
      apply map
      exact both (optional text _ _ _) (optional (list readBranch) _ _ _)
  | action =>
      apply map
      exact both (optional text _ _ _) (optional (list readActionItem) _ _ _)

theorem readNode (value : Json) :
    Telling (Document.readNode value) := by
  unfold Document.readNode
  split
  · split
    · exact flaw _
    · split
      · split
        · apply map
          exact both (required word _ _) (optional (object (readData _) _) _ _ _)
        · exact flaw _
      · exact flaw _
  · exact flaw _

theorem readEdge (value : Json) :
    Telling (Document.readEdge value) := by
  apply object
  intro fields
  apply map
  apply both (required word _ _)
  apply both (required word _ _)
  exact both (required word _ _) (optional text? _ _ _)

/-!
## Documents
-/

theorem readItem
    {read : Json → Reading α} (telling : ∀ item, Telling (read item))
    (collection : Problem.Collection) (position : Nat) (item : Json) :
    Telling (Document.readItem collection read position item) := by
  unfold Document.readItem
  split
  · exact ok _
  · rename_i flaws failed
    have said := telling item
    rw [failed] at said
    cases flaws with
    | nil =>
        exact absurd rfl said
    | cons flaw rest =>
        intro same
        cases same

theorem readItems
    {read : Json → Reading α} (telling : ∀ item, Telling (read item))
    (collection : Problem.Collection) (payload : Fields) :
    Telling (Document.readItems collection read payload) := by
  unfold Document.readItems
  split
  · exact ok _
  · exact eachFrom (readItem telling collection) _ _
  · intro same
    cases same

end Telling

theorem nodup_of_firstRepeat?
    {seen ids : List String} (none : firstRepeat? seen ids = none) :
    ids.Nodup ∧ ∀ id ∈ ids, id ∉ seen := by
  induction ids generalizing seen with
  | nil =>
      refine ⟨List.nodup_nil, ?_⟩
      intro id member
      cases member
  | cons first rest ih =>
      unfold firstRepeat? at none
      split at none
      · cases none
      · rename_i fresh
        rcases ih none with ⟨distinct, others⟩
        have unseen : first ∉ seen := by
          simpa using fresh
        constructor
        · rw [List.nodup_cons]
          refine ⟨?_, distinct⟩
          intro again
          exact others first again List.mem_cons_self
        · intro id member
          rcases List.mem_cons.mp member with rfl | later
          · exact unseen
          · intro known
            exact others id later (List.mem_cons_of_mem _ known)

namespace Telling

theorem checkDistinct (nodes : List Node) :
    Telling (Document.checkDistinct nodes) := by
  unfold Document.checkDistinct
  split
  · exact ok _
  · rename_i repeated
    cases found : firstRepeat? [] (nodes.map Node.id) with
    | none =>
        exact absurd (nodup_of_firstRepeat? found).1 repeated
    | some id =>
        intro same
        cases same

theorem ofCanonical (payload : Fields) :
    Telling (Document.ofCanonical payload) := by
  have nodes : Telling (Document.readNodes payload) := by
    have items := readItems readNode .nodes payload
    unfold Document.readNodes
    split
    · exact checkDistinct _
    · rename_i problems failed
      rw [failed] at items
      intro same
      cases same
      exact items rfl
  have edges : Telling (Document.readEdges payload) := readItems readEdge .edges payload
  have all := both nodes edges
  unfold Document.ofCanonical
  split
  · exact ok _
  · rename_i problems failed
    rw [failed] at all
    intro same
    cases same
    exact all rfl

end Telling

theorem errors_ne_nil_of_ofFields
    {payload : Fields} {rejection : Rejection} (rejected : ofFields payload = .error rejection) :
    rejection.errors ≠ [] := by
  unfold ofFields at rejected
  split at rejected
  · cases rejected
    exact List.cons_ne_nil _ _
  · rename_i canonical _ _
    have telling := Telling.ofCanonical canonical
    split at rejected
    · cases rejected
    · rename_i found failed
      cases rejected
      rw [failed] at telling
      intro none
      rw [Rejection.errors, List.map_eq_nil_iff] at none
      rw [none] at telling
      exact telling rfl

end Document
end WorkflowWalk
