import Mathlib.Data.List.Forall2

/-!
# Results that may be faults

A reading or a check has a result or a fault. What follows says where the result of several of them
comes from.
-/

namespace WorkflowWalk

variable {ε α β : Type}

/-!
## One after another
-/

theorem ok_of_map
    {reading : Except ε α} {change : α → β} {result : β}
    (mapped : change <$> reading = .ok result) :
    ∃ value, reading = .ok value ∧ change value = result := by
  cases reading with
  | ok value =>
      cases mapped
      exact ⟨value, rfl, rfl⟩
  | error =>
      cases mapped

theorem map_eq_ok
    {reading : Except ε α} {change : α → β} {result : β} :
    change <$> reading = .ok result ↔ ∃ value, reading = .ok value ∧ change value = result := by
  constructor
  · exact ok_of_map
  · rintro ⟨value, read, changed⟩
    rw [read, ← changed]
    rfl

theorem error_of_map
    {reading : Except ε α} {change : α → β} {fault : ε}
    (mapped : change <$> reading = .error fault) :
    reading = .error fault := by
  cases reading with
  | ok =>
      cases mapped
  | error =>
      cases mapped
      rfl

theorem ok_of_bind
    {reading : Except ε α} {next : α → Except ε β} {result : β}
    (bound : reading >>= next = .ok result) :
    ∃ value, reading = .ok value ∧ next value = .ok result := by
  cases reading with
  | ok value =>
      exact ⟨value, rfl, bound⟩
  | error =>
      cases bound

theorem error_of_bind
    {reading : Except ε α} {next : α → Except ε β} {fault : ε}
    (bound : reading >>= next = .error fault) :
    reading = .error fault ∨ ∃ value, reading = .ok value ∧ next value = .error fault := by
  cases reading with
  | ok value =>
      exact Or.inr ⟨value, rfl, bound⟩
  | error =>
      cases bound
      exact Or.inl rfl

theorem ok_of_mapError
    {δ : Type} {reading : Except ε α} {change : ε → δ} {result : α}
    (mapped : reading.mapError change = .ok result) :
    reading = .ok result := by
  cases reading with
  | ok =>
      cases mapped
      rfl
  | error =>
      cases mapped

theorem error_of_mapError
    {δ : Type} {reading : Except ε α} {change : ε → δ} {fault : δ}
    (mapped : reading.mapError change = .error fault) :
    ∃ inner, reading = .error inner ∧ change inner = fault := by
  cases reading with
  | ok =>
      cases mapped
  | error inner =>
      cases mapped
      exact ⟨inner, rfl, rfl⟩

theorem ok_of_toOption
    {reading : Except ε α} {result : α} (made : reading.toOption = some result) :
    reading = .ok result := by
  cases reading with
  | ok =>
      cases made
      rfl
  | error =>
      cases made

/-!
## Lists of items
-/

section Items

variable {check : α → Except ε β} {items : List α} {results : List β}

theorem ok_of_mapM_cons
    {first : α} {rest : List α} (checked : (first :: rest).mapM check = .ok results) :
    ∃ result others, check first = .ok result ∧ rest.mapM check = .ok others ∧
      results = result :: others := by
  rw [List.mapM_cons] at checked
  rcases ok_of_bind checked with ⟨result, one, later⟩
  rcases ok_of_bind later with ⟨others, more, listed⟩
  cases listed
  exact ⟨result, others, one, more, rfl⟩

theorem exists_of_mapM
    (checked : items.mapM check = .ok results) {item : α} (member : item ∈ items) :
    ∃ result ∈ results, check item = .ok result := by
  induction items generalizing results with
  | nil =>
      cases member
  | cons first rest ih =>
      rcases ok_of_mapM_cons checked with ⟨result, others, one, more, rfl⟩
      rcases List.mem_cons.mp member with rfl | later
      · exact ⟨result, List.mem_cons_self, one⟩
      · rcases ih more later with ⟨found, among, same⟩
        exact ⟨found, List.mem_cons_of_mem _ among, same⟩

theorem exists_item_of_mapM
    (checked : items.mapM check = .ok results) {result : β} (member : result ∈ results) :
    ∃ item ∈ items, check item = .ok result := by
  induction items generalizing results with
  | nil =>
      cases checked
      cases member
  | cons first rest ih =>
      rcases ok_of_mapM_cons checked with ⟨own, others, one, more, rfl⟩
      rcases List.mem_cons.mp member with rfl | later
      · exact ⟨first, List.mem_cons_self, one⟩
      · rcases ih more later with ⟨item, among, same⟩
        exact ⟨item, List.mem_cons_of_mem _ among, same⟩

theorem mem_flatten_of_mapM
    {check : α → Except ε (List β)} {results : List (List β)}
    (checked : items.mapM check = .ok results) {found : β} {marks : α → Prop}
    (means : ∀ item own, check item = .ok own → (found ∈ own ↔ marks item)) :
    found ∈ results.flatten ↔ ∃ item ∈ items, marks item := by
  rw [List.mem_flatten]
  constructor
  · intro member
    rcases member with ⟨own, among, here⟩
    rcases exists_item_of_mapM checked among with ⟨item, listed, made⟩
    exact ⟨item, listed, (means item own made).mp here⟩
  · intro member
    rcases member with ⟨item, listed, marked⟩
    rcases exists_of_mapM checked listed with ⟨own, among, made⟩
    exact ⟨own, among, (means item own made).mpr marked⟩

theorem exists_error_of_mapM {fault : ε} (failed : items.mapM check = .error fault) :
    ∃ item ∈ items, check item = .error fault := by
  induction items with
  | nil =>
      cases failed
  | cons first rest ih =>
      rw [List.mapM_cons] at failed
      rcases error_of_bind failed with one | ⟨result, _, later⟩
      · exact ⟨first, List.mem_cons_self, one⟩
      · rcases error_of_bind later with more | ⟨others, _, listed⟩
        · rcases ih more with ⟨item, among, same⟩
          exact ⟨item, List.mem_cons_of_mem _ among, same⟩
        · cases listed

theorem exists_item_of_forall₂
    {R : α → β → Prop} (each : List.Forall₂ R items results) {result : β}
    (member : result ∈ results) :
    ∃ item ∈ items, R item result := by
  induction each with
  | nil =>
      cases member
  | cons one _ ih =>
      rcases List.mem_cons.mp member with rfl | later
      · exact ⟨_, List.mem_cons_self, one⟩
      · rcases ih later with ⟨item, among, related⟩
        exact ⟨item, List.mem_cons_of_mem _ among, related⟩

end Items

end WorkflowWalk
