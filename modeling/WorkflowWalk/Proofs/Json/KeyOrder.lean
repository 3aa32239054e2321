import Mathlib.Data.List.Nodup
import Mathlib.Data.List.Perm.Basic
import WorkflowWalk.Proofs.Json.Compact

/-!
# Values up to the order of keys

Two values are alike if they differ in the order of the fields of objects only, at any depth. If no
object has a key twice, sorting the keys leaves nothing of the order, so values are alike exactly if
the compact texts of their sorted forms are equal.
-/

namespace WorkflowWalk
namespace Json

/-!
## Alike values
-/

mutual

/-- Two values are equal up to the order of the fields of their objects; numbers that are written
alike count as equal, integers and floating point numbers never do. -/
inductive Alike : Json → Json → Prop
  | null : Alike .null .null
  | bool (value : Bool) : Alike (.bool value) (.bool value)
  | int (value : Int) : Alike (.int value) (.int value)
  | float {one other : Binary64} (same : one.text numberNames = other.text numberNames) :
      Alike (.float one) (.float other)
  | str (value : String) : Alike (.str value) (.str value)
  | arr {items others : List Json} (same : AlikeItems items others) :
      Alike (.arr items) (.arr others)
  | obj {fields middle others : List (String × Json)} (same : AlikeFields fields middle)
      (order : middle.Perm others) :
      Alike (.obj fields) (.obj others)

inductive AlikeItems : List Json → List Json → Prop
  | nil : AlikeItems [] []
  | cons {item other : Json} {items others : List Json} (here : Alike item other)
      (later : AlikeItems items others) :
      AlikeItems (item :: items) (other :: others)

inductive AlikeFields : List (String × Json) → List (String × Json) → Prop
  | nil : AlikeFields [] []
  | cons (key : String) {value other : Json} {fields others : List (String × Json)}
      (here : Alike value other) (later : AlikeFields fields others) :
      AlikeFields ((key, value) :: fields) ((key, other) :: others)

end

theorem alikeItems_iff
    {items others : List Json} :
    AlikeItems items others ↔ List.Forall₂ Alike items others := by
  constructor
  · intro same
    induction items generalizing others with
    | nil =>
        cases same
        exact .nil
    | cons item items ih =>
        cases same with
        | cons here later =>
            exact .cons here (ih later)
  · intro same
    induction same with
    | nil =>
        exact .nil
    | cons here _ ih =>
        exact .cons here ih

theorem alikeFields_iff
    {fields others : Fields} :
    AlikeFields fields others ↔
      List.Forall₂ (fun (one other : String × Json) => one.1 = other.1 ∧ Alike one.2 other.2)
        fields others := by
  constructor
  · intro same
    induction fields generalizing others with
    | nil =>
        cases same
        exact .nil
    | cons field fields ih =>
        cases same with
        | cons key here later =>
            exact .cons ⟨rfl, here⟩ (ih later)
  · intro same
    induction same with
    | nil =>
        exact .nil
    | @cons one other _ _ here _ ih =>
        rcases one with ⟨key, value⟩
        rcases other with ⟨_, value'⟩
        rcases here with ⟨rfl, alike⟩
        exact .cons key alike ih

/-!
## Keys that differ
-/

mutual

def keysDistinct : Json → Bool
  | .arr items => keysDistinctItems items
  | .obj fields => decide (fields.map Prod.fst).Nodup && keysDistinctFields fields
  | _ => true

def keysDistinctItems : List Json → Bool
  | [] => true
  | item :: rest => item.keysDistinct && keysDistinctItems rest

def keysDistinctFields : List (String × Json) → Bool
  | [] => true
  | (_, value) :: rest => value.keysDistinct && keysDistinctFields rest

end

theorem keysDistinctItems_iff
    {items : List Json} :
    keysDistinctItems items = true ↔ ∀ item ∈ items, item.keysDistinct = true := by
  induction items with
  | nil =>
      simp [keysDistinctItems]
  | cons item rest ih =>
      simp [keysDistinctItems, ih]

theorem keysDistinctFields_iff
    {fields : Fields} :
    keysDistinctFields fields = true ↔ ∀ field ∈ fields, field.2.keysDistinct = true := by
  induction fields with
  | nil =>
      simp [keysDistinctFields]
  | cons field rest ih =>
      simp [keysDistinctFields, ih]

theorem keysDistinct_arr
    {items : List Json} :
    (Json.arr items).keysDistinct = true ↔ ∀ item ∈ items, item.keysDistinct = true :=
  keysDistinctItems_iff

theorem keysDistinct_obj
    {fields : Fields} :
    (Json.obj fields).keysDistinct = true ↔
      fields.Distinct ∧ ∀ field ∈ fields, field.2.keysDistinct = true := by
  rw [keysDistinct, Bool.and_eq_true, decide_eq_true_iff, keysDistinctFields_iff]
  rfl

/-!
## Sorting by keys
-/

theorem le_iff
    {left right : String} :
    Text.le left right = true ↔ left ≤ right := by
  rw [Text.le, Bool.not_eq_true', decide_eq_false_iff_not, String.not_lt]

section

variable {β : Type}

def pairLe (one other : String × β) : Bool :=
  Text.le one.1 other.1

theorem pairwise_mergeSort (pairs : List (String × β)) :
    (pairs.mergeSort pairLe).Pairwise fun one other => pairLe one other = true := by
  apply List.pairwise_mergeSort
  · intro first second third
    simp only [pairLe, le_iff]
    exact String.le_trans
  · intro first second
    simp only [pairLe, Bool.or_eq_true, le_iff]
    exact String.le_total _ _

/-- Sorting leaves nothing of the order of pairs whose keys differ. -/
theorem mergeSort_eq_of_perm
    {pairs others : List (String × β)} (distinct : (pairs.map Prod.fst).Nodup)
    (order : pairs.Perm others) :
    pairs.mergeSort pairLe = others.mergeSort pairLe := by
  have sorted : (pairs.mergeSort pairLe).Perm (others.mergeSort pairLe) :=
    (List.mergeSort_perm _ _).trans (order.trans (List.mergeSort_perm _ _).symm)
  apply sorted.eq_of_pairwise ?_ (pairwise_mergeSort pairs) (pairwise_mergeSort others)
  intro one other memberOne memberOther below above
  have key : one.1 = other.1 := String.le_antisymm (le_iff.mp below) (le_iff.mp above)
  have amongOne : one ∈ pairs := (List.mergeSort_perm _ _).mem_iff.mp memberOne
  have amongOther : other ∈ pairs :=
    order.mem_iff.mpr ((List.mergeSort_perm _ _).mem_iff.mp memberOther)
  exact List.inj_on_of_nodup_map distinct amongOne amongOther key

end

/-!
## Texts of sorted values
-/

def sortedText (value : Json) : List Char :=
  compactChars value.sortKeys

def sortedPair (field : String × Json) : String × List Char :=
  (field.1, sortedText field.2)

def pairText (pair : String × List Char) : List Char :=
  Quoted.quote pair.1 ++ ':' :: pair.2

theorem sortKeysItems_eq_map (items : List Json) :
    sortKeysItems items = items.map sortKeys := by
  induction items with
  | nil =>
      rfl
  | cons item rest ih =>
      rw [sortKeysItems, ih, List.map_cons]

theorem sortKeysFields_eq_map (fields : Fields) :
    sortKeysFields fields = fields.map fun field => (field.1, field.2.sortKeys) := by
  induction fields with
  | nil =>
      rfl
  | cons field rest ih =>
      rw [sortKeysFields, ih, List.map_cons]

theorem sortKeys_arr (items : List Json) :
    sortKeys (.arr items) = .arr (items.map sortKeys) := by
  rw [sortKeys, sortKeysItems_eq_map]

theorem sortKeys_obj (fields : Fields) :
    sortKeys (.obj fields) =
      .obj ((fields.mergeSort keyLe).map fun field => (field.1, field.2.sortKeys)) := by
  rw [sortKeys, sortKeysFields_eq_map, List.map_mergeSort]
  intro one _ other _
  rfl

theorem sortedText_arr (items : List Json) :
    sortedText (.arr items) =
      '[' :: (List.intercalate [','] (items.map sortedText) ++ [']']) := by
  rw [sortedText, sortKeys_arr, compactChars_arr, List.map_map]
  rfl

theorem sortedText_obj (fields : Fields) :
    sortedText (.obj fields) =
      '\x7b' :: (List.intercalate [',']
        (((fields.map sortedPair).mergeSort pairLe).map pairText) ++ ['\x7d']) := by
  have pairs : (fields.map sortedPair).mergeSort pairLe =
      (fields.mergeSort keyLe).map sortedPair := by
    rw [List.map_mergeSort]
    intro one _ other _
    rfl
  rw [sortedText, sortKeys_obj, compactChars_obj, pairs, List.map_map, List.map_map]
  rfl

theorem forall₂_of_mem
    {α : Type} {R S : α → α → Prop} {values others : List α} (related : List.Forall₂ R values others)
    (change : ∀ value ∈ values, ∀ other, R value other → S value other) :
    List.Forall₂ S values others := by
  induction related with
  | nil =>
      exact .nil
  | cons here _ ih =>
      exact .cons (change _ List.mem_cons_self _ here)
        (ih fun value member => change value (List.mem_cons_of_mem _ member))

/-!
## Equal texts of alike values
-/

theorem sortedText_eq_of_alike
    {value other : Json} (distinct : value.keysDistinct = true) (alike : Alike value other) :
    sortedText value = sortedText other := by
  induction value using membersInduction generalizing other with
  | null | bool _ | int _ | str _ =>
      cases alike
      rfl
  | float _ =>
      cases alike with
      | float same =>
          exact congrArg String.toList same
  | arr items ih =>
      cases alike with
      | @arr _ others same =>
          rw [keysDistinct_arr] at distinct
          rw [alikeItems_iff] at same
          have texts : items.map sortedText = others.map sortedText :=
            map_eq_of_forall₂ (forall₂_of_mem same fun item member other alike =>
              ih item member (distinct item member) alike)
          rw [sortedText_arr, sortedText_arr, texts]
  | obj fields ih =>
      cases alike with
      | @obj _ middle others same order =>
          rw [keysDistinct_obj] at distinct
          rw [alikeFields_iff] at same
          have pairs : fields.map sortedPair = middle.map sortedPair := by
            apply map_eq_of_forall₂ (forall₂_of_mem same ?_)
            intro field member other alike
            exact Prod.ext alike.1 (ih field member (distinct.2 field member) alike.2)
          have keys : ((fields.map sortedPair).map Prod.fst).Nodup := by
            rw [List.map_map]
            exact distinct.1
          have sorted := mergeSort_eq_of_perm keys (pairs ▸ order.map sortedPair)
          rw [sortedText_obj, sortedText_obj, sorted]

/-!
## Alike values of equal texts
-/

theorem alike_arr_of_parts
    {items others : List Json}
    (members : ∀ item ∈ items, ∀ other, sortedText item = sortedText other → Alike item other)
    (parts : Parts (.sortKeys (.arr items)) (.sortKeys (.arr others))) :
    Alike (.arr items) (.arr others) := by
  rw [sortKeys_arr, sortKeys_arr] at parts
  cases parts with
  | arr same =>
      rw [List.forall₂_map_left_iff, List.forall₂_map_right_iff] at same
      exact .arr (alikeItems_iff.mpr (forall₂_of_mem same members))

/-- The fields are compared in the order of the keys; from there each side goes back to its own
order. -/
theorem alike_obj_of_parts
    {fields others : Fields}
    (members : ∀ field ∈ fields, ∀ other, sortedText field.2 = sortedText other →
      Alike field.2 other)
    (parts : Parts (.sortKeys (.obj fields)) (.sortKeys (.obj others))) :
    Alike (.obj fields) (.obj others) := by
  rw [sortKeys_obj, sortKeys_obj] at parts
  cases parts with
  | obj same =>
      rw [List.forall₂_map_left_iff, List.forall₂_map_right_iff] at same
      have order : fields.Perm (fields.mergeSort keyLe) := (List.mergeSort_perm fields keyLe).symm
      rcases List.perm_comp_forall₂ order same with ⟨middle, alike, sorted⟩
      refine @Alike.obj fields middle others (alikeFields_iff.mpr (forall₂_of_mem alike ?_))
        (sorted.trans (List.mergeSort_perm others keyLe))
      intro field member other same
      exact ⟨same.1, members field member other.2 same.2⟩

theorem alike_of_sortedText_eq
    {value other : Json} (same : sortedText value = sortedText other) :
    Alike value other := by
  induction value using membersInduction generalizing other with
  | null | bool _ | int _ | str _ =>
      have parts := parts_of_compactChars same
      cases other <;> cases parts
      constructor
  | float value =>
      have parts := parts_of_compactChars same
      cases other <;> cases parts
      rename_i text
      exact .float text
  | arr items ih =>
      have parts := parts_of_compactChars same
      cases other with
      | arr others =>
          exact alike_arr_of_parts (fun item member _ text => ih item member text) parts
      | null | bool _ | int _ | float _ | str _ | obj _ =>
          cases parts
  | obj fields ih =>
      have parts := parts_of_compactChars same
      cases other with
      | obj others =>
          exact alike_obj_of_parts (fun field member _ text => ih field member text) parts
      | null | bool _ | int _ | float _ | str _ | arr _ =>
          cases parts

theorem alike_refl (value : Json) :
    Alike value value :=
  alike_of_sortedText_eq rfl

end Json
end WorkflowWalk
