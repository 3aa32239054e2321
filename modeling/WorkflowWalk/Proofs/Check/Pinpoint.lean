import WorkflowWalk.Proofs.Check.Agreement
import WorkflowWalk.Proofs.Document.BranchTag
import WorkflowWalk.Proofs.Document.EdgeIds
import WorkflowWalk.Proofs.Document.Repeats

/-!
# What the diagnostics of a rejected document point at

A diagnostic of a rejected document has only the text of a problem to go by. The node and the place
are read back from it, and how well this works depends on the characters of the ids. The place is
whole exactly if there is no colon in the id of the item, and the node is found by an id exactly if
there is no quote in it. Of a problem elsewhere a node is found if the text happens to say, as that
of a repeated id does, that the id of a node is a duplicate.
-/

namespace WorkflowWalk

open Problem (Cause Collection Part Place)

/-!
## Canonical form

The canonical form of a document with a canonical form has one itself: the ids of the nodes are
kept, and an edge keeps its id or gets one that is a text.
-/

namespace Canonical

theorem allItems_changed
    {change : List Json → List Json × List Note} {p : Json → Bool} {key : String}
    {before after : Fields} (becomes : after.get? key = changed change (before.get? key))
    (kept : ∀ items, items.all p = true → (change items).1.all p = true)
    (all : allItems key p before = true) :
    allItems key p after = true := by
  unfold allItems at all ⊢
  rw [becomes]
  unfold changed
  cases found : before.get? key with
  | none =>
      rfl
  | some value =>
      cases value with
      | arr items =>
          rw [found] at all
          exact kept items all
      | null | bool | int | float | str | obj =>
          rfl

theorem nodeWritable_nodeItem (item : Json) :
    nodeWritable (nodeItem item).1 = nodeWritable item := by
  cases item with
  | obj fields =>
      show (Json.field (node fields).1 "id").writable = (Json.field fields "id").writable
      rw [Json.field, get?_node fields (by decide), Json.field]
  | null | bool | int | float | str | arr =>
      rfl

theorem edgeWritable_edge
    {fields : Fields} (writable : edgeWritable (.obj fields) = true) (taken : List String) :
    edgeWritable (.obj (edge taken fields).1) = true := by
  rcases givenId?_edge taken fields with ⟨id, given⟩
  have truthy := exists_givenId?_iff.mp ⟨id, given⟩
  rw [edgeWritable, if_pos truthy]
  cases before : givenId? fields with
  | some own =>
      have truthyBefore := exists_givenId?_iff.mp ⟨own, before⟩
      rw [edgeWritable, if_pos truthyBefore] at writable
      rw [Json.field, (edgeKept_edge taken fields).given truthyBefore]
      exact writable
  | none =>
      rw [Json.field, get?_id_edge_of_lacking before taken]
      rfl

theorem all_edgeWritable_edgeItems
    {items : List Json} (writable : items.all edgeWritable = true) (taken : List String) :
    (edgeItems taken items).1.all edgeWritable = true := by
  induction items generalizing taken with
  | nil =>
      rfl
  | cons item rest ih =>
      rw [List.all_cons, Bool.and_eq_true] at writable
      rw [edgeItems_cons, List.all_cons, Bool.and_eq_true]
      refine ⟨?_, ih writable.2 _⟩
      cases item with
      | obj fields =>
          exact edgeWritable_edge writable.1 taken
      | null | bool | int | float | str | arr =>
          exact writable.1

theorem writable_normalize
    {payload : Fields} (written : writable payload = true) :
    writable (normalize payload).1 = true := by
  rcases Bool.and_eq_true_iff.mp written with ⟨nodes, edges⟩
  apply Bool.and_eq_true_iff.mpr
  constructor
  · refine allItems_changed (get?_nodes_normalize payload) ?_ nodes
    intro items all
    rw [nodeItems, List.all_map]
    simpa [Function.comp_def, nodeWritable_nodeItem] using all
  · refine allItems_changed (get?_edges_normalize payload) ?_ edges
    intro items all
    exact all_edgeWritable_edgeItems all _

end Canonical

namespace Check

theorem verdict_of_problems
    {payload : Fields} {found : List Problem}
    (rejected : Document.ofJson (.obj payload) = .error (.problems found)) :
    ∃ canonical notes, Canonical.normalize? payload = .ok (canonical, notes) ∧
      found = Document.listing canonical ∧
      Check.verdict (.obj payload) = .ok (unsound
        (notes.map .normalized ++ (found.map Problem.text).map .rejected) (some canonical)) := by
  rcases Document.cases_of_ofFields rejected with ⟨_, limit⟩ | ⟨canonical, notes, normalized, same⟩
  · cases limit
  · rcases Canonical.normalize?_eq_ok_iff.mp normalized with ⟨writable, form⟩
    have again : Document.ofFields canonical = Document.ofFields payload := by
      have once := Canonical.writable_normalize writable
      have settled := Canonical.normalize_normalize payload
      rw [form] at once settled
      unfold Document.ofFields
      rw [normalized, Canonical.normalize?, if_pos once, settled]
    refine ⟨canonical, notes, normalized, Rejection.problems.inj same, ?_⟩
    have rejectedForm : Document.ofFields canonical = .error (.problems found) := again.trans rejected
    simp only [Check.verdict, normalized, bind, Except.bind, rejectedForm]
    rfl

end Check

/-!
## Texts that say that the id of a node is a duplicate
-/

namespace Finding

open Text

def duplicateLead : String := "Duplicate node id '"

/-- Somewhere a text says that the id of a node is a duplicate, and something follows as the id. -/
def Mentions (cs : List Char) : Prop :=
  ∃ c, c ≠ '\'' ∧ duplicateLead.toList ++ [c] <:+: cs

theorem after?_eq_some_iff
    {lead : String} {cs rest : List Char} :
    after? lead cs = some rest ↔ cs = lead.toList ++ rest := by
  unfold after?
  split
  · rename_i starts
    rcases List.isPrefixOf_iff_prefix.mp starts with ⟨more, rfl⟩
    rw [← String.length_toList, List.drop_left, Option.some.injEq, List.append_cancel_left_eq]
  · rename_i differs
    constructor
    · intro none
      cases none
    · rintro rfl
      exact absurd (List.isPrefixOf_iff_prefix.mpr (List.prefix_append _ _)) differs

theorem untilQuote?_of_clear
    {id rest : List Char} (clear : '\'' ∉ id) (solid : id ≠ []) :
    untilQuote? (id ++ '\'' :: rest) = some (String.ofList id) := by
  have run : (id ++ '\'' :: rest).takeWhile (· ≠ '\'') = id := (splits_until clear).takeWhile_eq
  unfold untilQuote?
  rw [run]
  cases id with
  | nil =>
      exact absurd rfl solid
  | cons c more =>
      rfl

theorem quote_not_mem_of_untilQuote?
    {cs : List Char} {id : String} (found : untilQuote? cs = some id) :
    '\'' ∉ id.toList := by
  unfold untilQuote? at found
  split at found
  · cases found
  · rename_i run _
    rw [← Option.some.inj found, String.toList_ofList]
    exact not_mem_takeWhile '\'' cs

theorem untilQuote?_eq_none_iff
    {cs : List Char} :
    untilQuote? cs = none ↔ ¬∃ c, c ≠ '\'' ∧ [c] <+: cs := by
  unfold untilQuote?
  cases cs with
  | nil =>
      simp
  | cons c rest =>
      by_cases quote : c = '\''
      · simp [quote, List.cons_prefix_cons]
      · simp [quote, List.cons_prefix_cons]

theorem mentions_cons_iff
    {c : Char} {rest : List Char} :
    Mentions (c :: rest) ↔
      (∃ d, d ≠ '\'' ∧ duplicateLead.toList ++ [d] <+: c :: rest) ∨ Mentions rest := by
  unfold Mentions
  simp only [List.infix_cons_iff, and_or_left, exists_or]

theorem duplicateId?_cons (c : Char) (rest : List Char) :
    duplicateId? (c :: rest) =
      ((after? duplicateLead (c :: rest)).bind untilQuote?).or (duplicateId? rest) := by
  rw [duplicateId?, duplicateLead]
  cases (after? "Duplicate node id '" (c :: rest)).bind untilQuote? <;> rfl

theorem duplicateId?_eq_none_iff
    {cs : List Char} :
    duplicateId? cs = none ↔ ¬Mentions cs := by
  induction cs with
  | nil =>
      simp [duplicateId?, Mentions, duplicateLead]
  | cons c rest ih =>
      have here : (after? duplicateLead (c :: rest)).bind untilQuote? = none ↔
          ¬∃ d, d ≠ '\'' ∧ duplicateLead.toList ++ [d] <+: c :: rest := by
        cases behind : after? duplicateLead (c :: rest) with
        | none =>
            simp only [Option.bind_none, true_iff]
            rintro ⟨d, _, more, whole⟩
            rw [List.append_assoc, eq_comm, ← after?_eq_some_iff, behind] at whole
            cases whole
        | some cs =>
            rw [after?_eq_some_iff.mp behind, Option.bind_some, untilQuote?_eq_none_iff]
            simp only [List.prefix_append_right_inj]
      rw [duplicateId?_cons, Option.or_eq_none_iff, mentions_cons_iff, not_or, here, ih]

theorem quote_not_mem_of_duplicateId?
    {cs : List Char} {id : String} (found : duplicateId? cs = some id) :
    '\'' ∉ id.toList := by
  induction cs with
  | nil =>
      cases found
  | cons c rest ih =>
      rw [duplicateId?_cons] at found
      rcases Option.or_eq_some_iff.mp found with here | ⟨_, later⟩
      · rcases Option.bind_eq_some_iff.mp here with ⟨behind, _, read⟩
        exact quote_not_mem_of_untilQuote? read
      · exact ih later

theorem duplicateId?_append
    {before : List Char} (clear : 'D' ∉ before) (cs : List Char) :
    duplicateId? (before ++ cs) = duplicateId? cs := by
  induction before with
  | nil =>
      rfl
  | cons c rest ih =>
      have other := List.ne_of_not_mem_cons clear
      have later := List.not_mem_of_not_mem_cons clear
      have none : after? duplicateLead (c :: (rest ++ cs)) = none := by
        rw [Option.eq_none_iff_forall_ne_some]
        intro behind found
        exact other (List.cons.inj (after?_eq_some_iff.mp found)).1.symm
      rw [List.cons_append, duplicateId?_cons, none]
      exact ih later

theorem mentions_append_iff
    {before : List Char} (clear : 'D' ∉ before) (cs : List Char) :
    Mentions (before ++ cs) ↔ Mentions cs := by
  rw [← not_iff_not, ← duplicateId?_eq_none_iff, duplicateId?_append clear, duplicateId?_eq_none_iff]

theorem not_mentions_of_clear
    {cs : List Char} (clear : '\'' ∉ cs) :
    ¬Mentions cs := by
  rintro ⟨c, _, inside⟩
  exact clear (inside.subset (by simp [duplicateLead]))

/-- What is mentioned is mentioned on one side of a character that is not in the note. -/
theorem mentions_split_iff
    {s : Char} (foreign : s ∉ duplicateLead.toList) (cs rest : List Char) :
    Mentions (cs ++ s :: rest) ↔ Mentions (cs ++ [s]) ∨ Mentions rest := by
  constructor
  · induction cs with
    | nil =>
        intro mentioned
        rcases mentions_cons_iff.mp mentioned with ⟨d, _, starts⟩ | later
        · have first : 'D' = s := (List.cons_prefix_cons.mp starts).1
          exact absurd (first ▸ List.mem_cons_self) foreign
        · exact Or.inr later
    | cons c more ih =>
        intro mentioned
        rcases mentions_cons_iff.mp mentioned with ⟨d, letter, starts⟩ | later
        · have whole : c :: more ++ [s] <+: c :: (more ++ s :: rest) := by
            simp
          rcases List.prefix_or_prefix_of_prefix starts whole with shorter | longer
          · exact Or.inl ⟨d, letter, shorter.isInfix⟩
          · rcases List.prefix_concat_iff.mp longer with same | inside
            · exact Or.inl ⟨d, letter, same ▸ List.infix_rfl⟩
            · exact absurd (inside.subset (List.mem_append_right _ List.mem_cons_self)) foreign
        · rcases ih later with ⟨d, letter, inside⟩ | behind
          · exact Or.inl ⟨d, letter, List.infix_cons inside⟩
          · exact Or.inr behind
  · rintro (⟨d, letter, inside⟩ | ⟨d, letter, inside⟩)
    · refine ⟨d, letter, inside.trans ?_⟩
      have whole : cs ++ [s] <+: cs ++ s :: rest := by
        simp
      exact whole.isInfix
    · refine ⟨d, letter, inside.trans ?_⟩
      exact ((List.suffix_cons s rest).trans (List.suffix_append cs _)).isInfix

/-!
## Ids behind positions
-/

theorem leadingId?_of_start
    {error : String} (other : ∀ rest, error.toList ≠ "nodes[".toList ++ rest) :
    leadingId? error = none := by
  have none : after? "nodes[" error.toList = none := by
    rw [Option.eq_none_iff_forall_ne_some]
    intro rest found
    exact other rest (after?_eq_some_iff.mp found)
  rw [leadingId?, none]
  rfl

theorem isSome_digit?_of_isDigit
    {c : Char} (digit : c.isDigit = true) :
    (digit? c).isSome = true := by
  have bounds := (Bool.and_eq_true ..).mp digit
  have lower : 0x30 ≤ c.toNat := UInt32.le_iff_toNat_le.mp (of_decide_eq_true bounds.1)
  have upper : c.toNat ≤ 0x39 := UInt32.le_iff_toNat_le.mp (of_decide_eq_true bounds.2)
  have zero : 0x30 ∈ zeroDigits := List.mem_cons_self
  rw [digit?, Option.isSome_map, List.find?_isSome]
  refine ⟨0x30, zero, ?_⟩
  rw [Bool.and_eq_true, decide_eq_true_iff, decide_eq_true_iff]
  exact ⟨lower, Nat.lt_succ_of_le upper⟩

theorem splits_digits (position : Nat) (rest : List Char) :
    Splits (fun c => (digit? c).isSome) (Nat.toDigits 10 position ++ ']' :: rest)
      (Nat.toDigits 10 position) (']' :: rest) where
  whole := rfl
  inside := by
    intro c member
    exact isSome_digit?_of_isDigit (isDigit_of_mem_toDigits member)
  stop := by
    intro c first
    rw [← Option.some.inj first]
    decide

theorem leadingId?_of_node
    {error : String} {position : Nat} {rest : List Char}
    (text : error.toList = "nodes[".toList ++ (Nat.toDigits 10 position ++ ']' :: rest)) :
    leadingId? error = (after? "] '" (']' :: rest)).bind fun behind =>
      (untilQuote? behind).bind fun id =>
        if (behind.drop id.length).isEmpty then none else some id := by
  have start : after? "nodes[" error.toList = some (Nat.toDigits 10 position ++ ']' :: rest) :=
    after?_eq_some_iff.mpr text
  have run : (Nat.toDigits 10 position ++ ']' :: rest).takeWhile (fun c => (digit? c).isSome) =
      Nat.toDigits 10 position :=
    (splits_digits position rest).takeWhile_eq
  have some : (Nat.toDigits 10 position).isEmpty = false := by
    simp
  unfold leadingId?
  rw [start]
  simp only [Option.bind_eq_bind, Option.bind_some, run, some, List.drop_left, Bool.false_eq_true,
    if_false]

section Nodes

variable {error : String} {position : Nat}

theorem leadingId?_of_id
    {id : String} {rest : List Char}
    (text : error.toList = "nodes[".toList ++
      (Nat.toDigits 10 position ++ ']' :: (" '".toList ++ (id.toList ++ '\'' :: rest))))
    (clear : '\'' ∉ id.toList) (solid : id ≠ "") :
    leadingId? error = some id := by
  have behind : after? "] '" (']' :: (" '".toList ++ (id.toList ++ '\'' :: rest))) =
      some (id.toList ++ '\'' :: rest) :=
    after?_eq_some_iff.mpr rfl
  have letters : id.toList ≠ [] := by
    simpa using solid
  rw [leadingId?_of_node text, behind, Option.bind_some, untilQuote?_of_clear clear letters,
    String.ofList_toList, Option.bind_some, ← String.length_toList, List.drop_left]
  rfl

theorem leadingId?_of_anonymous
    {c : Char} {rest : List Char}
    (text : error.toList = "nodes[".toList ++ (Nat.toDigits 10 position ++ ']' :: c :: rest))
    (solid : c ≠ ' ') :
    leadingId? error = none := by
  have none : after? "] '" (']' :: c :: rest) = none := by
    rw [Option.eq_none_iff_forall_ne_some]
    intro behind found
    have same := (List.cons.inj (after?_eq_some_iff.mp found)).2
    exact solid (List.cons.inj same).1
  rw [leadingId?_of_node text, none]
  rfl

end Nodes

theorem quote_not_mem_of_leadingId?
    {error id : String} (found : leadingId? error = some id) :
    '\'' ∉ id.toList := by
  unfold leadingId? at found
  rcases Option.bind_eq_some_iff.mp found with ⟨rest, _, found⟩
  simp only at found
  split at found
  · cases found
  · rcases Option.bind_eq_some_iff.mp found with ⟨behind, _, found⟩
    rcases Option.bind_eq_some_iff.mp found with ⟨own, read, found⟩
    split at found
    · cases found
    · cases found
      exact quote_not_mem_of_untilQuote? read

theorem quote_not_mem_of_nodeOf?
    {error id : String} (found : nodeOf? error = some id) :
    '\'' ∉ id.toList := by
  rcases Option.or_eq_some_iff.mp found with leading | ⟨_, repeated⟩
  · exact quote_not_mem_of_leadingId? leading
  · exact quote_not_mem_of_duplicateId? repeated

theorem nodeOf?_eq_none_iff
    {error : String} (noLead : leadingId? error = none) :
    nodeOf? error = none ↔ ¬Mentions error.toList := by
  rw [nodeOf?, noLead, Option.none_or, duplicateId?_eq_none_iff]

/-!
## Places before colons
-/

section Places

variable {error place rest : String}

theorem placeOf?_eq (text : error = place ++ ": " ++ rest) :
    placeOf? error = some (String.ofList (place.toList.takeWhile (· ≠ ':'))) := by
  have chars : error.toList = place.toList ++ ':' :: ' ' :: rest.toList := by
    rw [text]
    simp
  have run : error.toList.takeWhile (· ≠ ':') = place.toList.takeWhile (· ≠ ':') := by
    rw [chars, List.takeWhile_append]
    split
    · rename_i whole
      rw [(List.takeWhile_prefix _).eq_of_length whole]
      simp
    · rfl
  have shorter : (place.toList.takeWhile (· ≠ ':')).length < error.length := by
    refine Nat.lt_of_le_of_lt (List.takeWhile_prefix _).length_le ?_
    rw [← String.length_toList, chars, List.length_append]
    exact Nat.lt_add_of_pos_right (Nat.succ_pos _)
  unfold placeOf?
  simp only [run, if_pos shorter]

theorem placeOf?_eq_iff (text : error = place ++ ": " ++ rest) :
    placeOf? error = some place ↔ ':' ∉ place.toList := by
  rw [placeOf?_eq text, Option.some_inj, ← String.toList_inj, String.toList_ofList,
    List.takeWhile_eq_self_iff]
  simp only [decide_eq_true_eq]
  exact ⟨fun others member => others ':' member rfl, fun clear c member same => clear (same ▸ member)⟩

end Places

end Finding

/-!
## Diagnostics of problems
-/

def Problem.diagnostic (problem : Problem) : Diagnostic :=
  (Finding.rejected problem.text).diagnostic

def Problem.Place.itemId? : Place → Option String
  | .list _ => none
  | .item _ _ id _ => id

namespace Document

open Finding (Mentions)

/-- What the diagnostic of a problem of a document points at. -/
structure Pinpoints (canonical : Fields) (problem : Problem) : Prop where
  message : problem.diagnostic.message = problem.place.text ++ ": " ++ problem.cause.message
  upToColon : problem.diagnostic.path =
    some (String.ofList (problem.place.text.toList.takeWhile (· ≠ ':')))
  place : problem.diagnostic.path = some problem.place.text ↔
    ∀ id, problem.place.itemId? = some id → ':' ∉ id.toList
  node : ∀ position id path, problem.place = .item .nodes position id path →
    ∃ item, (itemsOf .nodes canonical)[position]? = some item ∧
      ∀ name, textId? item = some name → name ≠ "" →
        (problem.diagnostic.nodeId = some name ↔ '\'' ∉ name.toList)
  anonymous : ∀ position path, problem.place = .item .nodes position none path →
    (problem.diagnostic.nodeId = none ↔ ¬Mentions problem.cause.message.toList)
  edge : ∀ position id path, problem.place = .item .edges position id path →
    (problem.diagnostic.nodeId = none ↔
      ∀ name, id = some name → ¬Mentions (name.toList ++ "'.".toList))
  repeated : ∀ id, problem.cause = .duplicateId id →
    (problem.diagnostic.nodeId = some id ↔ '\'' ∉ id.toList)
  list : ∀ collection, problem = ⟨.list collection, .notList⟩ → problem.diagnostic.nodeId = none

theorem toList_text (problem : Problem) :
    problem.text.toList =
      problem.place.text.toList ++ ':' :: (" ".toList ++ problem.cause.message.toList) := by
  unfold Problem.text
  simp

theorem colon_mem_text_iff
    {collection : Collection} {position : Nat} {id : Option String} {path : List Part}
    (known : path.map key? ∈ itemRoutes) :
    ':' ∈ (Place.item collection position id path).text.toList ↔
      ∃ name, id = some name ∧ ':' ∈ name.toList := by
  have start : ':' ∉ startText collection position := clear_startText rfl (by decide)
  have paths : ':' ∉ pathText path := fun member => clear_pathText known member List.mem_cons_self
  rw [toList_text_item]
  cases id <;> simp [start, paths, idText]

theorem quote_not_mem_pathText
    {path : List Part} (known : path.map key? ∈ itemRoutes) :
    '\'' ∉ pathText path := by
  intro member
  exact clear_pathText known member (List.mem_cons_of_mem _ List.mem_cons_self)

theorem path_iff (problem : Problem) :
    problem.diagnostic.path = some problem.place.text ↔ ':' ∉ problem.place.text.toList :=
  Finding.placeOf?_eq_iff rfl

theorem path_of_item
    {collection : Collection} {position : Nat} {id : Option String} {path : List Part}
    (known : path.map key? ∈ itemRoutes) (cause : Cause) :
    (⟨.item collection position id path, cause⟩ : Problem).diagnostic.path =
        some (Place.item collection position id path).text ↔
      ∀ name, id = some name → ':' ∉ name.toList := by
  rw [path_iff, colon_mem_text_iff known]
  exact not_exists.trans (forall_congr' fun name => not_and)

def tailText (path : List Part) (cause : Cause) : List Char :=
  pathText path ++ ':' :: (" ".toList ++ cause.message.toList)

theorem toList_text_item_problem
    (collection : Collection) (position : Nat) (id : Option String) (path : List Part)
    (cause : Cause) :
    (⟨.item collection position id path, cause⟩ : Problem).text.toList =
      startText collection position ++ (idText id ++ tailText path cause) := by
  rw [toList_text, toList_text_item, tailText, List.append_assoc, List.append_assoc]

/-!
## Problems inside nodes
-/

section Nodes

variable {position : Nat} {path : List Part} {cause : Cause}

theorem itemId_of_textId?
    {item : Json} {name : String} (text : textId? item = some name) (solid : name ≠ "") :
    itemId item = some name := by
  unfold textId? at text
  split at text
  · rename_i fields
    split at text
    · rename_i id written
      cases text
      simp [itemId, Canonical.givenId?, Json.field, written, Json.isTruthy, Json.shown, solid]
    · cases text
  · cases text

theorem startText_nodes (position : Nat) (rest : List Char) :
    startText .nodes position ++ rest =
      "nodes[".toList ++ (Nat.toDigits 10 position ++ ']' :: rest) := by
  simp [startText, Collection.name]

theorem nodeId_of_node
    {name : String} (solid : name ≠ "") :
    (⟨.item .nodes position (some name) path, cause⟩ : Problem).diagnostic.nodeId = some name ↔
      '\'' ∉ name.toList := by
  constructor
  · exact Finding.quote_not_mem_of_nodeOf?
  · intro clear
    have text := toList_text_item_problem .nodes position (some name) path cause
    rw [startText_nodes, idText, List.append_assoc, List.append_assoc] at text
    have leading := Finding.leadingId?_of_id text clear solid
    show Finding.nodeOf? _ = some name
    rw [Finding.nodeOf?, leading, Option.some_or]

theorem nodeId_of_anonymous
    (known : path.map key? ∈ itemRoutes) :
    (⟨.item .nodes position none path, cause⟩ : Problem).diagnostic.nodeId = none ↔
      ¬Mentions cause.message.toList := by
  have text := toList_text_item_problem .nodes position none path cause
  rw [idText, List.nil_append, tailText] at text
  have noLead : Finding.leadingId? (⟨.item .nodes position none path, cause⟩ : Problem).text =
      none := by
    rw [startText_nodes] at text
    rcases pathText_cases path with empty | ⟨rest, dotted⟩
    · rw [empty] at text
      exact Finding.leadingId?_of_anonymous text (by decide)
    · rw [dotted] at text
      exact Finding.leadingId?_of_anonymous text (by decide)
  -- The colon behind the place is in no note of a duplicate, so what is mentioned is in the message.
  have place : ¬Mentions (startText .nodes position ++ pathText path ++ [':']) := by
    apply Finding.not_mentions_of_clear
    have start : '\'' ∉ startText .nodes position := clear_startText rfl (by decide)
    simp [start, quote_not_mem_pathText known]
  have message : Mentions (" ".toList ++ cause.message.toList) ↔ Mentions cause.message.toList :=
    Finding.mentions_append_iff (by decide) _
  show Finding.nodeOf? _ = none ↔ _
  rw [Finding.nodeOf?_eq_none_iff noLead, text, ← List.append_assoc,
    Finding.mentions_split_iff (by decide), message]
  exact not_congr (or_iff_right place)

end Nodes

/-!
## Problems inside edges
-/

section Edges

variable {position : Nat} {path : List Part} {cause : Cause}

def edgeCauses : List Cause :=
  [.missing, .notText, .emptyText, .notObject .edge]

theorem cause_of_mem_word
    {json : Json} {flaw : Flaw} (member : flaw ∈ Schema.word.flaws json) :
    flaw.cause ∈ edgeCauses := by
  cases json with
  | str value =>
      have found : flaw ∈ if value = "" then [⟨[], .emptyText⟩] else [] := member
      split at found
      · rw [List.mem_singleton.mp found]
        simp [edgeCauses]
      · cases found
  | null | bool | int | float | arr | obj =>
      rw [List.mem_singleton.mp member]
      simp [edgeCauses]

theorem cause_of_mem_textOrNull
    {json : Json} {flaw : Flaw} (member : flaw ∈ Schema.textOrNull.flaws json) :
    flaw.cause ∈ edgeCauses := by
  cases json with
  | null | str =>
      cases member
  | bool | int | float | arr | obj =>
      rw [List.mem_singleton.mp member]
      simp [edgeCauses]

theorem cause_of_mem_field
    {key : String} {needed : Bool} {schema : Schema} {fields : Fields} {flaw : Flaw}
    (inside : ∀ {value : Json} {inner : Flaw}, inner ∈ schema.flaws value → inner.cause ∈ edgeCauses)
    (member : flaw ∈ fieldFlaws key needed schema.flaws fields) :
    flaw.cause ∈ edgeCauses := by
  rcases mem_fieldFlaws member with ⟨_, _, inner, among, rfl⟩ | ⟨_, rfl⟩
  · show inner.cause ∈ edgeCauses
    exact inside among
  · exact List.mem_cons_self

theorem flaws_object_of_ne
    {shape : Problem.Shape} {schemas : FieldSchemas} {json : Json}
    (other : ∀ fields, json ≠ .obj fields) :
    (Schema.object shape schemas).flaws json = [⟨[], .notObject shape⟩] := by
  cases json with
  | obj fields =>
      exact absurd rfl (other fields)
  | null | bool | int | float | str | arr =>
      rfl

theorem cause_of_mem_edge
    {item : Json} {flaw : Flaw} (member : flaw ∈ edgeSchema.flaws item) :
    flaw.cause ∈ edgeCauses := by
  cases item with
  | obj fields =>
      rw [edgeSchema, Schema.flaws] at member
      simp only [FieldSchemas.flaws_needed, FieldSchemas.flaws_given, FieldSchemas.flaws_done,
        List.append_nil, List.mem_append] at member
      rcases member with id | source | target | tag
      · exact cause_of_mem_field cause_of_mem_word id
      · exact cause_of_mem_field cause_of_mem_word source
      · exact cause_of_mem_field cause_of_mem_word target
      · exact cause_of_mem_field cause_of_mem_textOrNull tag
  | null | bool | int | float | str | arr =>
      rw [edgeSchema, flaws_object_of_ne (fun fields => by simp)] at member
      rw [List.mem_singleton.mp member]
      simp [edgeCauses]

theorem quote_not_mem_message
    {cause : Cause} (known : cause ∈ edgeCauses) :
    '\'' ∉ cause.message.toList := by
  have each : (edgeCauses.all fun cause => !cause.message.toList.contains '\'') = true := rfl
  have here := List.all_eq_true.mp each cause known
  simpa only [List.contains_eq_mem, Bool.not_eq_true', decide_eq_false_iff_not] using here

theorem quote_not_mem_tailText
    (known : path.map key? ∈ itemRoutes) (usual : cause ∈ edgeCauses) :
    '\'' ∉ tailText path cause := by
  unfold tailText
  simp [quote_not_mem_pathText known, quote_not_mem_message usual]

theorem leadingId?_edges (id : Option String) :
    Finding.leadingId? (⟨.item .edges position id path, cause⟩ : Problem).text = none := by
  apply Finding.leadingId?_of_start
  intro rest same
  rw [toList_text_item_problem] at same
  cases (List.cons.inj same).1

theorem nodeId_of_edge
    (known : path.map key? ∈ itemRoutes) (inside : path ≠ []) (usual : cause ∈ edgeCauses)
    (name : String) :
    (⟨.item .edges position (some name) path, cause⟩ : Problem).diagnostic.nodeId = none ↔
      ¬Mentions (name.toList ++ "'.".toList) := by
  rcases exists_dot_of_ne_nil known inside with ⟨rest, dotted⟩
  have silent : ¬Mentions (rest ++ ':' :: (" ".toList ++ cause.message.toList)) := by
    apply Finding.not_mentions_of_clear
    intro member
    apply quote_not_mem_tailText known usual
    rw [tailText, dotted]
    exact List.mem_cons_of_mem _ member
  have start : 'D' ∉ startText .edges position ++ " '".toList := by
    have clear : 'D' ∉ startText .edges position := clear_startText rfl (by decide)
    simp [clear]
  have text : (⟨.item .edges position (some name) path, cause⟩ : Problem).text.toList =
      (startText .edges position ++ " '".toList) ++ (name.toList ++ ['\'']) ++
        '.' :: (rest ++ ':' :: (" ".toList ++ cause.message.toList)) := by
    rw [toList_text_item_problem, idText, tailText, dotted]
    simp only [List.append_assoc, List.cons_append, List.nil_append]
  show Finding.nodeOf? _ = none ↔ _
  rw [Finding.nodeOf?_eq_none_iff (leadingId?_edges (some name)), text,
    Finding.mentions_split_iff (by decide)]
  rw [or_iff_left silent, List.append_assoc, Finding.mentions_append_iff start, List.append_assoc]
  rfl

theorem nodeId_of_unnamed_edge
    (known : path.map key? ∈ itemRoutes) (usual : cause ∈ edgeCauses) :
    (⟨.item .edges position none path, cause⟩ : Problem).diagnostic.nodeId = none := by
  show Finding.nodeOf? _ = none
  rw [Finding.nodeOf?_eq_none_iff (leadingId?_edges none), toList_text_item_problem]
  apply Finding.not_mentions_of_clear
  have start : '\'' ∉ startText .edges position := clear_startText rfl (by decide)
  simp [start, idText, quote_not_mem_tailText known usual]

end Edges

/-!
## Problems of lists
-/

theorem leadingId?_list (collection : Collection) (cause : Cause) :
    Finding.leadingId? (⟨.list collection, cause⟩ : Problem).text = none := by
  apply Finding.leadingId?_of_start
  intro rest same
  rw [toList_text] at same
  have lists : collection.name.toList ++ ':' :: (" ".toList ++ cause.message.toList) =
      Collection.nodes.name.toList ++ '[' :: rest :=
    same
  cases collection_eq_of_name_append lists
  cases List.append_cancel_left lists

theorem path_of_list (collection : Collection) (cause : Cause) :
    (⟨.list collection, cause⟩ : Problem).diagnostic.path = some collection.name := by
  apply (path_iff ⟨.list collection, cause⟩).mpr
  cases collection <;> simp [Place.text, Collection.name]

theorem nodeId_of_list (collection : Collection) :
    (⟨.list collection, .notList⟩ : Problem).diagnostic.nodeId = none := by
  cases collection <;> rfl

theorem duplicateId?_of_lead
    {id rest : List Char} (clear : '\'' ∉ id) (solid : id ≠ []) :
    Finding.duplicateId? (Finding.duplicateLead.toList ++ (id ++ '\'' :: rest)) =
      some (String.ofList id) := by
  have lead : Finding.duplicateLead.toList = 'D' :: "uplicate node id '".toList := rfl
  have behind : Finding.after? Finding.duplicateLead
      ('D' :: ("uplicate node id '".toList ++ (id ++ '\'' :: rest))) = some (id ++ '\'' :: rest) :=
    Finding.after?_eq_some_iff.mpr rfl
  rw [lead, List.cons_append, Finding.duplicateId?_cons, behind, Option.bind_some,
    Finding.untilQuote?_of_clear clear solid, Option.some_or]

theorem nodeId_of_repeated
    {id : String} (solid : id ≠ "") :
    (⟨.list .nodes, .duplicateId id⟩ : Problem).diagnostic.nodeId = some id ↔ '\'' ∉ id.toList := by
  constructor
  · exact Finding.quote_not_mem_of_nodeOf?
  · intro clear
    have letters : id.toList ≠ [] := by
      simpa using solid
    have lead : "nodes: Value error, Duplicate node id '".toList =
        "nodes: Value error, ".toList ++ Finding.duplicateLead.toList :=
      rfl
    have text : (⟨.list .nodes, .duplicateId id⟩ : Problem).text.toList =
        "nodes: Value error, ".toList ++ (Finding.duplicateLead.toList ++ (id.toList ++ "'.".toList)) := by
      rw [← List.append_assoc, ← lead]
      exact toList_repeatText id
    show Finding.nodeOf? _ = some id
    rw [Finding.nodeOf?, leadingId?_list, Option.none_or, text, Finding.duplicateId?_append (by decide)]
    exact (duplicateId?_of_lead clear letters).trans (congrArg some String.ofList_toList)

theorem ne_empty_of_mem_idsOf
    {payload : Fields} (nodes : ListOf .nodes IsNode payload) {id : String}
    (member : id ∈ idsOf payload) :
    id ≠ "" := by
  rcases List.mem_filterMap.mp member with ⟨item, among, text⟩
  unfold itemsOf at among
  split at among
  · rename_i items found
    rcases nodes _ found with ⟨others, same, each⟩
    cases same
    rcases each item among with ⟨fields, kind, rfl, _, admitted⟩
    have word := admitted.2.1
    rw [presentKey_self] at word
    simp only [textId?] at text
    split at text
    · rename_i own written
      cases text
      rcases word _ written with ⟨value, same, solid⟩
      cases same
      exact solid
    · cases text
  · cases among

/-!
## Rejected documents
-/

theorem path_ne_nil_of_named
    {item : Json} {flaw : Flaw} (inside : flaw ∈ itemFlaws .edges item) {name : String}
    (named : itemId item = some name) :
    flaw.path ≠ [] := by
  cases item with
  | obj fields =>
      rcases FieldSchemas.exists_key_of_mem_flaws inside with ⟨_, _, _, leads⟩
      rw [leads]
      exact List.cons_ne_nil _ _
  | null | bool | int | float | str | arr =>
      cases named

theorem cause_ne_duplicateId
    {collection : Collection} {item : Json} {flaw : Flaw}
    (inside : flaw ∈ itemFlaws collection item) (id : String) :
    flaw.cause ≠ .duplicateId id := by
  intro same
  rcases flaw with ⟨path, cause⟩
  cases same
  cases concerns_of_mem_itemFlaws inside with
  | wrong _ described =>
      cases described

theorem pinpoints_of_item
    {payload : Fields} {collection : Collection} {position : Nat} {item : Json} {flaw : Flaw}
    (placed : (itemsOf collection payload)[position]? = some item)
    (inside : flaw ∈ itemFlaws collection item) :
    Pinpoints payload ⟨.item collection position (itemId item) flaw.path, flaw.cause⟩ := by
  have known := route_mem_itemRoutes inside
  constructor
  case message =>
    rfl
  case upToColon =>
    exact Finding.placeOf?_eq rfl
  case place =>
    exact path_of_item known flaw.cause
  case node =>
    intro own name path same
    cases same
    refine ⟨item, placed, ?_⟩
    intro name text solid
    rw [itemId_of_textId? text solid]
    exact nodeId_of_node solid
  case anonymous =>
    intro own path same
    rw [Place.item.injEq] at same
    rcases same with ⟨rfl, rfl, unnamed, rfl⟩
    rw [unnamed]
    exact nodeId_of_anonymous known
  case edge =>
    intro own id path same
    cases same
    have usual := cause_of_mem_edge inside
    cases named : itemId item with
    | none =>
        simp only [nodeId_of_unnamed_edge known usual, reduceCtorEq, false_implies, implies_true]
    | some name =>
        rw [nodeId_of_edge known (path_ne_nil_of_named inside named) usual]
        simp
  case repeated =>
    intro id same
    exact absurd same (cause_ne_duplicateId inside id)
  case list =>
    intro _ same
    cases same

theorem pinpoints_of_list (payload : Fields) (collection : Collection) :
    Pinpoints payload ⟨.list collection, .notList⟩ := by
  constructor
  case message =>
    rfl
  case upToColon =>
    exact Finding.placeOf?_eq rfl
  case place =>
    refine iff_of_true (path_of_list collection .notList) ?_
    intro id none
    cases none
  case list =>
    intro _ _
    exact nodeId_of_list collection
  all_goals
    intros
    contradiction

theorem pinpoints_of_repeated
    (payload : Fields) {id : String} (solid : id ≠ "") :
    Pinpoints payload ⟨.list .nodes, .duplicateId id⟩ := by
  constructor
  case message =>
    rfl
  case upToColon =>
    exact Finding.placeOf?_eq rfl
  case place =>
    refine iff_of_true (path_of_list .nodes (.duplicateId id)) ?_
    intro id none
    cases none
  case repeated =>
    intro own same
    cases same
    exact nodeId_of_repeated solid
  case list =>
    intro _ same
    cases same
  all_goals
    intros
    contradiction

theorem pinpoints_of_mem_listing
    {payload : Fields} {problem : Problem} (member : problem ∈ listing payload) :
    Pinpoints payload problem := by
  rcases mem_listing member with
    ⟨collection, position, item, flaw, placed, inside, rfl⟩ | ⟨collection, rfl⟩ |
      ⟨id, sound, first, rfl⟩
  · exact pinpoints_of_item placed inside
  · exact pinpoints_of_list payload collection
  · have nodes := (problemsIn_eq_nil_iff nodeFlaws_eq_nil_iff).mp sound
    rcases firstRepeat?_eq_some_iff.mp first with ⟨before, after, whole, _⟩
    have among : id ∈ idsOf payload := by
      rw [whole]
      exact List.mem_append_right _ List.mem_cons_self
    exact pinpoints_of_repeated payload (ne_empty_of_mem_idsOf nodes among)

end Document

namespace Check

open Document

def webhook : Fields :=
  [("nodes", .arr [.obj [("id", .str "x"), ("kind", .str "webhook")]]),
    ("edges", .arr [.obj [("id", .str "e1"), ("source", .str "x")]])]

def webhookProblems : List Problem :=
  [⟨.item .nodes 0 (some "x") [], .unknownKind "webhook"⟩,
    ⟨.item .edges 0 (some "e1") [.key "target"], .missing⟩]

/-- The same, but there is a quote and a colon in the id of the node, and the id of the edge reads
like the note of a repeated id. -/
def quoted : Fields :=
  [("nodes", .arr [.obj [("id", .str "o'clock: 9"), ("kind", .str "webhook")]]),
    ("edges", .arr [.obj [("id", .str "Duplicate node id 'x"), ("source", .str "a")]])]

def quotedProblems : List Problem :=
  [⟨.item .nodes 0 (some "o'clock: 9") [], .unknownKind "webhook"⟩,
    ⟨.item .edges 0 (some "Duplicate node id 'x") [.key "target"], .missing⟩]

theorem diagnostics_quoted :
    quotedProblems.map (fun problem => (problem.diagnostic.nodeId, problem.diagnostic.path)) =
      [(some "o", some "nodes[0] 'o'clock"),
        (some "x", some "edges[0] 'Duplicate node id 'x'.target")] := by
  decide +kernel

end Check
end WorkflowWalk
