import WorkflowWalk.Proofs.Flow.Cycle

/-!
# Searching for a cycle in turns

A loop searches for a cycle with two stacks: the ids of the way it has come by, and for each of them
the targets that are still to be looked at. It also keeps the ids that it has left for good. The
stacks grow and shrink together, so the loop comes to what the search comes to, and it does so
within a number of turns that the links and the ids to start from bound.
-/

namespace WorkflowWalk
namespace Links

/-!
## The loop
-/

/-- Where the loop stands. The way has its first id first; of the targets that are left, those of
the last id on the way come first. -/
structure Hunt where
  roots : List String
  done : List String
  way : List String
  onWay : List String
  left : List (List String)

inductive Hunt.Turn
  | answer (cycle : Option (List String))
  | onward (hunt : Hunt)

theorem targets?_eq_none
    {links : Links} {id : String} (absent : id ∉ links.sources) :
    links.targets? id = none := by
  cases found : links.targets? id with
  | none =>
      rfl
  | some targets =>
      exact absurd (mem_sources_of_targets? found) absent

def targetsOf (links : Links) (id : String) : List String :=
  (links.targets? id).getD []

namespace Hunt

def start (order : List String) : Hunt :=
  { roots := order, done := [], way := [], onWay := [], left := [] }

def begin (hunt : Hunt) (links : Links) (root : String) (rest : List String) : Hunt :=
  { hunt with
    roots := rest
    way := [root]
    onWay := [root]
    left := [links.targetsOf root] }

def finish (hunt : Hunt) (below : List (List String)) : Hunt :=
  { hunt with
    done := hunt.way.getLast?.toList ++ hunt.done
    way := hunt.way.dropLast
    onWay := hunt.onWay.filter fun id => hunt.way.getLast? ≠ some id
    left := below }

def enter (hunt : Hunt) (links : Links) (target : String) (left : List (List String)) : Hunt :=
  { hunt with
    way := hunt.way ++ [target]
    onWay := target :: hunt.onWay
    left := links.targetsOf target :: left }

def turn (links : Links) (hunt : Hunt) : Turn :=
  match hunt.left, hunt.roots with
  | [], [] => .answer none
  | [], root :: rest =>
      if root ∈ hunt.done then .onward { hunt with roots := rest }
      else .onward (hunt.begin links root rest)
  | [] :: below, _ => .onward (hunt.finish below)
  | (target :: targets) :: below, _ =>
      if target ∈ hunt.onWay then
        .answer (some (hunt.way.drop (hunt.way.idxOf target) ++ [target]))
      else if target ∈ hunt.done ∨ target ∉ links.sources then
        .onward { hunt with left := targets :: below }
      else
        .onward (hunt.enter links target (targets :: below))

end Hunt

def huntWithin (links : Links) : Nat → Hunt → Option (Option (List String))
  | 0, _ => none
  | turns + 1, hunt =>
      match hunt.turn links with
      | .answer cycle => some cycle
      | .onward next => links.huntWithin turns next

theorem huntWithin_of_answer
    {links : Links} {hunt : Hunt} {cycle : Option (List String)}
    (turned : hunt.turn links = .answer cycle) (turns : Nat) :
    links.huntWithin (turns + 1) hunt = some cycle := by
  rw [huntWithin, turned]

theorem huntWithin_of_onward
    {links : Links} {hunt next : Hunt} (turned : hunt.turn links = .onward next) (turns : Nat) :
    links.huntWithin (turns + 1) hunt = links.huntWithin turns next := by
  rw [huntWithin, turned]

/-!
## The number of turns

An entry takes a turn for each of its targets, and one more when the id is left.
-/

theorem remaining_without_le (links : Links) (id : String) :
    remaining (links.without id) ≤ remaining links := by
  induction links with
  | nil =>
      exact Nat.le_refl _
  | cons entry rest ih =>
      by_cases dropped : entry.1 = id
      · have shorter : without (entry :: rest) id = without rest id := by
          simp [without, dropped]
        rw [shorter, remaining]
        exact Nat.le_add_left_of_le ih
      · have kept : without (entry :: rest) id = entry :: without rest id := by
          simp [without, dropped]
        rw [kept, remaining, remaining]
        exact Nat.add_le_add_left ih _

theorem remaining_without
    {links : Links} {id : String} {targets : List String}
    (entry : links.targets? id = some targets) :
    targets.length + 1 + remaining (links.without id) ≤ remaining links := by
  induction links with
  | nil =>
      cases entry
  | cons first rest ih =>
      rcases first with ⟨source, others⟩
      rw [targets?_cons] at entry
      by_cases here : id = source
      · rw [if_pos here, Option.some.injEq] at entry
        subst here entry
        have shorter : without ((id, others) :: rest) id = without rest id := by
          simp [without]
        rw [shorter]
        exact Nat.add_le_add_left (remaining_without_le rest id) _
      · rw [if_neg here] at entry
        have kept : without ((source, others) :: rest) id =
            (source, others) :: without rest id := by
          simp [without, Ne.symm here]
        have fewer := ih entry
        rw [kept, remaining, remaining]
        omega

/-!
## The loop and the search stay in step
-/

/-- The loop stands where the search stands: its two stacks are the frames of the search, and what
the search has not met is neither left for good nor on the way. -/
structure Hunt.Mirrors (hunt : Hunt) (links fresh : Links) (roots : List String)
    (frames : List Frame) : Prop where
  roots : hunt.roots = roots
  way : hunt.way = (wayIds frames).reverse
  onWay : ∀ id, id ∈ hunt.onWay ↔ id ∈ wayIds frames
  left : hunt.left = frames.map Prod.snd
  unmet : ∀ id, id ∈ fresh.sources ↔ id ∈ links.sources ∧ id ∉ hunt.done ∧ id ∉ wayIds frames

namespace Hunt.Mirrors

variable {links fresh : Links} {hunt : Hunt} {roots : List String} {frames : List Frame}

theorem start (links : Links) (order : List String) :
    (Hunt.start order).Mirrors links links order [] where
  roots := rfl
  way := rfl
  onWay _ := Iff.rfl
  left := rfl
  unmet id := by
    simp [Hunt.start, wayIds]

theorem skip
    {root : String} (mirrors : hunt.Mirrors links fresh (root :: roots) []) :
    Hunt.Mirrors { hunt with roots } links fresh roots [] where
  roots := rfl
  way := mirrors.way
  onWay := mirrors.onWay
  left := mirrors.left
  unmet := mirrors.unmet

theorem begin
    {root : String} {targets : List String}
    (mirrors : hunt.Mirrors links fresh (root :: roots) [])
    (entry : links.targets? root = some targets) :
    (hunt.begin links root roots).Mirrors links (fresh.without root) roots [(root, targets)] where
  roots := rfl
  way := rfl
  onWay _ := Iff.rfl
  left := by
    simp [Hunt.begin, targetsOf, entry]
  unmet id := by
    rw [mem_sources_without, mirrors.unmet]
    simp only [Hunt.begin, wayIds, List.map_nil, List.map_cons, List.mem_singleton,
      List.not_mem_nil, not_false_eq_true, and_true]
    tauto

theorem begin_finish
    {root : String} (mirrors : hunt.Mirrors links fresh (root :: roots) [])
    (absent : root ∉ links.sources) :
    ((hunt.begin links root roots).finish []).Mirrors links fresh roots [] where
  roots := rfl
  way := rfl
  onWay id := by
    simp [Hunt.finish, Hunt.begin, wayIds]
  left := rfl
  unmet id := by
    rw [mirrors.unmet]
    simp only [Hunt.finish, Hunt.begin, List.getLast?_singleton, Option.toList_some,
      List.singleton_append, List.mem_cons, not_or]
    constructor
    · intro unmet
      exact ⟨unmet.1, ⟨fun here => absent (here ▸ unmet.1), unmet.2.1⟩, unmet.2.2⟩
    · intro unmet
      exact ⟨unmet.1, unmet.2.1.2, unmet.2.2⟩

theorem finish
    {id : String} {below : List Frame}
    (mirrors : hunt.Mirrors links fresh roots ((id, []) :: below)) (apart : id ∉ wayIds below) :
    (hunt.finish (below.map Prod.snd)).Mirrors links fresh roots below := by
  have way : hunt.way = (wayIds below).reverse ++ [id] := by
    rw [mirrors.way, wayIds, List.map_cons, List.reverse_cons]
    rfl
  constructor
  · exact mirrors.roots
  · show hunt.way.dropLast = (wayIds below).reverse
    rw [way, List.dropLast_concat]
  · intro other
    show other ∈ hunt.onWay.filter _ ↔ other ∈ wayIds below
    rw [List.mem_filter, mirrors.onWay, way, List.getLast?_concat]
    simp only [wayIds, List.map_cons, List.mem_cons, decide_eq_true_eq, ne_eq, Option.some.injEq]
    constructor
    · intro here
      exact here.1.resolve_left fun same => here.2 same.symm
    · intro here
      exact ⟨Or.inr here, fun same => apart (same ▸ here)⟩
  · rfl
  · intro other
    rw [mirrors.unmet]
    show _ ↔ _ ∧ other ∉ hunt.way.getLast?.toList ++ hunt.done ∧ _
    rw [way, List.getLast?_concat]
    simp only [wayIds, List.map_cons, List.mem_cons, Option.toList_some, List.singleton_append,
      not_or]
    tauto

theorem pass
    {id target : String} {targets : List String} {below : List Frame}
    (mirrors : hunt.Mirrors links fresh roots ((id, target :: targets) :: below)) :
    Hunt.Mirrors { hunt with left := targets :: below.map Prod.snd } links fresh roots
      ((id, targets) :: below) where
  roots := mirrors.roots
  way := mirrors.way
  onWay := mirrors.onWay
  left := rfl
  unmet := mirrors.unmet

theorem enter
    {target : String} {targets : List String} (mirrors : hunt.Mirrors links fresh roots frames)
    (entry : links.targets? target = some targets) :
    (hunt.enter links target hunt.left).Mirrors links (fresh.without target) roots
      ((target, targets) :: frames) where
  roots := mirrors.roots
  way := by
    simp [Hunt.enter, mirrors.way, wayIds]
  onWay id := by
    simp [Hunt.enter, mirrors.onWay, wayIds]
  left := by
    simp [Hunt.enter, targetsOf, entry, mirrors.left]
  unmet id := by
    rw [mem_sources_without, mirrors.unmet]
    simp only [Hunt.enter, wayIds, List.map_cons, List.mem_cons, not_or]
    tauto

theorem closeCycle_eq
    {target : String} (mirrors : hunt.Mirrors links fresh roots frames)
    (distinct : (wayIds frames).Nodup) (member : target ∈ wayIds frames) :
    hunt.way.drop (hunt.way.idxOf target) ++ [target] = closeCycle (wayIds frames) target := by
  rcases List.eq_append_cons_of_mem member with ⟨passed, rest, parts, off⟩
  rw [parts] at distinct
  have behind : target ∉ rest.reverse := by
    rw [List.mem_reverse]
    exact (List.nodup_cons.mp (List.nodup_append.mp distinct).2.1).1
  have way : hunt.way = rest.reverse ++ target :: passed.reverse := by
    rw [mirrors.way, parts]
    simp
  have place : hunt.way.idxOf target = rest.reverse.length := by
    rw [way, List.idxOf_append_of_notMem behind, List.idxOf_cons_self, Nat.add_zero]
  rw [parts, closeCycle_append off, place, way, List.drop_left]

/-!
## The turns of the loop
-/

theorem turn_ends
    (mirrors : hunt.Mirrors links fresh [] []) :
    hunt.turn links = .answer none := by
  rw [Hunt.turn, mirrors.left, mirrors.roots]
  rfl

theorem turn_of_root
    {root : String} (mirrors : hunt.Mirrors links fresh (root :: roots) []) :
    hunt.turn links =
      if root ∈ hunt.done then .onward { hunt with roots }
      else .onward (hunt.begin links root roots) := by
  rw [Hunt.turn, mirrors.left, mirrors.roots]
  rfl

theorem turn_begins
    {root : String} {targets : List String}
    (mirrors : hunt.Mirrors links fresh (root :: roots) [])
    (entry : fresh.targets? root = some targets) :
    hunt.turn links = .onward (hunt.begin links root roots) := by
  have unmet := (mirrors.unmet root).mp (mem_sources_of_targets? entry)
  rw [mirrors.turn_of_root, if_neg unmet.2.1]

theorem turn_leaves
    {id : String} {below : List Frame}
    (mirrors : hunt.Mirrors links fresh roots ((id, []) :: below)) :
    hunt.turn links = .onward (hunt.finish (below.map Prod.snd)) := by
  rw [Hunt.turn, mirrors.left]
  rfl

section Target

variable {id target : String} {targets : List String} {below : List Frame}

theorem turn_of_target
    (mirrors : hunt.Mirrors links fresh roots ((id, target :: targets) :: below)) :
    hunt.turn links =
      if target ∈ hunt.onWay then
        .answer (some (hunt.way.drop (hunt.way.idxOf target) ++ [target]))
      else if target ∈ hunt.done ∨ target ∉ links.sources then
        .onward { hunt with left := targets :: below.map Prod.snd }
      else
        .onward (Hunt.enter { hunt with left := targets :: below.map Prod.snd } links target
          (targets :: below.map Prod.snd)) := by
  rw [Hunt.turn, mirrors.left]
  rfl

theorem turn_closes
    (mirrors : hunt.Mirrors links fresh roots ((id, target :: targets) :: below))
    (distinct : (wayIds ((id, target :: targets) :: below)).Nodup)
    (member : target ∈ wayIds ((id, target :: targets) :: below)) :
    hunt.turn links =
      .answer (some (closeCycle (wayIds ((id, target :: targets) :: below)) target)) := by
  rw [mirrors.turn_of_target, if_pos ((mirrors.onWay target).mpr member),
    mirrors.closeCycle_eq distinct member]

theorem turn_enters
    {next : List String}
    (mirrors : hunt.Mirrors links fresh roots ((id, target :: targets) :: below))
    (entry : fresh.targets? target = some next) :
    hunt.turn links =
      .onward (Hunt.enter { hunt with left := targets :: below.map Prod.snd } links target
        (targets :: below.map Prod.snd)) := by
  rcases (mirrors.unmet target).mp (mem_sources_of_targets? entry) with ⟨known, undone, off⟩
  have outside : target ∉ hunt.onWay := mt (mirrors.onWay target).mp off
  have unmet : ¬(target ∈ hunt.done ∨ target ∉ links.sources) :=
    fun met => met.elim undone (absurd known)
  rw [mirrors.turn_of_target, if_neg outside, if_neg unmet]

theorem turn_passes
    (mirrors : hunt.Mirrors links fresh roots ((id, target :: targets) :: below))
    (off : target ∉ wayIds ((id, target :: targets) :: below))
    (absent : fresh.targets? target = none) :
    hunt.turn links = .onward { hunt with left := targets :: below.map Prod.snd } := by
  have unmet := mt (mirrors.unmet target).mpr (not_mem_sources_of_targets? absent)
  have met : target ∈ hunt.done ∨ target ∉ links.sources := by
    by_cases left : target ∈ hunt.done
    · exact Or.inl left
    · exact Or.inr fun known => unmet ⟨known, left, off⟩
  rw [mirrors.turn_of_target, if_neg (mt (mirrors.onWay target).mp off), if_pos met]

end Target

end Hunt.Mirrors

theorem Hunt.turn_begin
    {links : Links} {root : String} (hunt : Hunt) (absent : root ∉ links.sources)
    (rest : List String) :
    (hunt.begin links root rest).turn links =
      .onward ((hunt.begin links root rest).finish []) := by
  have nothing : links.targetsOf root = [] := by
    rw [targetsOf, targets?_eq_none absent]
    rfl
  rw [Hunt.turn, Hunt.begin, nothing]

/-- An id to start from without an entry takes a second turn if it has not been left for good. -/
theorem Hunt.Mirrors.huntWithin_absent
    {links fresh : Links} {hunt : Hunt} {root : String} {roots : List String}
    (mirrors : hunt.Mirrors links fresh (root :: roots) []) (absent : fresh.targets? root = none) :
    ∃ (next : Hunt) (saved : Nat), next.Mirrors links fresh roots [] ∧
      ∀ turns, links.huntWithin (turns + 2) hunt = links.huntWithin (turns + saved) next := by
  have turned := mirrors.turn_of_root
  by_cases left : root ∈ hunt.done
  · rw [if_pos left] at turned
    exact ⟨_, 1, mirrors.skip, fun turns => huntWithin_of_onward turned (turns + 1)⟩
  · rw [if_neg left] at turned
    have unmet := mt (mirrors.unmet root).mpr (not_mem_sources_of_targets? absent)
    have missing : root ∉ links.sources := fun known => unmet ⟨known, left, List.not_mem_nil⟩
    refine ⟨_, 0, mirrors.begin_finish missing, ?_⟩
    intro turns
    rw [huntWithin_of_onward turned, huntWithin_of_onward (Hunt.turn_begin hunt missing roots)]
    rfl

/-!
## The answer
-/

/-- The loop comes to what the search comes to. Each turn takes something from what remains: an id
to start from, a target that is left, or an id on the way. -/
theorem huntWithin_of_mirrors
    {links fresh : Links} {roots : List String} {frames : List Frame} (on : Way links fresh frames)
    {hunt : Hunt} (mirrors : hunt.Mirrors links fresh roots frames) {turns : Nat}
    (enough : remaining fresh + 2 * roots.length + remaining frames < turns) :
    links.huntWithin turns hunt = some (searchCycle fresh roots frames) := by
  induction fresh, roots, frames using searchCycle.induct generalizing hunt turns with
  | case1 fresh =>
      rcases Nat.exists_eq_add_of_lt enough with ⟨spare, rfl⟩
      rw [huntWithin_of_answer mirrors.turn_ends, searchCycle]
  | case2 fresh root rest targets entry ih =>
      rcases Nat.exists_eq_add_of_lt enough with ⟨spare, rfl⟩
      have first := (on.kept root (mem_sources_of_targets? entry)).2.symm.trans entry
      have fewer := remaining_without entry
      rw [huntWithin_of_onward (mirrors.turn_begins entry), searchCycle, entry]
      refine ih (on.enter entry ?_) (mirrors.begin first) ?_
      · intro before none
        cases none
      · simp only [remaining, List.length_cons] at enough ⊢
        omega
  | case3 fresh root rest absent ih =>
      rcases mirrors.huntWithin_absent absent with ⟨next, saved, mirrorsNext, turned⟩
      rw [List.length_cons] at enough
      obtain ⟨more, rfl⟩ : ∃ more, turns = more + 2 := ⟨turns - 2, by omega⟩
      rw [turned, searchCycle, absent]
      exact ih on mirrorsNext (by omega)
  | case4 fresh roots id below ih =>
      rcases Nat.exists_eq_add_of_lt enough with ⟨spare, rfl⟩
      rw [huntWithin_of_onward mirrors.turn_leaves, searchCycle]
      refine ih on.leave (mirrors.finish (List.nodup_cons.mp on.distinct).1) ?_
      simp only [remaining, List.length_nil] at enough ⊢
      omega
  | case5 fresh roots id target targets below closes =>
      rcases Nat.exists_eq_add_of_lt enough with ⟨spare, rfl⟩
      have turned := mirrors.turn_closes on.distinct (List.contains_iff_mem.mp closes)
      rw [huntWithin_of_answer turned, searchCycle, if_pos closes]
      rfl
  | case6 fresh roots id target targets below opens next entry ih =>
      rcases Nat.exists_eq_add_of_lt enough with ⟨spare, rfl⟩
      have kept := on.kept target (mem_sources_of_targets? entry)
      have fewer := remaining_without entry
      rw [huntWithin_of_onward (mirrors.turn_enters entry), searchCycle, if_neg opens, entry]
      refine ih (on.pass.enter entry ?_) (mirrors.pass.enter (kept.2.symm.trans entry)) ?_
      · intro before same
        cases same
        exact on.leadsWithin kept.1
      · simp only [remaining, List.length_cons] at enough ⊢
        omega
  | case7 fresh roots id target targets below opens absent ih =>
      rcases Nat.exists_eq_add_of_lt enough with ⟨spare, rfl⟩
      have off := mt List.contains_iff_mem.mpr opens
      rw [huntWithin_of_onward (mirrors.turn_passes off absent), searchCycle, if_neg opens, absent]
      refine ih on.pass mirrors.pass ?_
      simp only [remaining, List.length_cons] at enough ⊢
      omega

theorem IsCycle.mem_sources
    {links : Links} {ids : List String} (cycle : links.IsCycle ids) {id : String}
    (member : id ∈ ids) :
    id ∈ links.sources := by
  rcases cycle.exists_next member with ⟨_, _, ⟨⟨_, entry, _⟩, _⟩⟩
  exact mem_sources_of_targets? entry

/-- The search for a cycle is made by a loop that ends, within a number of turns that the entries
and the ids to start from bound. What it finds is a cycle: at least two ids, each an id with an
entry that leads to the next one, the first and the last the same and no other one twice. If every
id with an entry is among those to start from, it finds nothing exactly if no way along entries
comes back to where it began. -/
theorem findCycle_decides
    {links : Links} {order : List String} (complete : ∀ id ∈ links.sources, id ∈ order) :
    (∀ turns, remaining links + 2 * order.length < turns →
      links.huntWithin turns (.start order) = some (links.findCycle order)) ∧
    (∀ ids, links.findCycle order = some ids →
      2 ≤ ids.length ∧ ids.head? = ids.getLast? ∧ ids.dropLast.Nodup ∧
        (∀ id ∈ ids, id ∈ links.sources) ∧
        ids.IsChain fun id target => ∃ targets, links.targets? id = some targets ∧
          target ∈ targets) ∧
    (links.findCycle order = none ↔ ∀ id, ¬Relation.TransGen links.LeadsWithin id id) := by
  refine ⟨?_, ?_, ?_⟩
  · intro turns enough
    exact huntWithin_of_mirrors (Way.start links) (.start links order) enough
  · intro ids found
    have cycle := isCycle_of_findCycle found
    rcases cycle.closed with ⟨first, inner, rfl, distinct⟩
    refine ⟨?_, ?_, ?_, ?_, ?_⟩
    · simp
    · rw [List.getLast?_concat, List.cons_append, List.head?_cons]
    · rw [List.dropLast_concat]
      exact distinct
    · exact fun _ member => cycle.mem_sources member
    · exact cycle.chain.imp fun _ _ leads => leads.1
  · constructor
    · exact acyclic_of_findCycle complete
    · intro acyclic
      cases found : links.findCycle order with
      | none =>
          rfl
      | some ids =>
          exact absurd acyclic (isCycle_of_findCycle found).not_acyclic

def doors : Links :=
  [("front", ["street", "back"]), ("back", ["front"])]

theorem findCycle_decides_doors :
    (∀ id ∈ doors.sources, id ∈ ["front", "back"]) ∧
      doors.findCycle ["front", "back"] = some ["front", "back", "front"] ∧
      ¬∀ id, ¬Relation.TransGen doors.LeadsWithin id id := by
  have complete : ∀ id ∈ doors.sources, id ∈ ["front", "back"] := fun _ member => member
  rcases findCycle_decides complete with ⟨ends, _, nothing⟩
  have found : doors.findCycle ["front", "back"] = some ["front", "back", "front"] :=
    Option.some.inj ((ends 10 (by decide)).symm.trans rfl)
  refine ⟨complete, found, ?_⟩
  rw [← nothing, found]
  exact Option.some_ne_none _

end Links
end WorkflowWalk
