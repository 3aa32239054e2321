import WorkflowWalk.CommandLine.Command
import WorkflowWalk.Proofs.Result

/-!
# What accepted arguments are like

Arguments are taken one after the other, and what has been read stays in order: each option is one
of the interface and was given what it takes, and of the arguments that exclude each other at most
one was given. So whoever asks for a run names a file or a template, and not both, and a limit of
steps is at least 1.
-/

namespace WorkflowWalk
namespace CommandLine

/-!
## Options and what they are given
-/

def Given.Fits : Given → ValueKind → Prop
  | .nothing, .nothing => True
  | .text _, .text => True
  | .count value, .count => 1 ≤ value
  | _, _ => False

theorem Interface.fits_of_value
    {found : Switch} {text : String} {given : Given}
    (valued : Interface.value found text = .ok given) :
    given.Fits found.value := by
  unfold Interface.value at valued
  cases kind : found.value with
  | nothing =>
      rw [kind] at valued
      cases valued
  | text =>
      rw [kind] at valued
      cases valued
      trivial
  | count =>
      rw [kind] at valued
      simp only at valued
      split at valued
      · cases valued
      · split at valued
        · cases valued
        · rename_i number _ large
          cases valued
          exact Int.not_lt.mp large

def Token.Known (interface : Interface) : Token → Prop
  | .switch _ found _ => found ∈ interface.switches
  | _ => True

namespace Interface

variable {interface : Interface}

theorem known_named (interface : Interface) (text name : String) (value : Option String) :
    (interface.named text name value).Known interface := by
  unfold named
  split
  · rename_i found isFound
    exact List.mem_of_find?_eq_some isFound
  · trivial

theorem known_of_abbreviated?
    {text : String} {token : Token} (read : interface.abbreviated? text = .ok (some token)) :
    token.Known interface := by
  unfold abbreviated? at read
  simp only at read
  split at read
  · split at read
    · cases read
    · cases read
      exact known_named interface text _ _
    · cases read
  · split at read
    · cases read
      trivial
    · cases read

theorem known_of_token
    {text : String} {token : Token} (read : interface.token text = .ok token) :
    token.Known interface := by
  unfold Interface.token at read
  simp only at read
  split at read
  · cases read
    trivial
  split at read
  · cases read
    exact known_named interface text text none
  split at read
  · cases read
    exact known_named interface text _ _
  · rcases ok_of_bind read with ⟨found, short, made⟩
    cases found with
    | some abbreviated =>
        cases made
        exact known_of_abbreviated? short
    | none =>
        simp only at made
        split at made <;> cases made <;> trivial

theorem known_of_tokens
    {arguments : List String} {tokens : List Token}
    (read : interface.tokens arguments = .ok tokens) :
    ∀ token ∈ tokens, token.Known interface := by
  induction arguments generalizing tokens with
  | nil =>
      cases read
      intro token member
      cases member
  | cons text rest ih =>
      unfold Interface.tokens at read
      split at read
      · cases read
        intro token member
        rcases List.mem_cons.mp member with rfl | later
        · trivial
        · rcases List.mem_map.mp later with ⟨word, _, rfl⟩
          trivial
      · rcases ok_of_bind read with ⟨first, here, more⟩
        rcases ok_of_bind more with ⟨others, there, made⟩
        cases made
        intro token member
        rcases List.mem_cons.mp member with rfl | later
        · exact known_of_token here
        · exact ih there token later

end Interface

/-!
## What has been read stays in order
-/

/-- Of names that exclude each other at most one is among some names. -/
def Interface.Apart (interface : Interface) (names : List String) : Prop :=
  ∀ group ∈ interface.groups, ∀ one ∈ names, ∀ other ∈ names,
    one ∈ group.members → other ∈ group.members → one = other

/-- What has been read is in order. -/
structure Reading.Sound (interface : Interface) (reading : Reading) : Prop where
  fits : ∀ entry ∈ reading.switches, ∃ found ∈ interface.switches,
    found.name = entry.1 ∧ entry.2.Fits found.value
  apart : interface.Apart (reading.names interface)

namespace Interface

variable {interface : Interface} {reading result : Reading}

theorem not_mem_names_of_checkGroups
    {name : String} (checked : interface.checkGroups reading name = .ok ())
    {group : Group} (among : group ∈ interface.groups) (belongs : name ∈ group.members)
    {other : String} (member : other ∈ group.members) (differs : other ≠ name) :
    other ∉ reading.names interface := by
  intro given
  unfold checkGroups at checked
  split at checked
  · cases checked
  · rename_i none
    have refused := List.find?_eq_none.mp none other
    apply refused
    · refine List.mem_flatMap.mpr ⟨group, List.mem_filter.mpr ⟨among, ?_⟩, ?_⟩
      · exact List.contains_iff_mem.mpr belongs
      · exact List.mem_filter.mpr ⟨member, decide_eq_true differs⟩
    · exact List.contains_iff_mem.mpr given

theorem Apart.of_checkGroups
    {name : String} (apart : interface.Apart (reading.names interface))
    (checked : interface.checkGroups reading name = .ok ()) {names : List String}
    (added : ∀ other ∈ names, other = name ∨ other ∈ reading.names interface) :
    interface.Apart names := by
  intro group among one oneGiven other otherGiven oneMember otherMember
  by_contra differs
  rcases added one oneGiven with rfl | oneBefore
  · rcases added other otherGiven with rfl | otherBefore
    · exact differs rfl
    · exact not_mem_names_of_checkGroups checked among oneMember otherMember (Ne.symm differs)
        otherBefore
  · rcases added other otherGiven with rfl | otherBefore
    · exact not_mem_names_of_checkGroups checked among otherMember oneMember differs oneBefore
    · exact differs (apart group among one oneBefore other otherBefore oneMember otherMember)

theorem sound_of_takeOperand
    (sound : reading.Sound interface) {name text : String}
    (pending : interface.pending? reading = some name)
    (taken : interface.takeOperand reading name text = .ok result) :
    result.Sound interface := by
  rcases ok_of_bind taken with ⟨_, checked, made⟩
  cases made
  refine ⟨sound.fits, sound.apart.of_checkGroups checked ?_⟩
  intro other member
  rcases List.mem_append.mp member with asOperand | before
  · unfold pending? at pending
    split at pending
    · rename_i optional _
      cases pending
      rw [optional] at asOperand
      exact Or.inl (List.mem_singleton.mp asOperand)
    · rename_i required _
      rw [required] at asOperand
      cases asOperand
    · cases pending
  · exact Or.inr (List.mem_append_right _ before)

theorem sound_of_takeGiven
    (sound : reading.Sound interface) {found : Switch} {given : Given}
    (known : found ∈ interface.switches) (fits : given.Fits found.value)
    (taken : interface.takeGiven reading found given = .ok result) :
    result.Sound interface := by
  rcases ok_of_bind taken with ⟨_, checked, made⟩
  cases made
  constructor
  · intro entry member
    rcases List.mem_append.mp member with before | last
    · exact sound.fits entry before
    · rw [List.mem_singleton.mp last]
      exact ⟨found, known, rfl, fits⟩
  · refine sound.apart.of_checkGroups checked ?_
    intro other member
    rcases List.mem_append.mp member with asOperand | asSwitch
    · exact Or.inr (List.mem_append_left _ asOperand)
    · rw [List.map_append, List.mem_append] at asSwitch
      rcases asSwitch with before | last
      · exact Or.inr (List.mem_append_right _ before)
      · exact Or.inl (List.mem_singleton.mp last)

theorem sound_of_takeValue
    (sound : reading.Sound interface) {found : Switch} {text : String}
    (known : found ∈ interface.switches)
    (taken : interface.takeValue reading found text = .ok result) :
    result.Sound interface := by
  rcases ok_of_bind taken with ⟨given, valued, made⟩
  exact sound_of_takeGiven sound known (fits_of_value (ok_of_mapError valued)) made

theorem sound_of_awaitsCommand
    (sound : reading.Sound interface) (awaits : interface.awaitsCommand reading = true)
    (text : String) (remaining : List String) :
    { reading with operand := some text, remaining := remaining : Reading }.Sound interface := by
  refine ⟨sound.fits, ?_⟩
  have same :
      { reading with operand := some text, remaining := remaining : Reading }.names interface =
        reading.names interface := by
    unfold awaitsCommand at awaits
    unfold Reading.names
    split at awaits
    · rename_i isCommand _
      rw [isCommand]
    · cases awaits
  rw [same]
  exact sound.apart

theorem sound_of_take
    {tokens : List Token} (sound : reading.Sound interface)
    (known : ∀ token ∈ tokens, token.Known interface)
    (taken : interface.take reading tokens = .ok result) :
    result.Sound interface := by
  fun_induction Interface.take interface reading tokens with
  | case1 reading | case8 reading =>
      cases taken
      exact sound
  | case2 reading text rest awaits =>
      cases taken
      exact sound_of_awaitsCommand sound awaits _ _
  | case3 reading text _ name rest pending ih =>
      rcases ok_of_bind taken with ⟨after, operand, later⟩
      rw [List.forall_mem_cons, List.forall_mem_cons] at known
      exact ih after (sound_of_takeOperand sound pending operand) known.2.2 later
  | case4 reading text _ name rest _ pending ih =>
      rcases ok_of_bind taken with ⟨after, operand, later⟩
      rw [List.forall_mem_cons] at known
      exact ih after (sound_of_takeOperand sound pending operand) known.2 later
  | case5 reading text _ rest _ ih | case16 reading text rest ih =>
      rw [List.forall_mem_cons] at known
      exact ih ⟨sound.fits, sound.apart⟩ known.2 taken
  | case6 reading rest awaits =>
      cases taken
      rw [Bool.and_eq_true] at awaits
      exact sound_of_awaitsCommand sound awaits.1 _ _
  | case7 reading name text rest pending _ ih =>
      rcases ok_of_bind taken with ⟨after, operand, later⟩
      rw [List.forall_mem_cons, List.forall_mem_cons] at known
      exact ih after (sound_of_takeOperand sound pending operand) known.2.2 later
  | case9 reading rest _ _ _ ih =>
      rw [List.forall_mem_cons] at known
      exact ih ⟨sound.fits, sound.apart⟩ known.2 taken
  | case10 | case11 | case15 =>
      cases taken
  | case12 reading _ found text rest ih =>
      rcases ok_of_bind taken with ⟨after, valued, later⟩
      rw [List.forall_mem_cons] at known
      exact ih after (sound_of_takeValue sound known.1 valued) known.2 later
  | case13 reading _ found rest valueless ih =>
      rcases ok_of_bind taken with ⟨after, valued, later⟩
      rw [List.forall_mem_cons] at known
      have fits : Given.nothing.Fits found.value := by
        rw [valueless]
        trivial
      exact ih after (sound_of_takeGiven sound known.1 fits valued) known.2 later
  | case14 reading _ found _ text rest ih =>
      rcases ok_of_bind taken with ⟨after, valued, later⟩
      rw [List.forall_mem_cons, List.forall_mem_cons] at known
      exact ih after (sound_of_takeValue sound known.1 valued) known.2.2 later

theorem sound_empty (interface : Interface) : Reading.empty.Sound interface := by
  constructor
  · intro entry member
    cases member
  · intro group _ one given
    cases operand : interface.operand <;> simp [Reading.names, Reading.empty, operand] at given

/-- What has been read to the end is in order, and of arguments that are needed one was given. -/
theorem complete_of_read
    {arguments : List String} (read : interface.read arguments = .ok result) :
    result.Sound interface ∧ ∀ group ∈ interface.groups, group.needed = true →
      ∃ name ∈ group.members, name ∈ result.names interface := by
  rcases ok_of_bind read with ⟨tokens, sorted, later⟩
  rcases ok_of_bind later with ⟨before, taken, finished⟩
  have known := known_of_tokens (ok_of_mapError sorted)
  have sound := sound_of_take (sound_empty interface) known taken
  have complete := ok_of_mapError finished
  unfold checkComplete at complete
  split at complete
  · cases complete
  · cases complete
  · split at complete
    · cases complete
    · rename_i none
      cases complete
      refine ⟨sound, fun group among needed => ?_⟩
      have passes := List.find?_eq_none.mp none group among
      rw [needed, Bool.true_and, Bool.not_eq_true', Bool.not_eq_false, List.any_eq_true] at passes
      rcases passes with ⟨name, member, given⟩
      exact ⟨name, member, List.contains_iff_mem.mp given⟩

end Interface

/-!
## What options were given
-/

namespace Reading

variable {interface : Interface} {reading : Reading}

theorem mem_of_given?
    {name : String} {given : Given} (found : reading.given? name = some given) :
    (name, given) ∈ reading.switches := by
  rcases List.lookup_eq_some_iff.mp found with ⟨before, after, split, _⟩
  have member : (name, given) ∈ reading.switches.reverse := by
    rw [split]
    exact List.mem_append_right _ List.mem_cons_self
  exact List.mem_reverse.mp member

theorem isSome_given?_iff (reading : Reading) (name : String) :
    (reading.given? name).isSome = true ↔ name ∈ reading.switches.map Prod.fst := by
  rw [given?, List.lookup_isSome_iff, List.mem_map]
  simp only [List.mem_reverse, beq_iff_eq, @eq_comm _ name]

theorem Sound.fits_of_given?
    (sound : reading.Sound interface) {name : String} {given : Given}
    (found : reading.given? name = some given) {kind : ValueKind}
    (only : ∀ known ∈ interface.switches, known.name = name → known.value = kind) :
    given.Fits kind := by
  rcases sound.fits _ (mem_of_given? found) with ⟨known, member, named, fits⟩
  rw [only known member named] at fits
  exact fits

theorem Sound.isSome_text?_iff
    (sound : reading.Sound interface) {name : String}
    (textual : ∀ known ∈ interface.switches, known.name = name → known.value = .text) :
    (reading.text? name).isSome = true ↔ name ∈ reading.switches.map Prod.fst := by
  rw [← isSome_given?_iff, text?]
  cases found : reading.given? name with
  | none =>
      exact Iff.rfl
  | some given =>
      have fits := sound.fits_of_given? found textual
      cases given with
      | text value =>
          exact Iff.rfl
      | nothing | count =>
          exact fits.elim

theorem Sound.positive_of_count?
    (sound : reading.Sound interface) {name : String} {value : Int}
    (counted : reading.count? name = some value) :
    1 ≤ value := by
  unfold count? at counted
  split at counted
  · rename_i number found
    cases counted
    rcases sound.fits _ (mem_of_given? found) with ⟨known, _, _, fits⟩
    cases kind : known.value with
    | count =>
        rw [kind] at fits
        exact fits
    | nothing | text =>
        rw [kind] at fits
        exact fits.elim
  · cases counted

end Reading

/-!
## Runs that are asked for
-/

/-- The options of a run say what to run, in one way only, and leave room for a step. -/
structure RunOptions.Definite (options : RunOptions) : Prop where
  file_or_template : options.file.isSome = true ∨ options.template.isSome = true
  not_both : options.file.isSome = true → options.template = none
  positive : ∀ steps, options.maxSteps = some steps → 1 ≤ steps

theorem mem_names_graph_iff
    {reading : Reading} (sound : reading.Sound runInterface) :
    "graph" ∈ reading.names runInterface ↔ reading.operand.isSome = true := by
  have noSwitch : "graph" ∉ reading.switches.map Prod.fst := by
    intro member
    rcases List.mem_map.mp member with ⟨entry, among, named⟩
    rcases sound.fits entry among with ⟨known, isSwitch, same, _⟩
    have none : ∀ known ∈ runInterface.switches, known.name ≠ "graph" := by decide
    exact none known isSwitch (same.trans named)
  unfold Reading.names
  rw [List.mem_append, or_iff_left noSwitch]
  cases reading.operand <;> simp [runInterface]

theorem mem_names_template_iff
    {reading : Reading} (sound : reading.Sound runInterface) :
    "--template" ∈ reading.names runInterface ↔
      (reading.text? "--template").isSome = true := by
  rw [sound.isSome_text?_iff (by decide), Reading.names, List.mem_append, or_iff_right]
  cases reading.operand <;> simp [runInterface]

theorem definite_runOptions
    {arguments : List String} {reading : Reading}
    (read : runInterface.read arguments = .ok reading) :
    (Command.runOptions reading).Definite := by
  rcases Interface.complete_of_read read with ⟨sound, needs⟩
  have sources : (⟨["graph", "--template"], true⟩ : Group) ∈ runInterface.groups :=
    List.mem_cons_self
  constructor
  · rcases needs _ sources rfl with ⟨name, member, given⟩
    simp only [List.mem_cons, List.not_mem_nil, or_false] at member
    rcases member with rfl | rfl
    · exact Or.inl ((mem_names_graph_iff sound).mp given)
    · exact Or.inr ((mem_names_template_iff sound).mp given)
  · intro filed
    rw [← Option.not_isSome_iff_eq_none]
    intro templated
    have same := sound.apart _ sources _ ((mem_names_graph_iff sound).mpr filed) _
      ((mem_names_template_iff sound).mpr templated) (by simp) (by simp)
    exact absurd same (by decide)
  · intro steps counted
    exact sound.positive_of_count? counted

theorem Command.definite_of_ofArguments
    {arguments : List String} {options : RunOptions}
    (accepted : Command.ofArguments arguments = .ok (.run options)) :
    options.Definite := by
  rcases ok_of_bind accepted with ⟨first, _, found⟩
  simp only at found
  split at found
  · cases found
  · rename_i interface listed
    rcases ok_of_bind found with ⟨reading, parsed, made⟩
    split at made
    · injection made with made
      unfold Command.ofReading at made
      split at made
      · rename_i named
        cases made
        rw [named] at listed
        cases listed
        exact definite_runOptions (ok_of_mapError parsed)
      · cases made
      · cases made
      · cases made
    · cases made

end CommandLine
end WorkflowWalk
