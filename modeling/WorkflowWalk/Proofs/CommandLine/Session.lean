import WorkflowWalk.CommandLine.Session
import WorkflowWalk.Proofs.Check.Defects
import WorkflowWalk.Proofs.CommandLine.Arguments
import WorkflowWalk.Proofs.Json.Reading
import WorkflowWalk.Proofs.Walk.Faults

/-!
# How sessions exit

What a command can use is told here without regard to how it is looked for: which files hold an
object, what there is to run and in which context. A command exits as invalid exactly if there is
nothing that it can use, and else it succeeds or fails as what it uses does. Only a template with an
empty name is not dealt with so: it counts as no template, and then there may be no file either.
-/

namespace WorkflowWalk

/-!
## Limits of steps
-/

theorem Settings.one_le_maxSteps (environment : Environment) :
    1 ≤ (Settings.ofEnvironment environment).maxSteps := by
  unfold Settings.ofEnvironment
  simp only
  cases found : (environment.value? "FLOWREPLAY_MAX_STEPS").bind readMaxSteps? with
  | none =>
      decide
  | some value =>
      rcases Option.bind_eq_some_iff.mp found with ⟨text, _, read⟩
      unfold readMaxSteps? at read
      split at read
      · split at read
        · cases read
        · rename_i large
          cases read
          exact Int.not_lt.mp large
      · cases read

/-!
## Contexts
-/

theorem Context.writable_ofFields
    {fields : Fields} (writable : Json.writableFields fields = true) :
    (Context.ofFields fields).Writable := by
  intro entry member
  rcases List.mem_map.mp member with ⟨field, among, rfl⟩
  exact Json.writableFields_iff.mp writable field among

theorem Template.writable_firstContext
    {id : String} {template : Template} (found : Template.find? id = some template) :
    Json.writableFields template.firstContext = true := by
  have each : ∀ template ∈ Template.catalogue,
      Json.writableFields template.firstContext = true := by
    decide +kernel
  exact each template (List.mem_of_find?_eq_some found)

theorem Diagnostic.given?_of_ne
    {text : Option String} (named : text ≠ some "") :
    Diagnostic.given? text = text := by
  cases text with
  | none =>
      rfl
  | some id =>
      refine Option.filter_eq_some_iff.mpr ⟨rfl, decide_eq_true ?_⟩
      rintro rfl
      exact named rfl

namespace CommandLine

open Walk

/-!
## Troubles
-/

/-- A trouble that a session gets over: it is reported, and the session exits. -/
def Trouble.Reported : Trouble → Prop
  | .crash _ => False
  | _ => True

theorem Trouble.Reported.ending
    {trouble : Trouble} (reported : trouble.Reported) :
    (Reply.ofTrouble trouble).ending = .ok .invalidInput := by
  cases trouble with
  | rejected rejection =>
      cases rejection <;> rfl
  | error =>
      rfl
  | crash =>
      exact reported.elim

/-!
## Printing
-/

theorem Reply.on_of_taken
    {console : Console} {reply : Reply} (taken : ∀ text ∈ reply.printed, console text = none) :
    reply.on console = reply := by
  have live : ∀ text ∈ reply.live, (console text).isNone = true := fun text member =>
    Option.isNone_iff_eq_none.mpr (taken text (List.mem_append_left _ member))
  have texts : ∀ text ∈ reply.texts, (console text).isNone = true := fun text member =>
    Option.isNone_iff_eq_none.mpr (taken text (List.mem_append_right _ member))
  have none : reply.printed.findSome? console = none := List.findSome?_eq_none_iff.mpr taken
  rw [Reply.on]
  simp only [none, List.all_eq_true.mpr live, if_true, List.takeWhile_eq_self_iff.mpr live,
    List.takeWhile_eq_self_iff.mpr texts]

namespace Surroundings

variable {surroundings : Surroundings}

/-!
## Files
-/

def Locates (surroundings : Surroundings) (path : String) : Prop :=
  ((Location.ofText path).expandHome? surroundings.environment).isSome = true

def Holds (surroundings : Surroundings) (path : String) (fields : Fields) : Prop :=
  ∃ location bytes text,
    (Location.ofText path).expandHome? surroundings.environment = some location ∧
    surroundings.files location = .ok bytes ∧ decodeText bytes = .ok text ∧
    Json.read text = .ok (.obj fields)

theorem Holds.writable
    {path : String} {fields : Fields} (holds : surroundings.Holds path fields) :
    Json.writableFields fields = true := by
  rcases holds with ⟨_, _, _, _, _, _, read⟩
  exact Json.writable_of_read read

theorem parseObject_eq_ok_iff
    {text what : String} {fields : Fields} :
    parseObject text what = .ok fields ↔ Json.read text = .ok (.obj fields) := by
  unfold parseObject
  split
  · rename_i found read
    rw [read]
    simp
  · rename_i found other read
    rw [read]
    simp only [reduceCtorEq, Except.ok.injEq, false_iff]
    exact other fields
  · rename_i fault read
    simp [read]
  · rename_i fault _ read
    simp [read]

theorem reported_of_parseObject
    {text what : String} {trouble : Trouble} (failed : parseObject text what = .error trouble) :
    trouble.Reported := by
  unfold parseObject at failed
  split at failed <;> cases failed <;> trivial

theorem reported_openTrouble (what path : String) (fault : OpenFault) :
    (openTrouble what path fault).Reported := by
  cases fault <;> trivial

theorem readObject_eq_ok_iff
    {what path : String} {fields : Fields} :
    surroundings.readObject what path = .ok fields ↔ surroundings.Holds path fields := by
  constructor
  · intro read
    rcases ok_of_bind read with ⟨text, opened, parsed⟩
    unfold readText at opened
    simp only at opened
    split at opened
    · cases opened
    · rename_i location expanded
      rcases ok_of_bind opened with ⟨bytes, found, decoded⟩
      exact ⟨location, bytes, text, expanded, ok_of_mapError found, ok_of_mapError decoded,
        parseObject_eq_ok_iff.mp parsed⟩
  · rintro ⟨location, bytes, text, expanded, found, decoded, read⟩
    have opened : surroundings.readText what path = .ok text := by
      unfold readText
      simp only [expanded, found, Except.mapError]
      show (decodeText bytes).mapError _ = _
      rw [decoded]
      rfl
    rw [readObject, opened]
    exact parseObject_eq_ok_iff.mpr read

theorem reported_of_readObject
    {what path : String} (located : surroundings.Locates path) {trouble : Trouble}
    (failed : surroundings.readObject what path = .error trouble) :
    trouble.Reported := by
  rcases error_of_bind failed with opening | ⟨text, _, parsing⟩
  · unfold readText at opening
    simp only at opening
    split at opening
    · rename_i unknown
      rw [Locates, unknown] at located
      cases located
    · rcases error_of_bind opening with unopened | ⟨bytes, _, undecoded⟩
      · rcases error_of_mapError unopened with ⟨fault, _, rfl⟩
        exact reported_openTrouble what path fault
      · rcases error_of_mapError undecoded with ⟨fault, _, rfl⟩
        trivial
  · exact reported_of_parseObject parsing

/-!
## What to run
-/

/-- What the options of a run give to run: a template with a context of its own, or the document
that a file holds. -/
inductive GivesSubject (surroundings : Surroundings) (options : RunOptions) : Subject → Prop
  | template {id : String} {template : Template} {document : Document}
      (named : options.template = some id) (found : Template.find? id = some template)
      (loaded : template.load surroundings.settings.strictEdges = .ok document) :
      GivesSubject surroundings options ⟨document, .ofFields template.firstContext⟩
  | file {path : String} {fields : Fields} {document : Document}
      (named : options.file = some path) (holds : surroundings.Holds path fields)
      (loaded : Document.load surroundings.settings.strictEdges (.obj fields) = .ok document) :
      GivesSubject surroundings options ⟨document, []⟩

inductive GivesContext (surroundings : Surroundings) (options : RunOptions) (usual : Context) :
    Context → Prop
  | text {text : String} {fields : Fields} (written : options.context = some text)
      (read : Json.read text = .ok (.obj fields)) :
      GivesContext surroundings options usual (.ofFields fields)
  | file {path : String} {fields : Fields} (unwritten : options.context = none)
      (named : options.contextFile = some path) (holds : surroundings.Holds path fields) :
      GivesContext surroundings options usual (.ofFields fields)
  | usual (unwritten : options.context = none) (unnamed : options.contextFile = none) :
      GivesContext surroundings options usual usual

structure Sets (surroundings : Surroundings) (options : RunOptions) (setup : Setup Empty) :
    Prop where
  given : ∃ subject, surroundings.GivesSubject options subject ∧
    setup.document = subject.document ∧
    surroundings.GivesContext options subject.context setup.context
  limit : (setup.limit : Int) = options.maxSteps.getD surroundings.settings.maxSteps
  clock : setup.clock = surroundings.clock
  observer : setup.observer = silent

section Runs

variable {options : RunOptions}

theorem subject_eq_ok_iff
    (definite : options.Definite) {subject : Subject} :
    surroundings.subject options = .ok subject ↔ surroundings.GivesSubject options subject := by
  constructor
  · intro found
    unfold Surroundings.subject at found
    split at found
    · rename_i id given
      have named : options.template = some id := (Option.filter_eq_some_iff.mp given).1
      unfold templateSubject at found
      split at found
      · cases found
      · rename_i template known
        rcases ok_of_bind found with ⟨document, loaded, made⟩
        cases made
        exact .template named known (ok_of_mapError loaded)
    · unfold fileSubject at found
      split at found
      · cases found
      · rename_i path named
        rcases ok_of_bind found with ⟨fields, read, later⟩
        rcases ok_of_bind later with ⟨document, loaded, made⟩
        cases made
        exact .file named (readObject_eq_ok_iff.mp read) (ok_of_mapError loaded)
  · intro gives
    unfold Surroundings.subject
    cases gives with
    | @template id template document named found loaded =>
        have proper : options.template ≠ some "" := by
          intro empty
          rw [named] at empty
          cases empty
          cases found
        rw [Diagnostic.given?_of_ne proper, named]
        simp only [templateSubject, found, loaded]
        rfl
    | @file path fields document named holds loaded =>
        have untemplated : options.template = none := definite.not_both (by rw [named]; rfl)
        rw [untemplated]
        show surroundings.fileSubject options.file = _
        rw [named]
        simp only [fileSubject, readObject_eq_ok_iff.mpr holds, bind, Except.bind, loaded]
        rfl

theorem reported_of_subject
    (definite : options.Definite) (named : options.template ≠ some "")
    (located : ∀ path ∈ options.file, surroundings.Locates path) {trouble : Trouble}
    (failed : surroundings.subject options = .error trouble) :
    trouble.Reported := by
  unfold Surroundings.subject at failed
  split at failed
  · unfold templateSubject at failed
    split at failed
    · cases failed
      trivial
    · rcases error_of_bind failed with unloaded | ⟨document, _, made⟩
      · rcases error_of_mapError unloaded with ⟨rejection, _, rfl⟩
        trivial
      · cases made
  · rename_i ungiven
    unfold fileSubject at failed
    split at failed
    · rename_i fileless
      rcases definite.file_or_template with filed | templated
      · rw [fileless] at filed
        cases filed
      · rw [Diagnostic.given?_of_ne named] at ungiven
        rw [ungiven] at templated
        cases templated
    · rename_i path filed
      rcases error_of_bind failed with unread | ⟨fields, _, later⟩
      · exact reported_of_readObject (located path filed) unread
      · rcases error_of_bind later with unloaded | ⟨document, _, made⟩
        · rcases error_of_mapError unloaded with ⟨rejection, _, rfl⟩
          trivial
        · cases made

theorem context_eq_ok_iff
    {usual context : Context} :
    surroundings.context options usual = .ok context ↔
      surroundings.GivesContext options usual context := by
  constructor
  · intro found
    unfold Surroundings.context at found
    split at found
    · rename_i text _ written
      rcases ok_of_map found with ⟨fields, parsed, rfl⟩
      exact .text written (parseObject_eq_ok_iff.mp parsed)
    · rename_i path unwritten named
      rcases ok_of_map found with ⟨fields, read, rfl⟩
      exact .file unwritten named (readObject_eq_ok_iff.mp read)
    · rename_i unwritten unnamed
      cases found
      exact .usual unwritten unnamed
  · intro gives
    unfold Surroundings.context
    cases gives with
    | text written read =>
        rw [written]
        simp only [parseObject_eq_ok_iff.mpr read]
        rfl
    | file unwritten named holds =>
        rw [unwritten, named]
        simp only [readObject_eq_ok_iff.mpr holds]
        rfl
    | usual unwritten unnamed =>
        rw [unwritten, unnamed]

theorem reported_of_context
    (located : ∀ path ∈ options.contextFile, surroundings.Locates path) {usual : Context}
    {trouble : Trouble} (failed : surroundings.context options usual = .error trouble) :
    trouble.Reported := by
  unfold Surroundings.context at failed
  split at failed
  · exact reported_of_parseObject (error_of_map failed)
  · rename_i path _ named
    exact reported_of_readObject (located path named) (error_of_map failed)
  · cases failed

theorem one_le_limit (definite : options.Definite) (surroundings : Surroundings) :
    1 ≤ options.maxSteps.getD surroundings.settings.maxSteps := by
  cases asked : options.maxSteps with
  | none =>
      exact Settings.one_le_maxSteps surroundings.environment
  | some steps =>
      exact definite.positive steps asked

theorem setup_eq_ok_iff
    (definite : options.Definite) {setup : Setup Empty} :
    surroundings.setup options = .ok setup ↔ surroundings.Sets options setup := by
  have positive := one_le_limit definite surroundings
  have checked := Limit.check_of_positive positive
  constructor
  · intro made
    rcases ok_of_bind made with ⟨subject, found, later⟩
    rcases ok_of_bind later with ⟨context, chosen, last⟩
    rcases ok_of_bind last with ⟨limit, limited, built⟩
    have isLimit := ok_of_mapError limited
    rw [checked] at isLimit
    cases isLimit
    cases built
    exact {
      given := ⟨subject, (subject_eq_ok_iff definite).mp found, rfl, context_eq_ok_iff.mp chosen⟩
      limit := Int.toNat_of_nonneg (Int.le_trans (by decide) positive)
      clock := rfl
      observer := rfl }
  · rintro ⟨⟨subject, gives, document, context⟩, limit, clock, observer⟩
    rcases setup with ⟨_, _, bound, _, _⟩
    cases document
    cases clock
    cases observer
    have isLimit : (options.maxSteps.getD surroundings.settings.maxSteps).toNat = bound := by
      rw [← limit]
      exact Int.toNat_natCast bound
    unfold Surroundings.setup
    simp only [(subject_eq_ok_iff definite).mpr gives, context_eq_ok_iff.mpr context, checked,
      isLimit, bind, Except.bind]
    rfl

theorem reported_of_setup
    (definite : options.Definite) (named : options.template ≠ some "")
    (located : ∀ path ∈ options.file.toList ++ options.contextFile.toList,
      surroundings.Locates path)
    {trouble : Trouble} (failed : surroundings.setup options = .error trouble) :
    trouble.Reported := by
  rcases error_of_bind failed with unfound | ⟨subject, _, later⟩
  · refine reported_of_subject definite named (fun path filed => ?_) unfound
    exact located path (List.mem_append_left _ (Option.mem_toList.mpr filed))
  rcases error_of_bind later with unchosen | ⟨context, _, last⟩
  · refine reported_of_context (fun path filed => ?_) unchosen
    exact located path (List.mem_append_right _ (Option.mem_toList.mpr filed))
  rcases error_of_bind last with unlimited | ⟨limit, _, built⟩
  · rcases error_of_mapError unlimited with ⟨fault, _, rfl⟩
    trivial
  · cases built

theorem Sets.plain
    {setup : Setup Empty} (definite : options.Definite) (sets : surroundings.Sets options setup) :
    setup.Plain where
  quiet step := by
    rw [sets.observer]
    rfl
  writable := by
    rcases sets.given with ⟨subject, gives, _, context⟩
    have usual : subject.context.Writable := by
      cases gives with
      | template _ found _ =>
          exact Context.writable_ofFields (Template.writable_firstContext found)
      | file =>
          intro entry member
          cases member
    generalize setup.context = chosen at context
    cases context with
    | text _ read =>
        exact Context.writable_ofFields (Json.writable_of_read read)
    | file _ _ holds =>
        exact Context.writable_ofFields holds.writable
    | usual =>
        exact usual
  positive := by
    have positive := one_le_limit definite surroundings
    rw [← sets.limit] at positive
    exact Int.ofNat_le.mp positive

theorem Sets.exists_trace
    {setup : Setup Empty} (definite : options.Definite) (sets : surroundings.Sets options setup)
    (uniform : surroundings.clock.Uniform) :
    ∃ trace, setup.execute = .ok trace := by
  rw [← sets.clock] at uniform
  have yields : setup.Yields fun _ => True := (sets.plain definite).yields fun _ _ => trivial
  rcases yields.exists_trace uniform with ⟨trace, executed, _⟩
  exact ⟨trace, executed⟩

end Runs

end Surroundings

def Command.Nameless : Command → Prop
  | .run options => options.template = some ""
  | .templates shown => shown = some ""
  | _ => False

/-!
## Exits
-/

/-- A command exits with 2 exactly if there is nothing that it can use. Else it exits with 0 or 1 as
what it uses succeeds or fails. -/
structure Exit.Follows {α : Type} (exit : Exit) (usable : α → Prop) (comesTo : α → Bool → Prop) :
    Prop where
  invalid_iff : exit.code = 2 ↔ ¬∃ used, usable used
  success_or_failure : ∀ used, usable used →
    ∃ success, comesTo used success ∧ exit.code = if success then 0 else 1

theorem Exit.code_ofSuccess (success : Bool) :
    (Exit.ofSuccess success).code = if success then 0 else 1 := by
  cases success <;> rfl

/-- An attempt that works with what is usable, and meets a trouble that is reported if nothing is,
comes to the exit that follows. -/
theorem Reply.exists_exit
    {α : Type} {usable : α → Prop} {comesTo : α → Bool → Prop} {attempt : Except Trouble Reply}
    (works : ∀ used, usable used → ∃ reply success,
      attempt = .ok reply ∧ reply.ending = .ok (.ofSuccess success) ∧ comesTo used success)
    (fails : (¬∃ used, usable used) → ∃ trouble, attempt = .error trouble ∧ trouble.Reported) :
    ∃ exit, (Reply.ofExcept attempt).ending = .ok exit ∧ exit.Follows usable comesTo := by
  by_cases usable : ∃ used, usable used
  · rcases usable with ⟨used, isUsable⟩
    rcases works used isUsable with ⟨reply, success, replied, ends, _⟩
    rw [replied]
    refine ⟨.ofSuccess success, ends, iff_of_false ?_ (not_not_intro ⟨used, isUsable⟩), ?_⟩
    · cases success <;> decide
    · intro other otherUsable
      rcases works other otherUsable with ⟨again, outcome, repliedToo, endsToo, comes⟩
      rw [replied] at repliedToo
      cases repliedToo
      rw [ends] at endsToo
      injection endsToo with same
      exact ⟨outcome, comes, by rw [same, Exit.code_ofSuccess]⟩
  · rcases fails usable with ⟨trouble, met, reported⟩
    rw [met]
    refine ⟨.invalidInput, reported.ending, iff_of_true rfl usable, ?_⟩
    intro used isUsable
    exact absurd ⟨used, isUsable⟩ usable

namespace Surroundings

variable {surroundings : Surroundings}

/-- A file holds an object that can be checked: if it is a document, none of its tags is too long to
be read, and its saved form has no half of a surrogate pair in it. -/
def HoldsCheckable (surroundings : Surroundings) (path : String) (fields : Fields) : Prop :=
  surroundings.Holds path fields ∧
    ∀ document, Document.ofFields fields = .ok document →
      ¬document.HasEndlessTag ∧ document.payload.whole = true

def HoldsDocument (surroundings : Surroundings) (path : String) (document : Document) : Prop :=
  ∃ fields, surroundings.Holds path fields ∧ Document.load false (.obj fields) = .ok document

inductive Shows : Option String → Option Template → Prop
  | all : Shows none none
  | one {id : String} {template : Template} (found : Template.find? id = some template) :
      Shows (some id) (some template)

/-- How a command exits, said without regard to how it goes about it. -/
def Exits (surroundings : Surroundings) (exit : Exit) : Command → Prop
  | .run options =>
      exit.Follows (surroundings.Sets options) fun setup success =>
        ∃ trace, setup.execute = .ok trace ∧ trace.success = success
  | .validate path _ =>
      exit.Follows (surroundings.HoldsCheckable path) fun fields success =>
        ∃ verdict, Check.verdict (.obj fields) = .ok verdict ∧ verdict.ok = success
  | .analyze path _ =>
      exit.Follows (surroundings.HoldsDocument path) fun _ success => success = true
  | .templates shown =>
      exit.Follows (Shows shown) fun _ success => success = true

theorem exits_run
    {options : RunOptions} (definite : options.Definite) (named : options.template ≠ some "")
    (located : ∀ path ∈ options.file.toList ++ options.contextFile.toList,
      surroundings.Locates path)
    (uniform : surroundings.clock.Uniform) :
    ∃ exit, (surroundings.reply (.run options)).ending = .ok exit ∧
      surroundings.Exits exit (.run options) := by
  show ∃ exit, (Reply.ofExcept (surroundings.run options)).ending = .ok exit ∧
    exit.Follows (surroundings.Sets options) _
  refine Reply.exists_exit ?_ ?_
  · intro setup sets
    rcases sets.exists_trace definite uniform with ⟨trace, executed⟩
    refine ⟨runReply options setup, trace.success, ?_, ?_, trace, executed, rfl⟩
    · rw [Surroundings.run, (setup_eq_ok_iff definite).mpr sets]
      rfl
    · unfold runReply
      rw [executed]
      rfl
  · intro unset
    rw [Surroundings.run]
    cases made : surroundings.setup options with
    | ok setup =>
        exact absurd ⟨setup, (setup_eq_ok_iff definite).mp made⟩ unset
    | error trouble =>
        exact ⟨trouble, rfl, reported_of_setup definite named located made⟩

theorem exits_validate
    {path : String} (located : surroundings.Locates path) (asJson : Bool) :
    ∃ exit, (surroundings.reply (.validate path asJson)).ending = .ok exit ∧
      surroundings.Exits exit (.validate path asJson) := by
  show ∃ exit, (Reply.ofExcept (surroundings.validate path asJson)).ending = .ok exit ∧
    exit.Follows (surroundings.HoldsCheckable path) _
  refine Reply.exists_exit ?_ ?_
  · rintro fields ⟨holds, checkable⟩
    have judged : ∃ verdict, Check.verdict (.obj fields) = .ok verdict := by
      cases read : Document.ofFields fields with
      | ok document =>
          rcases checkable document read with ⟨readable, whole⟩
          rcases Check.exists_verdict holds.writable read readable whole with ⟨verdict, judged, _⟩
          exact ⟨verdict, judged⟩
      | error rejection =>
          rw [Check.verdict_of_writable holds.writable, read]
          exact ⟨_, rfl⟩
    rcases judged with ⟨verdict, judged⟩
    rw [Surroundings.validate, readObject_eq_ok_iff.mpr holds]
    simp only [bind, Except.bind, judged]
    exact ⟨_, verdict.ok, rfl, rfl, verdict, rfl, rfl⟩
  · intro unusable
    rw [Surroundings.validate]
    cases read : surroundings.readObject "workflow file" path with
    | error trouble =>
        exact ⟨trouble, rfl, reported_of_readObject located read⟩
    | ok fields =>
        have holds := readObject_eq_ok_iff.mp read
        have broken : ∃ document, Document.ofFields fields = .ok document ∧
            ¬(¬document.HasEndlessTag ∧ document.payload.whole = true) := by
          by_contra none
          refine unusable ⟨fields, holds, fun document taken => ?_⟩
          by_contra unchecked
          exact none ⟨document, taken, unchecked⟩
        rcases broken with ⟨document, taken, unchecked⟩
        rcases Check.exists_fault holds.writable taken unchecked with ⟨fault, unjudged⟩
        simp only [bind, Except.bind, unjudged]
        exact ⟨_, rfl, trivial⟩

theorem exits_analyze
    {path : String} (located : surroundings.Locates path) (asJson : Bool) :
    ∃ exit, (surroundings.reply (.analyze path asJson)).ending = .ok exit ∧
      surroundings.Exits exit (.analyze path asJson) := by
  show ∃ exit, (Reply.ofExcept (surroundings.analyze path asJson)).ending = .ok exit ∧
    exit.Follows (surroundings.HoldsDocument path) _
  refine Reply.exists_exit ?_ ?_
  · rintro document ⟨fields, holds, loaded⟩
    rw [Surroundings.analyze, readObject_eq_ok_iff.mpr holds]
    simp only [bind, Except.bind, loaded]
    exact ⟨_, true, rfl, rfl, rfl⟩
  · intro unusable
    rw [Surroundings.analyze]
    cases read : surroundings.readObject "workflow file" path with
    | error trouble =>
        exact ⟨trouble, rfl, reported_of_readObject located read⟩
    | ok fields =>
        simp only [bind, Except.bind]
        cases loaded : Document.load false (.obj fields) with
        | ok document =>
            exact absurd ⟨document, fields, readObject_eq_ok_iff.mp read, loaded⟩ unusable
        | error rejection =>
            exact ⟨_, rfl, trivial⟩

theorem exits_templates
    {shown : Option String} (named : shown ≠ some "") :
    ∃ exit, (surroundings.reply (.templates shown)).ending = .ok exit ∧
      surroundings.Exits exit (.templates shown) := by
  show ∃ exit, (Reply.ofExcept (templates shown)).ending = .ok exit ∧ exit.Follows (Shows shown) _
  rw [templates, Diagnostic.given?_of_ne named]
  refine Reply.exists_exit ?_ ?_
  · intro found shows
    cases shows with
    | all =>
        exact ⟨_, true, rfl, rfl, rfl⟩
    | one found =>
        simp only [found]
        exact ⟨_, true, rfl, rfl, rfl⟩
  · intro unusable
    cases shown with
    | none =>
        exact absurd ⟨none, .all⟩ unusable
    | some id =>
        simp only
        cases found : Template.find? id with
        | none =>
            exact ⟨_, rfl, trivial⟩
        | some template =>
            exact absurd ⟨some template, .one found⟩ unusable

theorem reply_run_nameless
    {options : RunOptions} (definite : options.Definite) (nameless : options.template = some "") :
    (surroundings.reply (.run options)).ending = .error .noFile := by
  have fileless : options.file = none := by
    by_contra filed
    have none := definite.not_both (Option.ne_none_iff_isSome.mp filed)
    rw [nameless] at none
    cases none
  have broken : surroundings.subject options = .error (.crash .noFile) := by
    rw [Surroundings.subject, nameless, fileless]
    rfl
  show (Reply.ofExcept (surroundings.run options)).ending = _
  rw [Surroundings.run, setup, broken]
  rfl

/-!
## Sessions
-/

theorem respond_of_taken
    {arguments : List String} {command : Command}
    (accepted : Command.ofArguments arguments = .ok command)
    (taken : ∀ text ∈ (surroundings.reply command).printed, surroundings.console text = none) :
    surroundings.respond arguments = .ok (surroundings.reply command) := by
  rw [respond, accepted]
  exact congrArg Except.ok (Reply.on_of_taken taken)

def atHome : Surroundings where
  environment := [("HOME", "/home/ann")]
  files location :=
    if location = ⟨"/", ["home", "ann", "context.json"]⟩ then .ok [123, 125] else .error .missing
  clock _ := "2024-01-01T00:00:00+00:00"
  console _ := none

def shortRun : List String :=
  ["run", "--template", "simple-linear", "--context-file", "~/context.json", "--max-steps=2"]

def shortRunOptions : RunOptions :=
  ⟨none, some "simple-linear", none, some "~/context.json", some 2, false, false⟩

def shortSetup (document : Document) : Setup Empty :=
  ⟨document, [], 2, atHome.clock, silent⟩

theorem shortSetup_fails :
    ∃ document trace, Template.simpleLinear.load false = .ok document ∧
      (shortSetup document).execute = .ok trace ∧ trace.success = false := by
  have ran : ((Template.simpleLinear.load false).toOption.bind fun document =>
      (shortSetup document).execute.toOption.map Trace.success) = some false := by
    decide +kernel
  rcases Option.bind_eq_some_iff.mp ran with ⟨document, loaded, rest⟩
  rcases Option.map_eq_some_iff.mp rest with ⟨trace, executed, failed⟩
  exact ⟨document, trace, ok_of_toOption loaded, ok_of_toOption executed, failed⟩

def namelessRunOptions : RunOptions :=
  ⟨none, some "", none, none, none, false, false⟩

end Surroundings
end CommandLine
end WorkflowWalk
