import WorkflowWalk.Proofs.Check.Defects
import WorkflowWalk.Proofs.Walk.Soundness
import WorkflowWalk.Proofs.Walk.Watched

/-!
# Loose ends and strict runs

An end of an edge is loose if it is no node. Loose ends are looked for in three places: a document
lists them, the check of the edges reports them, and a strict document must not have any. All three
find the same ones in the same order, unless a tag keeps the check from its end.

So a run that is asked for with strict edges is refused before its first step, or it never comes to
an id that no node has: it leaves a node only by an edge, and every edge leads to a node. Only the
callback can still make it fail with that error, by raising it.
-/

namespace WorkflowWalk

variable {σ ε : Type}

/-!
## Findings about loose ends
-/

def Finding.looseEnd? : Finding → Option (Edge × String)
  | .unknownSource edge => some (edge, edge.source)
  | .unknownTarget edge => some (edge, edge.target)
  | _ => none

def Diagnostic.isLooseEnd (diagnostic : Diagnostic) : Bool :=
  diagnostic.code = "EDGE_UNKNOWN_SOURCE" || diagnostic.code = "EDGE_UNKNOWN_TARGET"

inductive Diagnostic.Names (diagnostic : Diagnostic) (edge : Edge) : String → Prop
  | source (code : diagnostic.code = "EDGE_UNKNOWN_SOURCE")
      (path : diagnostic.path = some (Finding.edgePath edge.id "source"))
      (said : diagnostic.message =
        "Edge '" ++ edge.id ++ "' starts at unknown node '" ++ edge.source ++ "'.") :
      Names diagnostic edge edge.source
  | target (code : diagnostic.code = "EDGE_UNKNOWN_TARGET")
      (path : diagnostic.path = some (Finding.edgePath edge.id "target"))
      (said : diagnostic.message =
        "Edge '" ++ edge.id ++ "' points to unknown node '" ++ edge.target ++ "'.") :
      Names diagnostic edge edge.target

theorem Finding.isLooseEnd_diagnostic (finding : Finding) :
    finding.diagnostic.isLooseEnd = finding.looseEnd?.isSome := by
  cases finding with
  | normalized note =>
      cases note <;> simp [diagnostic, Diagnostic.isLooseEnd, looseEnd?, Canonical.Note.code]
  | _ =>
      simp [diagnostic, Diagnostic.isLooseEnd, looseEnd?]

theorem Finding.names_of_looseEnd?
    {finding : Finding} {edge : Edge} {missing : String}
    (loose : finding.looseEnd? = some (edge, missing)) :
    finding.diagnostic.Names edge missing := by
  cases finding with
  | unknownSource =>
      cases loose
      exact .source rfl rfl rfl
  | unknownTarget =>
      cases loose
      exact .target rfl rfl rfl
  | _ =>
      cases loose

theorem forall₂_looseEnds (findings : List Finding) :
    List.Forall₂ (fun (diagnostic : Diagnostic) (entry : Edge × String) =>
        diagnostic.Names entry.1 entry.2)
      ((findings.map Finding.diagnostic).filter Diagnostic.isLooseEnd)
      (findings.filterMap Finding.looseEnd?) := by
  induction findings with
  | nil =>
      exact .nil
  | cons finding rest ih =>
      have same := finding.isLooseEnd_diagnostic
      rw [List.map_cons, List.filter_cons, List.filterMap_cons, same]
      cases loose : finding.looseEnd? with
      | none =>
          exact ih
      | some entry =>
          exact .cons (Finding.names_of_looseEnd? loose) ih

/-!
## The check finds what the document lists
-/

namespace Check

variable {document : Document} {node : Node} {findings : List Finding}

theorem filterMap_looseEnd?_endFindings (document : Document) (edge : Edge) :
    (endFindings document edge).filterMap Finding.looseEnd? =
      (document.missingEnds edge).map (edge, ·) := by
  unfold endFindings Document.missingEnds
  cases source : document.hasNode edge.source <;> cases target : document.hasNode edge.target <;>
    simp [source, target, Finding.looseEnd?]

theorem looseEnd?_of_nodeFindings
    (checked : nodeFindings document node = .ok findings) {finding : Finding}
    (member : finding ∈ findings) :
    finding.looseEnd? = none := by
  rcases (mem_nodeFindings_iff checked).mp member with ⟨branches, _, defect⟩ | ⟨_, defect⟩
  · cases defect <;> rfl
  · cases defect <;> rfl

theorem filterMap_looseEnd?_edgeFindings
    (checked : edgeFindings document = .ok findings) :
    findings.filterMap Finding.looseEnd? = document.dangling := by
  rcases ok_of_map checked with ⟨perNode, each, rfl⟩
  have ofNodes : perNode.flatten.filterMap Finding.looseEnd? = [] := by
    rw [List.filterMap_eq_nil_iff]
    intro finding member
    rcases List.mem_flatten.mp member with ⟨own, among, here⟩
    rcases exists_item_of_mapM each among with ⟨node, _, nodeChecked⟩
    exact looseEnd?_of_nodeFindings nodeChecked here
  rw [List.filterMap_append, ofNodes, List.append_nil, List.filterMap_flatMap]
  simp only [filterMap_looseEnd?_endFindings]
  rfl

end Check

/-!
## Strict documents
-/

namespace Document

variable {document : Document}

theorem closed_of_tight
    (tight : document.dangling = []) :
    Walk.Closed document := by
  intro edge member
  by_contra unknown
  have loose := mem_dangling_iff.mpr ⟨member, Or.inr rfl, unknown⟩
  rw [tight] at loose
  cases loose

/-- The loose ends of a document are listed, reported in that order unless a tag is too long to be
read, and named in that order when a strict document is asked for. -/
structure AgreesOnLooseEnds (document : Document) : Prop where
  listed : ∀ edge missing, (edge, missing) ∈ document.dangling ↔
    edge ∈ document.edges ∧ (missing = edge.source ∨ missing = edge.target) ∧
      missing ∉ document.nodeIds
  reported : ∀ findings, Check.edgeFindings document = .ok findings →
    List.Forall₂ (fun (diagnostic : Diagnostic) (entry : Edge × String) =>
        diagnostic.Names entry.1 entry.2)
      ((findings.map Finding.diagnostic).filter Diagnostic.isLooseEnd) document.dangling
  unreported : (∃ fault, Check.edgeFindings document = .error fault) ↔ document.HasEndlessTag
  admitted : ∀ same, document.checkStrict true = .ok same ↔ document.dangling = [] ∧ same = document
  refused : ∀ rejection, document.checkStrict true = .error rejection →
    rejection = .dangling document.dangling ∧ rejection.errors =
      document.dangling.map fun (edge, missing) =>
        "Edge '" ++ edge.id ++ "' references unknown node '" ++ missing ++ "'."

theorem agreesOnLooseEnds (document : Document) :
    document.AgreesOnLooseEnds where
  listed _ _ := mem_dangling_iff
  reported findings checked := by
    rw [← Check.filterMap_looseEnd?_edgeFindings checked]
    exact forall₂_looseEnds findings
  unreported := Check.edgeFindings_error_iff
  admitted same := by
    constructor
    · intro admitted
      rcases tight_of_checkStrict admitted with ⟨rfl, tight⟩
      exact ⟨tight, rfl⟩
    · rintro ⟨tight, rfl⟩
      exact checkStrict_of_tight tight true
  refused rejection rejected := by
    by_cases tight : document.dangling = []
    · rw [checkStrict_of_tight tight] at rejected
      cases rejected
    · rw [checkStrict_of_loose tight] at rejected
      cases rejected
      exact ⟨rfl, rfl⟩

end Document

/-!
## Runs where no end is loose
-/

namespace Walk

theorem Setup.code_of_closed
    {setup : Setup ε} (quiet : ∀ step, setup.observer step = .proceed)
    (closed : Closed setup.document) {error : ErrorRecord}
    (fails : setup.run.ending.error? = some error) :
    error.code ≠ "NODE_NOT_FOUND" := by
  rcases Setup.run_cases_of_quiet quiet with ⟨_, runs⟩ | ⟨node, starts, walks | falters⟩
  · rw [runs] at fails
    cases fails
    simp [Failure.record, ErrorKind.code]
  · -- The run follows a trail of nodes, so only cycles and the limit can make it fail.
    rcases walks.failure_of_trail closed (.start starts) fails with ⟨code, _⟩ | ⟨code, _⟩
    · rw [code]
      simp
    · rw [code]
      simp
  · rcases falters.exists_fault with ⟨there, fault, ends, _⟩
    rw [ends] at fails
    cases fails

def Callback.RaisesLast (callback : Callback σ ε) (raised : Raised ε) (state : σ)
    (steps : List Step) : Prop :=
  ∃ earlier step, steps = earlier ++ [step] ∧
    callback.reaction (callback.afterAll state earlier) step = raised.reaction

theorem Reaction.exists_raised
    {reaction : Reaction ε} {stopped : Ending ε} (stops : reaction.ending? = some stopped) :
    ∃ raised : Raised ε, reaction = raised.reaction ∧ stopped = raised.ending := by
  cases reaction with
  | proceed =>
      cases stops
  | fail error =>
      cases stops
      exact ⟨.own error, rfl, rfl⟩
  | interrupt error =>
      cases stops
      exact ⟨.foreign error, rfl, rfl⟩

/-- A watched run ends like the run that nobody watches, or by an error that the callback raises in
the last call. -/
theorem Callback.ending_attend
    (callback : Callback σ ε) (ending : Ending ε) (state : σ) (steps : List Step) :
    (callback.attend ending state steps).run.ending = ending ∨
      ∃ raised, callback.RaisesLast raised state (callback.attend ending state steps).run.steps ∧
        (callback.attend ending state steps).run.ending = raised.ending := by
  induction steps generalizing state with
  | nil =>
      exact Or.inl rfl
  | cons step rest ih =>
      rw [attend]
      cases stops : (callback.reaction state step).ending? with
      | some stopped =>
          rcases Reaction.exists_raised stops with ⟨raised, reacted, ends⟩
          exact Or.inr ⟨raised, ⟨[], step, rfl, reacted⟩, ends⟩
      | none =>
          rcases ih (callback.after state step) with same | ⟨raised, last, ends⟩
          · exact Or.inl same
          · rcases last with ⟨earlier, told, split, reacted⟩
            have longer := congrArg (step :: ·) split
            exact Or.inr ⟨raised, ⟨step :: earlier, told, longer, reacted⟩, ends⟩

theorem Setup.raises_of_closed
    {setup : Setup ε} (closed : Closed setup.document) {callback : Callback σ ε} {state : σ}
    {error : ErrorRecord} (fails : (setup.watch callback state).run.ending.error? = some error)
    (code : error.code = "NODE_NOT_FOUND") :
    (setup.watch callback state).run.ending = .failed (.reported error) ∧
      callback.RaisesLast (.own error) state (setup.watch callback state).run.steps := by
  rw [watch_eq_attend] at fails ⊢
  have closedThere : Closed setup.unwatched.document := closed
  rcases callback.ending_attend setup.unwatched.run.ending state setup.unwatched.run.steps with
    same | ⟨raised, last, ends⟩
  · rw [same] at fails
    exact absurd code (Setup.code_of_closed (fun _ => rfl) closedThere fails)
  · rw [ends] at fails ⊢
    cases raised with
    | own =>
        cases fails
        exact ⟨rfl, last⟩
    | foreign =>
        cases fails

/-!
## Runs that are asked for with strict edges
-/

namespace Input

theorem load_eq_bind (strict : Bool) (input : Input) :
    input.load strict = input.load false >>= Document.checkStrict strict := by
  cases input with
  | payload value =>
      simp only [load, Document.load]
      cases Document.ofInput value <;> rfl
  | parsed =>
      rfl

end Input

namespace Request

theorem document_of_setup
    {request : Request ε} {setup : Setup ε} (begun : request.setup = .ok setup) :
    request.document = .ok setup.document := by
  rcases ok_of_bind begun with ⟨limit, _, afterLimit⟩
  rcases ok_of_bind afterLimit with ⟨document, taken, afterDocument⟩
  rcases ok_of_bind afterDocument with ⟨context, _, made⟩
  cases made
  exact ok_of_mapError taken

theorem setup_of_rejection
    {request : Request ε} {rejection : Rejection} (rejected : request.document = .error rejection) :
    ∃ refusal, request.setup = .error refusal ∧
      ∀ limit, Limit.ofJson request.settings request.limit = .ok limit →
        refusal = .document rejection := by
  cases limited : Limit.ofJson request.settings request.limit with
  | error fault =>
      refine ⟨.limit fault, ?_, ?_⟩
      · unfold setup
        rw [limited]
        rfl
      · intro limit allowed
        cases allowed
  | ok limit =>
      refine ⟨.document rejection, ?_, fun _ _ => rfl⟩
      unfold setup
      rw [limited, rejected]
      rfl

end Request

namespace Input

/-- No run is begun of what is rejected, so nothing is told to a callback. -/
def Refused (input : Input) (rejection : Rejection) : Prop :=
  ∀ {σ ε : Type} (request : Request ε), request.settings.strictEdges = true →
    ∀ (callback : Callback σ ε) (state : σ), ∃ refusal,
      (request.withInput input).watch callback state = .error refusal ∧
        (request.withInput input).accountWith callback state = .error refusal ∧
        ∀ limit, Limit.ofJson request.settings request.limit = .ok limit →
          refusal = .document rejection

/-- Whatever the context, the limit and the callback, runs do not come to an id that no node has. If
an account tells of such a failure, the callback has raised it. -/
structure KeepsToNodes (input : Input) : Prop where
  ends : ∀ {σ ε : Type} (request : Request ε), request.settings.strictEdges = true →
    ∀ (callback : Callback σ ε) (state : σ) (watched : Watched σ ε),
      (request.withInput input).watch callback state = .ok watched →
        ∀ id, watched.run.ending ≠ .failed (.nodeNotFound id)
  told : ∀ {σ ε : Type} (request : Request ε), request.settings.strictEdges = true →
    ∀ (callback : Callback σ ε) (state : σ) (trace : Trace),
      (request.withInput input).accountWith callback state = .ok (.ok trace) →
        trace.FailsWith "NODE_NOT_FOUND" →
          ∃ error, trace.error = some error ∧ callback.RaisesLast (.own error) state trace.steps

variable {input : Input} {document : Document}

theorem refused_of_load
    {rejection : Rejection} (rejected : input.load true = .error rejection) :
    input.Refused rejection := by
  intro σ ε request strict callback state
  have given : (request.withInput input).document = .error rejection := by
    rw [Request.withInput, strict]
    exact rejected
  rcases Request.setup_of_rejection given with ⟨refusal, refused, cause⟩
  refine ⟨refusal, ?_, ?_, cause⟩
  · rw [Request.watch, refused]
    rfl
  · rw [Request.accountWith, refused]
    rfl

theorem closed_of_setup
    {request : Request ε} (loaded : input.load true = .ok document)
    (tight : document.dangling = []) (strict : request.settings.strictEdges = true)
    {setup : Setup ε} (begun : (request.withInput input).setup = .ok setup) :
    Closed setup.document := by
  have given := Request.document_of_setup begun
  rw [Request.withInput, strict] at given
  cases loaded.symm.trans given
  exact Document.closed_of_tight tight

theorem keepsToNodes_of_load
    (loaded : input.load true = .ok document) (tight : document.dangling = []) :
    input.KeepsToNodes where
  ends request strict callback state watched made id := by
    rcases ok_of_map made with ⟨setup, begun, rfl⟩
    intro ends
    -- A failure with this code is one that the callback has raised, which is an ending of its own.
    have fails : (setup.watch callback state).run.ending.error? =
        some (Failure.nodeNotFound id).record := by
      rw [ends]
      rfl
    have raises := Setup.raises_of_closed (closed_of_setup loaded tight strict begun) fails rfl
    rw [ends] at raises
    cases raises.1
  told request strict callback state trace made fails := by
    rcases ok_of_map made with ⟨setup, begun, executed⟩
    rcases Run.tells_of_trace executed with ⟨tells, _⟩
    rcases fails with ⟨error, failed, code⟩
    refine ⟨error, failed, ?_⟩
    rw [tells.error] at failed
    rw [tells.steps]
    exact (Setup.raises_of_closed (closed_of_setup loaded tight strict begun) failed code).2

end Input

/-- The lists of loose ends agree on every document that a run can be asked for with. If edges have
to be strict, a run is refused before its first step, or the document has no loose end and no run of
it comes to an id that no node has. -/
theorem strict_agrees (input : Input) :
    (∀ document, input.load false = .ok document →
      document.AgreesOnLooseEnds ∧ input.load true = document.checkStrict true) ∧
      match input.load true with
      | .error rejection => input.Refused rejection
      | .ok document => document.dangling = [] ∧ input.KeepsToNodes := by
  have loads := input.load_eq_bind true
  constructor
  · intro document taken
    rw [taken] at loads
    exact ⟨document.agreesOnLooseEnds, loads⟩
  · cases loaded : input.load true with
    | error rejection =>
        exact Input.refused_of_load loaded
    | ok document =>
        rw [loaded] at loads
        rcases ok_of_bind loads.symm with ⟨given, _, admitted⟩
        have tight := (Document.tight_of_checkStrict admitted).2
        exact ⟨tight, Input.keepsToNodes_of_load loaded tight⟩

def lostEdge : Edge :=
  ⟨"g3", "nobody", "nowhere", none, by decide, by decide, by decide⟩

/-- A gate with a tag of 4301 ones, beside an edge of which both ends are loose. -/
def tornDocument : Document :=
  { Check.taggedDocument Check.longTag with
    edges := (Check.taggedDocument Check.longTag).edges ++ [lostEdge] }

def lonely : Document where
  nodes := [⟨"alone", "", .level none none [], [], by decide⟩]
  edges := []
  distinct := by decide

def strictRequest : Request String where
  settings := { Settings.default with strictEdges := true }
  limit := .int 5
  document := .error .notObject
  context := .obj []
  clock := fun _ => "2024-01-01T00:00:00+00:00"
  observer := silent

def lonelySetup : Setup String where
  document := lonely
  context := []
  limit := 5
  clock := strictRequest.clock
  observer := silent

def lonelyStep : Step :=
  ⟨1, "alone", "level", "alone", .level none none [], "2024-01-01T00:00:00+00:00", none, none⟩

theorem run_lonelySetup : lonelySetup.unwatched.run = ⟨[lonelyStep], .completed⟩ := by
  apply Option.some.inj
  rw [← lonelySetup.unwatched.runWithin_of_nodes]
  rfl

/-- Loose ends are listed but not reported if a tag keeps the check from its end. A strict run of a
document without loose ends fails like one that has come to an id that no node has if the callback
raises that error. -/
theorem strict_disagrees :
    (tornDocument.dangling = [(lostEdge, "nobody"), (lostEdge, "nowhere")] ∧
      ∃ fault, Check.edgeFindings tornDocument = .error fault) ∧
    (lonely.dangling = [] ∧ ∃ trace,
      (strictRequest.withInput (.parsed lonely)).accountWith (raisingAt 1 (.own ghostly)) 0 =
          .ok (.ok trace) ∧
        trace.FailsWith "NODE_NOT_FOUND") := by
  constructor
  · have endless : BranchTag.Endless Check.longTag := BranchTag.endless_replicate (Nat.le_refl _)
    exact ⟨rfl, Check.edgeFindings_error_iff.mpr ⟨Check.taggedGate, List.mem_cons_self, _, rfl,
      Check.taggedEdge Check.longTag, List.mem_cons_self, _, rfl, endless⟩⟩
  · refine ⟨rfl, ?_⟩
    have begun : (strictRequest.withInput (.parsed lonely)).setup = .ok lonelySetup := rfl
    have raises : (raisingAt 1 (.own ghostly)).RaisesAt (.own ghostly) 1 0 [lonelyStep] :=
      ⟨by decide, trivial, fun _ _ => rfl⟩
    have plain : lonelySetup.unwatched.Plain :=
      Setup.plain_unwatched (fun _ member => nomatch member) (by decide)
    rcases plain.summary_take (Clock.uniform_const _) 1 ghostly.ending with ⟨summary, summed⟩
    rw [run_lonelySetup] at summed
    refine ⟨⟨[lonelyStep], [], summary, some ghostly, some 5⟩, ?_, ghostly, rfl, rfl⟩
    have executed : lonelySetup.executeWith (raisingAt 1 (.own ghostly)) 0 =
        .ok ⟨[lonelyStep], [], summary, some ghostly, some 5⟩ := by
      rw [Setup.executeWith, Setup.watch_eq_attend, run_lonelySetup,
        raises.attend_of_long (by decide)]
      exact Run.trace_of_reported summed [] 5
    rw [Request.accountWith, begun]
    exact congrArg Except.ok executed

end Walk
end WorkflowWalk
