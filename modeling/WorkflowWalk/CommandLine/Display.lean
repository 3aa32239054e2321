import WorkflowWalk.Check.Verdict
import WorkflowWalk.Flow.Report
import WorkflowWalk.Number.Shortest
import WorkflowWalk.Template.Catalogue
import WorkflowWalk.Text.Table
import WorkflowWalk.Walk.Printer

/-!
# What is displayed

The texts that are printed for traces, verdicts, reports and templates, each for a terminal or as a
JSON text. Texts are printed one after the other, each with a line feed behind it.
-/

namespace WorkflowWalk
namespace CommandLine

open Text Walk

/-! ## Blocks -/

def orElse (text other : String) : String :=
  if text = "" then other else text

def valuesBlock (heading : String) (values : List (String × String)) : List String :=
  heading :: values.map (fun (name, value) => "- " ++ name ++ ": " ++ value) ++ [""]

def listBlock (heading : String) (items : List String) : List String :=
  match items with
  | [] => [heading, "- (none)", ""]
  | _ => heading :: items.map ("- " ++ ·) ++ [""]

def arrows (texts : List String) : String :=
  String.intercalate " -> " texts

/-! ## Traces -/

def liveText (step : Step) : String :=
  "[" ++ toString step.index ++ "] " ++ step.label ++ " (" ++ step.kind ++ ")"

def actionText (result : ActionResult) : String :=
  result.item.type ++ ": " ++ result.item.title

def detail (step : Step) : String :=
  match step.outcome with
  | .level _ _ steps => orElse (String.intercalate ", " steps) "-"
  | .action results => orElse (String.intercalate "; " (results.map actionText)) "-"
  | .condition _ => (step.branch.map ("branch: " ++ ·)).getD "no branch matched"

def stepRow (step : Step) : List String :=
  [toString step.index, step.label, step.kind, detail step, orElse (step.next.getD "") "-"]

def traceTable (trace : Trace) : Table where
  title := "Execution Trace"
  columns := [⟨"#", true⟩, ⟨"Node", false⟩, ⟨"Kind", false⟩, ⟨"Detail", false⟩, ⟨"Next", false⟩]
  rows := trace.steps.map stepRow

def summaryValues (trace : Trace) : List (String × String) :=
  [("status", if trace.success then "success" else "failed"),
    ("steps", toString trace.summary.totalSteps),
    ("path", orElse (arrows trace.summary.executionPath) "(empty)"),
    ("terminated by", trace.summary.terminatedBy)] ++
  (trace.summary.duration.map fun duration =>
    ("duration", duration.text Json.literalNumberNames ++ " ms")).toList

def failureText (error : ErrorRecord) : String :=
  let place := (Diagnostic.given? error.nodeId).elim "" fun id => " at node '" ++ id ++ "'"
  "Run failed" ++ place ++ ": [" ++ error.code ++ "] " ++ error.message

def traceTexts (trace : Trace) : List String :=
  [(traceTable trace).text] ++ valuesBlock "Summary" (summaryValues trace) ++
    (trace.error.map failureText).toList

/-! ## Verdicts -/

def diagnosticJson (diagnostic : Diagnostic) : Json :=
  .obj [
    ("code", .str diagnostic.code),
    ("severity", .str diagnostic.severity.name),
    ("message", .str diagnostic.message),
    ("nodeId", .ofText? diagnostic.nodeId),
    ("path", .ofText? diagnostic.path),
    ("hint", .ofText? diagnostic.hint)]

def verdictJson (verdict : Verdict) : Json :=
  .obj [
    ("ok", .bool verdict.ok),
    ("compileHash", .ofText? verdict.hash),
    ("startNodeId", .ofText? verdict.start),
    ("diagnostics", .arr (verdict.diagnostics.map diagnosticJson))]

def verdictText (verdict : Verdict) : String :=
  if verdict.ok then
    "Workflow is valid (start: " ++ verdict.start.getD "None" ++ ", hash: " ++
      verdict.hash.getD "None" ++ ")."
  else
    "Workflow has " ++ toString verdict.errors.length ++ " error(s)."

def verdictTexts (verdict : Verdict) : List String :=
  (Diagnostic.given? (some (Diagnostic.render verdict.diagnostics true))).toList ++
    [verdictText verdict]

/-! ## Reports -/

def pathText (path : WorkflowWalk.Path) : String :=
  arrows path.nodeIds ++ if path.cyclic then " (cycle)" else ""

def pathTexts (report : Report) : List String :=
  report.paths.map pathText ++ if report.truncated then ["... (truncated)"] else []

def connectionsRow (connections : Connections) : List String :=
  [connections.label, connections.kind.name, toString connections.incoming,
    toString connections.outgoing, orElse (String.intercalate ", " connections.connectedTo) "-"]

def connectionsTable (report : Report) : Table where
  title := "Connections"
  columns :=
    [⟨"Node", false⟩, ⟨"Kind", false⟩, ⟨"In", true⟩, ⟨"Out", true⟩, ⟨"Connected To", false⟩]
  rows := report.connections.map connectionsRow

def reportTexts (report : Report) : List String :=
  valuesBlock "Workflow Analysis"
      [("nodes", toString report.nodeCount), ("edges", toString report.edgeCount),
        ("start node", report.start.getD "(none)")] ++
    listBlock "End Nodes" report.endNodes ++ listBlock "Paths" (pathTexts report) ++
    [(connectionsTable report).text]

/-! ## Templates -/

def templatesTable : Table where
  title := "Templates"
  columns := [⟨"ID", false⟩, ⟨"Name", false⟩, ⟨"Description", false⟩]
  rows := Template.catalogue.map fun template =>
    [template.id, template.name, template.description]

/-! ## Printing -/

def printed (texts : List String) : String :=
  String.ofList (texts.flatMap fun text => display text ++ ['\n'])

end CommandLine
end WorkflowWalk
