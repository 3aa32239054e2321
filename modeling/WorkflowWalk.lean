import WorkflowWalk.Main
import WorkflowWalk.Walk.Narration
import WorkflowWalk.Walk.Printer
import WorkflowWalk.Walk.Request
import WorkflowWalk.Check.Verdict
import WorkflowWalk.Document.BranchTag
import WorkflowWalk.Document.Canonical
import WorkflowWalk.Document.Printer
import WorkflowWalk.Document.Rejection
import WorkflowWalk.Flow.Cycle
import WorkflowWalk.Flow.Reachable
import WorkflowWalk.Flow.Report
import WorkflowWalk.Json.Literal
import WorkflowWalk.Json.Printer
import WorkflowWalk.Json.Reader
import WorkflowWalk.Text.Blank
import WorkflowWalk.Text.DecimalDigit
import WorkflowWalk.Text.LetterCase
import WorkflowWalk.Text.Printable
import WorkflowWalk.Text.Utf8
import WorkflowWalk.Text.Width
import WorkflowWalk.Template.Catalogue
import WorkflowWalk.Time.Iso8601
import WorkflowWalk.Verbosity
import WorkflowWalk.Proofs.Choice
import WorkflowWalk.Proofs.Document.Graph
import WorkflowWalk.Proofs.Document.Outline
import WorkflowWalk.Proofs.Document.BranchTag
import WorkflowWalk.Proofs.Walk.Rules
import WorkflowWalk.Proofs.Walk.Account
import WorkflowWalk.Proofs.Walk.Waypoints
import WorkflowWalk.Proofs.Walk.Bounds
import WorkflowWalk.Proofs.Walk.Ceiling
import WorkflowWalk.Proofs.Walk.Lockstep
import WorkflowWalk.Proofs.Flow.Acyclic
import WorkflowWalk.Proofs.Flow.Reachable
import WorkflowWalk.Proofs.Flow.Paths
import WorkflowWalk.Proofs.Walk.EdgeOrder
import WorkflowWalk.Proofs.Walk.Coverage
import WorkflowWalk.Proofs.Text.Blank
import WorkflowWalk.Proofs.Text.LetterCase
import WorkflowWalk.Proofs.Document.Canonical
import WorkflowWalk.Proofs.Document.Reader
import WorkflowWalk.Proofs.Check.Flow
import WorkflowWalk.Proofs.Check.Edges
import WorkflowWalk.Proofs.Check.Verdict
import WorkflowWalk.Proofs.Walk.Soundness
import WorkflowWalk.Proofs.Walk.Cycles
import WorkflowWalk.Proofs.Check.Paths
import WorkflowWalk.Proofs.Check.Spelling
import WorkflowWalk.Proofs.Document.Reading
import WorkflowWalk.Proofs.Document.Writable
import WorkflowWalk.Proofs.Check.Agreement
import WorkflowWalk.Proofs.Document.Saved
import WorkflowWalk.Proofs.Document.Spelling
import WorkflowWalk.Proofs.Document.RoundTrip
import WorkflowWalk.Proofs.Condition.Grammar
import WorkflowWalk.Proofs.Number.Order
import WorkflowWalk.Proofs.Condition.Laws
import WorkflowWalk.Proofs.Condition.Overflow
import WorkflowWalk.Proofs.Walk.Faults
import WorkflowWalk.Proofs.Walk.Summary
import WorkflowWalk.Proofs.Number.Text
import WorkflowWalk.Proofs.Json.Compact
import WorkflowWalk.Proofs.Json.KeyOrder
import WorkflowWalk.Proofs.Check.Hash
import WorkflowWalk.Proofs.Document.Keys
import WorkflowWalk.Proofs.Walk.Consistency
import WorkflowWalk.Proofs.Check.Defects
import WorkflowWalk.Proofs.Json.Reading
import WorkflowWalk.Proofs.CommandLine.Arguments
import WorkflowWalk.Proofs.CommandLine.Session
import WorkflowWalk.Proofs.Flow.Enumeration
import WorkflowWalk.Proofs.Selection
import WorkflowWalk.Proofs.Flow.Before
import WorkflowWalk.Proofs.Walk.Order
import WorkflowWalk.Proofs.Document.NormalForm
import WorkflowWalk.Proofs.Document.EdgeIds
import WorkflowWalk.Proofs.Document.Schema
import WorkflowWalk.Proofs.Document.Accepted
import WorkflowWalk.Proofs.Walk.Watched
import WorkflowWalk.Proofs.Document.Places
import WorkflowWalk.Proofs.Document.Flaws
import WorkflowWalk.Proofs.Check.Pinpoint
import WorkflowWalk.Proofs.Document.Repeats
import WorkflowWalk.Proofs.Walk.Strict
import WorkflowWalk.Proofs.Number.Rounding
import WorkflowWalk.Proofs.Condition.Thresholds
import WorkflowWalk.Proofs.Walk.Ticks
import WorkflowWalk.Proofs.Check.Rendering
import WorkflowWalk.Proofs.Flow.CycleSearch
import WorkflowWalk.Proofs.Flow.Gathering
import WorkflowWalk.Proofs.Check.Unreached
import WorkflowWalk.Proofs.Document.Index
import WorkflowWalk.Proofs.Text.Point
