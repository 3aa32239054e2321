import WorkflowWalk.Check.Edges
import WorkflowWalk.Check.Flow
import WorkflowWalk.Digest.Sha256
import WorkflowWalk.Document.Printer
import WorkflowWalk.Notice

/-!
# Verdicts

Everything that is found out about a value that may be a document. It is brought to canonical
form; if it cannot be read, the problems are the findings. Else its edges and its flow are checked,
and it gets a hash of its saved form. A document is sound if none of the findings is an error.
-/

namespace WorkflowWalk

/-- What has been found out about a value that may be a document. -/
structure Verdict where
  findings : List Finding
  canonical : Option Fields
  document : Option Document
  hash : Option String
  start : Option String
  reachable : List String

namespace Verdict

def diagnostics (verdict : Verdict) : List Diagnostic :=
  verdict.findings.map Finding.diagnostic

def errors (verdict : Verdict) : List Diagnostic :=
  verdict.diagnostics.filter (·.severity = .error)

def warnings (verdict : Verdict) : List Diagnostic :=
  verdict.diagnostics.filter fun diagnostic =>
    diagnostic.severity = .warning ∨ diagnostic.severity = .info

def ok (verdict : Verdict) : Bool :=
  verdict.errors.isEmpty

def graph? (verdict : Verdict) : Option Document :=
  if verdict.ok then verdict.document else none

end Verdict

namespace Check

/-! ## Hashes -/

def version : String := "0.1.0"

def hashLength : Nat := 16

def hashed (document : Document) : Json :=
  .obj [("compiler_version", .str version), ("graph", document.payload)]

/-- The text that is hashed: compact, with sorted keys. -/
def hashedText (document : Document) : Except Numeral.Fault String :=
  let value := hashed document
  if value.writable then .ok value.sortKeys.compact else .error .tooLongToWrite

/-- The hash of a document. Documents with equal saved forms have equal hashes. A text with half of a
surrogate pair in it has no bytes and so no hash. -/
def hash (document : Document) : Except Numeral.Fault String := do
  let text ← hashedText document
  let plain ← (Text.plain? text).mapError .unpaired
  return ((Sha256.hex plain).take hashLength).toString

/-! ## Verdicts -/

def unsound (findings : List Finding) (canonical : Option Fields) : Verdict :=
  { findings, canonical, document := none, hash := none, start := none, reachable := [] }

/-- The verdict on a document, with the notes on the changes that it took. -/
def documentVerdict (notes : List Canonical.Note) (canonical : Fields) (document : Document) :
    Except Numeral.Fault Verdict := do
  let edges ← edgeFindings document
  let flow := document.flow
  let hash ← hash document
  return {
    findings := notes.map .normalized ++ edges ++ flowFindings document flow
    canonical := some canonical
    document := some document
    hash := some hash
    start := flow.start
    reachable := flow.reachable }

def verdict : Json → Except Numeral.Fault Verdict
  | .obj payload => do
      let (canonical, notes) ← Canonical.normalize? payload
      match Document.ofFields canonical with
      | .ok document => documentVerdict notes canonical document
      | .error (.limit fault) => throw fault
      | .error rejection =>
          return unsound (notes.map .normalized ++ rejection.errors.map .rejected) (some canonical)
  | _ => .ok (unsound [.notObject] none)

end Check

namespace Notice

def ofVerdict (verdict : Verdict) : List Notice :=
  match verdict.canonical, verdict.document with
  | some _, none =>
      let count := (verdict.diagnostics.filter (·.severity = .error)).length
      [{ topic := .compiler
         level := .debug
         text := "Schema validation failed with " ++ toString count ++ " error(s)." }]
  | _, _ => []

end Notice
end WorkflowWalk
