import WorkflowWalk.Context.Reader
import WorkflowWalk.Json.Literal
import WorkflowWalk.Settings
import WorkflowWalk.Walk.Trace

/-!
# Requests

What is checked before a run: first the limit of steps, then the document, then the context. The
limit and the context are given as values and taken in here.
-/

namespace WorkflowWalk
namespace Walk

/-! ## The limit of steps -/

inductive LimitFault
  | notNumber (kind : String)
  | nan
  | infinite
  | malformed (text : String)
  | digits (fault : Numeral.Fault)
  | tooSmall (limit : Int)
deriving DecidableEq, Repr

namespace LimitFault

/-- The most characters of a malformed numeral that are shown. -/
def shownLength : Nat := 200

def message : LimitFault → String
  | .notNumber kind =>
      "int() argument must be a string, a bytes-like object or a real number, not '" ++ kind ++ "'"
  | .nan => "cannot convert float NaN to integer"
  | .infinite => "cannot convert float infinity to integer"
  | .malformed text =>
      "invalid literal for int() with base 10: " ++
        String.ofList ((Json.literalString text).take shownLength)
  | .digits fault => fault.message
  | .tooSmall limit => "max_steps must be at least 1, got " ++ Numeral.decimal limit ++ "."

end LimitFault

namespace Limit

/-- The integer that a value stands for; a fraction is cut off. -/
def integer : Json → Except LimitFault Int
  | .int value => .ok value
  | .bool value => .ok (if value then 1 else 0)
  | .float .nan => .error .nan
  | .float value => value.truncate?.elim (.error .infinite) .ok
  | .str text =>
      match Numeral.readInteger text with
      | .ok value => .ok value
      | .error .malformed => .error (.malformed text)
      | .error (.limit fault) => .error (.digits fault)
  | other => .error (.notNumber (Document.valueKind other))

def check (value : Int) : Except LimitFault Nat :=
  if 1 ≤ value then .ok value.toNat
  else if Numeral.writable value then .error (.tooSmall value)
  else .error (.digits .tooLongToWrite)

def ofJson (settings : Settings) : Json → Except LimitFault Nat
  | .null => check settings.maxSteps
  | value => integer value >>= check

end Limit

/-! ## Requests -/

inductive Refusal
  | limit (fault : LimitFault)
  | document (rejection : Rejection)
  | context (fault : Context.Fault)

/-- What a run can be asked for with: a value, or a document that has been taken in before. -/
inductive Input
  | payload (value : Json)
  | parsed (document : Document)

def Input.load (strict : Bool) : Input → Except Rejection Document
  | .payload value => Document.load strict value
  | .parsed document => document.checkStrict strict

/-- A run that is asked for. The document is taken in only when the limit has been checked. -/
structure Request (ε : Type) where
  settings : Settings
  limit : Json
  document : Except Rejection Document
  context : Json
  clock : Clock
  observer : Observer ε

namespace Request

variable {ε : Type}

def withDocument (request : Request ε) (document : Except Rejection Document) : Request ε :=
  { request with document }

def withInput (request : Request ε) (input : Input) : Request ε :=
  request.withDocument (input.load request.settings.strictEdges)

def withValue (request : Request ε) (value : Json) : Request ε :=
  request.withDocument (Document.load request.settings.strictEdges value)

def setup (request : Request ε) : Except Refusal (Setup ε) := do
  let limit ← (Limit.ofJson request.settings request.limit).mapError .limit
  let document ← request.document.mapError .document
  let context ← (Context.ofJson request.context).mapError .context
  return { document, context, limit, clock := request.clock, observer := request.observer }

def account (request : Request ε) : Except Refusal (Except (Abort ε) Trace) :=
  Setup.execute <$> request.setup

end Request
end Walk
end WorkflowWalk
