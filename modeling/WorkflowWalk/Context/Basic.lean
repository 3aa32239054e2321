import WorkflowWalk.Json.Literal

/-!
# Contexts

A context holds the values that conditions ask for. Values are filed under keys, and a condition
asks for a key that is a text. A context can hold other keys as well: no condition finds the values
under them, but an account of a run shows them.

Two numbers are one key if they are equal, whatever their kinds, and a truth value counts as a
number, one or nought. The number that is none equals no key, not even itself.
-/

namespace WorkflowWalk

/-! ## Keys -/

inductive Key
  | text (name : String)
  | nothing
  | truth (value : Bool)
  | whole (value : Int)
  | real (value : Binary64)
deriving DecidableEq, Repr

namespace Key

/-- The exact value of a key that is a finite number, in units of floating point numbers. -/
def units? : Key → Option Int
  | .truth value => some (if value then Binary64.unitsPerOne else 0)
  | .whole value => some (value * Binary64.unitsPerOne)
  | .real (.finite negative units) => some (if negative then -(units : Int) else units)
  | _ => none

def same (left right : Key) : Bool :=
  match left.units?, right.units? with
  | some m, some n => m == n
  | none, none => left == right && left != .real .nan
  | _, _ => false

def toJson : Key → Json
  | .text name => .str name
  | .nothing => .null
  | .truth value => .bool value
  | .whole value => .int value
  | .real value => .float value

def shown (key : Key) : String :=
  key.toJson.shown

theorem same_text (left right : String) :
    same (.text left) (.text right) = decide (left = right) := by
  by_cases h : left = right <;> simp [same, units?, h]

theorem same_comm (left right : Key) : left.same right = right.same left := by
  unfold same
  cases left.units? <;> cases right.units? <;> grind

end Key

/-! ## Entries -/

/-- Values under keys, in the order in which the keys first appeared. -/
abbrev Context := List (Key × Json)

namespace Context

def get? : Context → String → Option Json
  | [], _ => none
  | (key, value) :: rest, field => if key = .text field then some value else get? rest field

/-- Files a value under a key: in the place of the value that is there, else at the end. A key that
is there stays as it is. -/
def put (context : Context) (key : Key) (value : Json) : Context :=
  match context with
  | [] => [(key, value)]
  | (k, v) :: rest => if k.same key then (k, value) :: rest else (k, v) :: put rest key value

def ofFields (fields : Fields) : Context :=
  fields.map fun (name, value) => (.text name, value)

/-- The fields of an object that shows a context. Of keys that are shown alike the last one counts,
in the place of the first. -/
def toFields (context : Context) : Fields :=
  Fields.ofList (context.map fun (key, value) => (key.shown, value))

@[simp] theorem get?_nil (field : String) : get? [] field = none := rfl

theorem get?_cons
    (key : Key) (value : Json) (rest : Context) (field : String) :
    get? ((key, value) :: rest) field =
      if key = .text field then some value else get? rest field := rfl

theorem get?_ofFields (fields : Fields) (field : String) :
    (ofFields fields).get? field = fields.get? field := by
  induction fields with
  | nil =>
      rfl
  | cons entry rest ih =>
      obtain ⟨name, value⟩ := entry
      simp only [ofFields, List.map_cons, get?_cons, Fields.get?_cons, Key.text.injEq]
      rw [← ih]
      rfl

end Context
end WorkflowWalk
