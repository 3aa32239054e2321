import WorkflowWalk.Number.Numeral

/-!
# JSON values

Values as they are read: integers and floating point numbers are kept apart, and an object is the
list of its fields in the order in which their keys first appeared. A key is looked up in the list,
so of two fields with one key only the first counts; the operations below never make such a pair.
-/

namespace WorkflowWalk

inductive Json
  | null
  | bool (value : Bool)
  | int (value : Int)
  | float (value : Binary64)
  | str (value : String)
  | arr (items : List Json)
  | obj (fields : List (String × Json))
deriving Inhabited

abbrev Fields := List (String × Json)

/-! ## Fields -/

namespace Fields

def get? : Fields → String → Option Json
  | [], _ => none
  | (k, v) :: rest, key => if k = key then some v else get? rest key

def has (fields : Fields) (key : String) : Bool :=
  (fields.get? key).isSome

/-- Puts a value under a key: in the place of the value that is there, else at the end. -/
def put (fields : Fields) (key : String) (value : Json) : Fields :=
  match fields with
  | [] => [(key, value)]
  | (k, v) :: rest => if k = key then (k, value) :: rest else (k, v) :: put rest key value

def erase (fields : Fields) (key : String) : Fields :=
  fields.filter fun field => field.1 ≠ key

/-- Collects fields one after the other; a later value replaces an earlier one in its place. -/
def ofList (fields : List (String × Json)) : Fields :=
  fields.foldl (fun collected field => put collected field.1 field.2) []

def Distinct (fields : Fields) : Prop :=
  (fields.map Prod.fst).Nodup

@[simp] theorem get?_nil (key : String) : get? [] key = none := rfl

theorem get?_cons
    (k : String) (v : Json) (rest : Fields) (key : String) :
    get? ((k, v) :: rest) key = if k = key then some v else get? rest key := rfl

theorem get?_put_self
    (fields : Fields) (key : String) (value : Json) :
    (fields.put key value).get? key = some value := by
  induction fields with
  | nil =>
      simp [put, get?_cons]
  | cons field rest ih =>
      obtain ⟨k, v⟩ := field
      by_cases h : k = key <;> simp [put, get?_cons, h, ih]

theorem get?_put_of_ne
    (fields : Fields) {key other : String} (value : Json) (ne : other ≠ key) :
    (fields.put key value).get? other = fields.get? other := by
  induction fields with
  | nil =>
      simp [put, get?_cons, Ne.symm ne]
  | cons field rest ih =>
      obtain ⟨k, v⟩ := field
      by_cases h : k = key
      · subst h
        simp [put, get?_cons, Ne.symm ne]
      · simp [put, get?_cons, h, ih]

end Fields

/-! ## Truth and kinds of values -/

namespace Json

/-- Whether a value counts as given: nothing, nought and what is empty do not. -/
def isTruthy : Json → Bool
  | .null => false
  | .bool value => value
  | .int value => value != 0
  | .float value => !value.isZero
  | .str value => value != ""
  | .arr items => !items.isEmpty
  | .obj fields => !fields.isEmpty

def field (fields : Fields) (key : String) : Json :=
  (fields.get? key).getD .null

mutual

/-- Whether every integer in a value has a decimal text within the limit. -/
def writable : Json → Bool
  | .int value => Numeral.writable value
  | .arr items => writableItems items
  | .obj fields => writableFields fields
  | _ => true

def writableItems : List Json → Bool
  | [] => true
  | item :: rest => item.writable && writableItems rest

def writableFields : List (String × Json) → Bool
  | [] => true
  | (_, value) :: rest => value.writable && writableFields rest

end

def ofText? : Option String → Json
  | some text => .str text
  | none => .null

def ofTexts (texts : List String) : Json :=
  .arr (texts.map .str)

end Json
end WorkflowWalk
