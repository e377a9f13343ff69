import Scenario.Json.Number

/-!
# Values

The values that tests store, pass around and report: JSON, with objects
whose fields are sorted by name. `setField` keeps fields sorted and
without repetition, so objects built by it print in one way only.
-/

namespace Scenario

inductive Json
  | null
  | bool (value : Bool)
  | number (value : Number)
  | string (value : String)
  | array (items : List Json)
  | object (fields : List (String × Json))
  deriving Repr, BEq, Inhabited

/-- Puts a field into a list sorted by name; a field of that name is
replaced. -/
def setField (name : String) (value : Json) : List (String × Json) → List (String × Json)
  | [] => [(name, value)]
  | (key, old) :: rest =>
    if name < key then (name, value) :: (key, old) :: rest
    else if name = key then (name, value) :: rest
    else (key, old) :: setField name value rest

namespace Json

def ofNat (n : Nat) : Json := .number (.integer n)

def ofInt (i : Int) : Json := .number (.integer i)

/-- An object from pairs in any order; of a repeated name the last counts. -/
def ofFields (pairs : List (String × Json)) : Json :=
  .object (pairs.foldl (fun fields (name, value) => setField name value fields) [])

/-- The value of a field of sorted fields. -/
def field? (name : String) : List (String × Json) → Option Json
  | [] => none
  | (key, value) :: rest => if key = name then some value else field? name rest

/-- A field of an object. -/
def get? : Json → String → Option Json
  | .object fields, name => field? name fields
  | _, _ => none

/-- The name of the kind of a value. -/
def kind : Json → String
  | null => "null"
  | bool _ => "boolean"
  | number _ => "number"
  | string _ => "string"
  | array _ => "array"
  | object _ => "object"

/-- The strings inside a value, in order. -/
def strings : Json → List String
  | string s => [s]
  | array items => itemStrings items
  | object fields => fieldStrings fields
  | _ => []
where
  itemStrings : List Json → List String
    | [] => []
    | v :: vs => v.strings ++ itemStrings vs
  fieldStrings : List (String × Json) → List String
    | [] => []
    | (_, v) :: vs => v.strings ++ fieldStrings vs

/-- A list of strings as a value. -/
def ofStrings (texts : List String) : Json :=
  .array (texts.map .string)

theorem field?_setField (name other : String) (value : Json) (fields : List (String × Json)) :
    field? other (setField name value fields) =
      if other = name then some value else field? other fields := by
  induction fields with
  | nil => grind [setField, field?]
  | cons e rest ih => grind [setField, field?]

end Json

end Scenario
