import Scenario.Document.Basic
import Scenario.Json.Printer
import Scenario.Text.Integer
import Scenario.Text.Quoted

/-!
# Values as documents

A value fits a model strictly: every field has the kind of value that it
asks for, and only what is optional may be null. A record may also be an
array of its fields in their order, and a variant an object whose only
field is named like it.
-/

namespace Scenario.Json

open Scenario.Text

/-- A value as messages describe it. -/
def described : Json → String
  | .null => "null"
  | .bool true => "boolean `true`"
  | .bool false => "boolean `false`"
  | .number (.integer i) => s!"integer `{i}`"
  | .number (.float x) => "floating point `" ++ String.ofList (x.text .expanded) ++ "`"
  | .string s => "string " ++ quoted s
  | .array _ => "sequence"
  | .object _ => "map"

/-- The misfit of a value where another kind is wanted. -/
def mismatch (v : Json) (wanted : String) : Misfit :=
  .invalidType v.described wanted

/-- A natural number up to a limit. -/
def natural (limit : Nat) (type : String) (v : Json) : Except Misfit Nat :=
  match v with
  | .number (.integer i) =>
    if 0 ≤ i ∧ i ≤ limit then .ok i.toNat else .error (.invalidValue v.described type)
  | _ => .error (v.mismatch type)

/-- A string of one character. -/
def character (v : Json) : Except Misfit Char :=
  match v with
  | .string s =>
    match s.toList with
    | [c] => .ok c
    | _ => .error (.invalidValue v.described "a character")
  | _ => .error (v.mismatch "a character")

/-- The name of a variant: a string, or the only field of an object. -/
def variant (v : Json) : Except Misfit (String × Option Json) :=
  match v with
  | .string s => .ok (s, none)
  | .object [(name, content)] => .ok (name, some content)
  | .object _ => .error (.invalidValue "map" "map with a single key")
  | _ => .error (v.mismatch "string or map")

/-- The depth of nesting; a value without items or fields has none. -/
def height : Json → Nat
  | .array items => itemsHeight items + 1
  | .object fields => fieldsHeight fields + 1
  | _ => 0
where
  itemsHeight : List Json → Nat
    | [] => 0
    | v :: vs => max v.height (itemsHeight vs)
  fieldsHeight : List (String × Json) → Nat
    | [] => 0
    | (_, v) :: vs => max v.height (fieldsHeight vs)

instance : Document Json where
  isNull v := .ok (v matches .null)
  text
    | .string s => .ok s
    | v => .error (v.mismatch "a string")
  flag
    | .bool b => .ok b
    | v => .error (v.mismatch "a boolean")
  natural := natural
  character := character
  items
    | .array items => .ok items
    | v => .error (v.mismatch "a sequence")
  entries
    | .object fields => .ok fields
    | v => .error (v.mismatch "a map")
  record wanted
    | .object fields => .ok (.named fields)
    | .array items => .ok (.positional items)
    | v => .error (v.mismatch wanted)
  variant := variant
  unit
    | .null => .ok ()
    | v => .error (v.mismatch "unit")
  value v := .ok v
  height := height

end Scenario.Json
