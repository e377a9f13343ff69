import Scenario.Json.Basic
import Scenario.Text.Search

/-!
# Paths into values

A path is a list of segments. An object is entered by the name of a
field, an array by a decimal index or by the word `length`, and nothing
else can be entered. A walk stops at the first segment that cannot be
followed and tells which part of the path resolved before it.

`walk_append` splits a walk along its path.
-/

namespace Scenario

open Scenario.Text

/-- Why one segment cannot be followed. -/
inductive AccessFailure
  | notFound (name : String)
  | notContainer (segment kind : String)
  | outOfRange (index length : Nat)
  | invalidIndex (segment : String)
  deriving Repr, DecidableEq

namespace AccessFailure

def message : AccessFailure → String
  | notFound name => s!"key '{name}' not found"
  | notContainer segment kind => s!"cannot access '{segment}' on a {kind} value"
  | outOfRange index length => s!"index {index} out of range (length {length})"
  | invalidIndex segment => s!"'{segment}' is not a valid array index"

/-- A word for the kind of failure. -/
def label : AccessFailure → String
  | notFound _ => "not_found"
  | notContainer _ _ => "access_error"
  | outOfRange _ _ => "index_out_of_range"
  | invalidIndex _ => "invalid_index"

end AccessFailure

namespace Json

/-- The value that one segment leads to. -/
def access (v : Json) (segment : String) : Except AccessFailure Json :=
  match v with
  | .object fields =>
    match field? segment fields with
    | some child => .ok child
    | none => .error (.notFound segment)
  | .array items =>
    if segment = "length" then .ok (.ofNat items.length)
    else
      match natural? wordLimit segment.toList with
      | none => .error (.invalidIndex segment)
      | some index =>
        match items[index]? with
        | some child => .ok child
        | none => .error (.outOfRange index items.length)
  | scalar => .error (.notContainer segment scalar.kind)

/-- The segments that could have been followed; the indices of an array
are given by their range. -/
def availableKeys : Json → List String
  | .object fields => fields.map Prod.fst
  | .array [] => ["length"]
  | .array (v :: vs) => [s!"0..{(v :: vs).length - 1}", "length"]
  | _ => []

/-- Where and why a walk stopped. -/
structure PathFailure where
  reason : AccessFailure
  /-- The segments that were followed before. -/
  resolved : List String
  failedSegment : String
  availableKeys : List String
  deriving Repr, DecidableEq

/-- Follows segments from a value that is reached by `resolved`. -/
def walkAfter (resolved : List String) (v : Json) : List String → Except PathFailure Json
  | [] => .ok v
  | segment :: rest =>
    match v.access segment with
    | .ok child => walkAfter (resolved ++ [segment]) child rest
    | .error reason => .error ⟨reason, resolved, segment, v.availableKeys⟩

/-- Follows segments from a root. -/
def walk (root : Json) (segments : List String) : Except PathFailure Json :=
  walkAfter [] root segments

/-- The segments of a written path: the stretches between dots and
brackets, without the empty ones. -/
def splitPath (expression : String) : List String :=
  ((splitWhere (fun c => c == '.' || c == '[' || c == ']') expression.toList).filter
    fun part => !part.isEmpty).map String.ofList

/-! ## Walking a path in two parts -/

theorem walkAfter_append (resolved : List String) (v : Json) (a b : List String) :
    walkAfter resolved v (a ++ b) =
      match walkAfter resolved v a with
      | .ok w => walkAfter (resolved ++ a) w b
      | .error failure => .error failure := by
  induction a generalizing resolved v with
  | nil => simp [walkAfter]
  | cons segment rest ih =>
      simp only [List.cons_append, walkAfter]
      cases v.access segment with
      | ok child => simp [ih]
      | error reason => rfl

theorem walk_append (root : Json) (a b : List String) :
    walk root (a ++ b) =
      match walk root a with
      | .ok w => walkAfter a w b
      | .error failure => .error failure := by
  simpa [walk] using walkAfter_append [] root a b

end Json

end Scenario
