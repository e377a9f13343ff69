import Scenario.Json.Path
import Scenario.Json.Printer
import Scenario.Text.Blank

/-!
# Queries

A query is a pipeline of stages between bars. A stage is the identity
(nothing or a dot), the word `length`, or a dot and a path; each works on
the result of the one before, and the first that fails ends the query.
-/

namespace Scenario.Query

open Scenario.Text

/-- The length of what has one. -/
def length : Json → Except String Json
  | .array items => .ok (.ofNat items.length)
  | .object fields => .ok (.ofNat fields.length)
  | .string s => .ok (.ofNat s.length)
  | .null => .ok (.ofNat 0)
  | other => .error ("cannot take the length of " ++ other.compact)

/-- Runs one stage, which has no blanks around it. -/
def stage (data : Json) (text : String) : Except String Json :=
  if text = "" ∨ text = "." then .ok data
  else if text = "length" then length data
  else
    match text.toList with
    | '.' :: path =>
      match data.walk (Json.splitPath (String.ofList path)) with
      | .ok value => .ok value
      | .error failure =>
        .error (failure.reason.message ++ " at '" ++ failure.failedSegment ++ "'")
    | _ => .error ("unsupported expression '" ++ text ++ "'")

/-- The stages of a query. -/
def stages (expression : String) : List String :=
  (splitAt '|' expression.toList).map fun part => String.ofList (trim part)

/-- Runs a query. -/
def run (data : Json) (expression : String) : Except String Json :=
  (stages expression).foldlM stage data

end Scenario.Query
