import Scenario.Report
import Scenario.TestCase

/-!
# Models as values

A test case is written with every field present. In reports and details
of outcomes, what is empty is left out.
-/

namespace Scenario

/-- A field that may be null. -/
def orNull (s : Option String) : Json :=
  (s.map Json.string).getD .null

def natOrNull (n : Option Nat) : Json :=
  (n.map Json.ofNat).getD .null

/-- A field that is left out if there is no value. -/
def optionalField (name : String) (value : Option Json) : List (String × Json) :=
  (value.map fun v => (name, v)).toList

/-- A list that is left out if it is empty. -/
def nonEmptyField (name : String) (items : List Json) : List (String × Json) :=
  if items.isEmpty then [] else [(name, .array items)]

def OrderedMap.toJson (m : OrderedMap Json) : Json :=
  .ofFields m.entries

namespace RetryPolicy

def toJson (p : RetryPolicy) : Json :=
  .ofFields [
    ("attempts", .ofNat p.attempts),
    ("delay", .string p.delay),
    ("backoff", .string p.backoff.label),
    ("retry_if", orNull p.retryIf),
    ("retry_on", .ofStrings (p.retryOn.map RetryTag.label)),
    ("stop_on_success", (p.stopOnSuccess.map Json.bool).getD .null)]

end RetryPolicy

namespace Extraction

def toJson (x : Extraction) : Json :=
  .ofFields [
    ("type", .string x.kind.label),
    ("path", .string x.path),
    ("group", natOrNull x.group),
    ("row", natOrNull x.row),
    ("column", orNull x.column),
    ("filter", orNull x.filter),
    ("delimiter", orNull (x.delimiter.map Char.toString))]

end Extraction

namespace Step

def toJson : Step → Json
  | ⟨name, description, action, args, options, result, onlyIf, forEach, whileTrue, maxIterations,
      retry, extract, steps, continueOnFailure, critical⟩ =>
    .ofFields [
      ("name", .string name),
      ("description", orNull description),
      ("action", orNull action),
      ("args", .array args),
      ("options", options.toJson),
      ("result", orNull result),
      ("if", orNull onlyIf),
      ("for", orNull forEach),
      ("while", orNull whileTrue),
      ("max_iterations", natOrNull maxIterations),
      ("retry", (retry.map RetryPolicy.toJson).getD .null),
      ("extract", (extract.map Extraction.toJson).getD .null),
      ("steps", .array (toJsons steps)),
      ("continue", .bool continueOnFailure),
      ("critical", .bool critical)]
where
  toJsons : List Step → List Json
    | [] => []
    | step :: rest => step.toJson :: toJsons rest

end Step

namespace TestCase

def toJson (t : TestCase) : Json :=
  .ofFields [
    ("name", .string t.name),
    ("description", orNull t.description),
    ("variables", t.«variables».toJson),
    ("setup", .array (t.setup.map Step.toJson)),
    ("steps", .array (t.steps.map Step.toJson)),
    ("teardown", .array (t.teardown.map Step.toJson))]

end TestCase

namespace Fault

def toJson (f : Fault) : Json :=
  .ofFields <|
    [("category", .string f.category.label), ("code", .string f.code),
      ("message", .string f.message)] ++
      (if f.context.isEmpty then [] else [("context", f.context.toJson)]) ++
      nonEmptyField "suggestions" (f.suggestions.map Json.string)

end Fault

namespace Failure

def toJson (f : Failure) : Json :=
  .ofFields <|
    [("category", .string f.category.label), ("code", .string f.code),
      ("message", .string f.message)] ++
      optionalField "expected" f.expected ++ optionalField "actual" f.actual ++
      optionalField "operator" (f.operator.map Json.string) ++
      nonEmptyField "suggestions" (f.suggestions.map Json.string)

end Failure

namespace ActionResult

/-- The details of an outcome that has some. -/
def details? (r : ActionResult) : Option Json :=
  match r.outcome with
  | .error fault => some fault.toJson
  | .failed failure => some failure.toJson
  | _ => none

def toJson (r : ActionResult) : Json :=
  .ofFields <|
    ("status", .string r.status.label) :: optionalField "info" r.details? ++
      optionalField "data" r.data

end ActionResult

namespace Row

def toJson : Row → Json
  | ⟨name, action, result, logs, attempts, children⟩ =>
    .ofFields <|
      [("name", .string name), ("action", .string action), ("result", result.toJson),
        ("attempts", .ofNat attempts)] ++
        nonEmptyField "logs" (logs.map Json.string) ++ nonEmptyField "children" (toJsons children)
where
  toJsons : List Row → List Json
    | [] => []
    | row :: rows => row.toJson :: toJsons rows

end Row

namespace Report

def toJson (r : Report) : Json :=
  .ofFields <|
    [("name", .string r.name), ("status", .string r.status.label),
      ("setup_steps", .array (r.setup.map Row.toJson)),
      ("steps", .array (r.steps.map Row.toJson)),
      ("teardown_steps", .array (r.teardown.map Row.toJson))] ++
      optionalField "first_error" (r.firstError.map Fault.toJson)

end Report

end Scenario
