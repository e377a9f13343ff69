import Scenario.Document.Basic
import Scenario.Json.Printer
import Scenario.TestCase

/-!
# Reading test cases

Which fields a test case and its parts have in a document, and what each
of them sets. Everything but the names and the kind of an extraction may
be missing.
-/

namespace Scenario

open Scenario.Text

variable {ν : Type} [Document ν]

/-- A text that may also be written as a number or a truth value; null is
none. -/
def readScalar (node : ν) : Except Misfit (Option String) := do
  match ← Document.value node with
  | .null => .ok none
  | .string s => .ok (some s)
  | .number n => .ok (some (Json.number n).display)
  | .bool b => .ok (some (Json.bool b).display)
  | other => .error (.notScalar other.compact)

/-- A map from names to values. -/
def readValues (node : ν) : Except Misfit (OrderedMap Json) := do
  let entries ← (← Document.entries node).mapM fun (name, v) => do
    return (name, ← Document.value v)
  return .ofList entries

def readHalfWord : ν → Except Misfit Nat :=
  Document.natural halfWordLimit "u32"

def readWord : ν → Except Misfit Nat :=
  Document.natural wordLimit "usize"

namespace RetryPolicy

def shape : Document.Shape :=
  ⟨"RetryConfig", [("attempts", false), ("delay", false), ("backoff", false),
    ("retry_if", false), ("retry_on", false), ("stop_on_success", false)]⟩

def backoffs : List (String × Backoff) :=
  Backoff.all.map fun b => (b.label, b)

def tags : List (String × RetryTag) :=
  RetryTag.every.map fun t => (t.label, t)

def setField (policy : RetryPolicy) (name : String) (node : ν) : Except Misfit RetryPolicy := do
  match name with
  | "attempts" => return { policy with attempts := ← readHalfWord node }
  | "delay" => return { policy with delay := (← readScalar node).getD "" }
  | "backoff" => return { policy with backoff := ← Document.oneOf backoffs node }
  | "retry_if" => return { policy with retryIf := ← Document.optional Document.text node }
  | "retry_on" => return { policy with retryOn := ← Document.list (Document.oneOf tags) node }
  | "stop_on_success" =>
    return { policy with stopOnSuccess := ← Document.optional Document.flag node }
  | _ => return policy

def read : ν → Except Misfit RetryPolicy :=
  shape.read setField {}

end RetryPolicy

namespace Extraction

def shape : Document.Shape :=
  ⟨"ExtractSpec", [("type", true), ("path", false), ("group", false), ("row", false),
    ("column", false), ("filter", false), ("delimiter", false)]⟩

def kinds : List (String × ExtractKind) :=
  ExtractKind.all.map fun k => (k.label, k)

def setField (spec : Extraction) (name : String) (node : ν) : Except Misfit Extraction := do
  match name with
  | "type" => return { spec with kind := ← Document.oneOf kinds node }
  | "path" => return { spec with path := ← Document.text node }
  | "group" => return { spec with group := ← Document.optional readWord node }
  | "row" => return { spec with row := ← Document.optional readWord node }
  | "column" => return { spec with column := ← Document.optional Document.text node }
  | "filter" => return { spec with filter := ← Document.optional Document.text node }
  | "delimiter" => return { spec with delimiter := ← Document.optional Document.character node }
  | _ => return spec

def read : ν → Except Misfit Extraction :=
  shape.read setField { kind := .jq }

end Extraction

namespace Step

def shape : Document.Shape :=
  ⟨"Step", [("name", true), ("description", false), ("action", false), ("args", false),
    ("options", false), ("result", false), ("if", false), ("for", false), ("while", false),
    ("max_iterations", false), ("retry", false), ("extract", false), ("steps", false),
    ("continue", false), ("critical", false)]⟩

/-- What a field of a step sets; `readChild` reads the steps of a group. -/
def setField (readChild : ν → Except Misfit Step) (step : Step) (name : String) (node : ν) :
    Except Misfit Step := do
  match name with
  | "name" => return { step with name := ← Document.text node }
  | "description" => return { step with description := ← Document.optional Document.text node }
  | "action" => return { step with action := ← Document.optional Document.text node }
  | "args" => return { step with args := ← Document.list Document.value node }
  | "options" => return { step with options := ← readValues node }
  | "result" => return { step with result := ← Document.optional Document.text node }
  | "if" => return { step with onlyIf := ← Document.optional Document.text node }
  | "for" => return { step with forEach := ← readScalar node }
  | "while" => return { step with whileTrue := ← Document.optional Document.text node }
  | "max_iterations" =>
    return { step with maxIterations := ← Document.optional readHalfWord node }
  | "retry" => return { step with retry := ← Document.optional RetryPolicy.read node }
  | "extract" => return { step with extract := ← Document.optional Extraction.read node }
  | "steps" => return { step with steps := ← Document.list readChild node }
  | "continue" => return { step with continueOnFailure := ← Document.flag node }
  | "critical" => return { step with critical := ← Document.flag node }
  | _ => return step

/-- Reads a step whose tree is at most so deep. -/
def readWithin : Nat → ν → Except Misfit Step
  | 0, node => shape.read (setField fun _ => .error (.malformed "nested too deeply"))
      { name := "" } node
  | depth + 1, node => shape.read (setField (readWithin depth)) { name := "" } node

/-- Reads a step; no step is nested deeper than the tree it is in. -/
def read (node : ν) : Except Misfit Step :=
  readWithin (Document.height node) node

end Step

namespace TestCase

def shape : Document.Shape :=
  ⟨"TestCase", [("name", true), ("description", false), ("variables", false), ("setup", false),
    ("steps", false), ("teardown", false)]⟩

def setField (test : TestCase) (name : String) (node : ν) : Except Misfit TestCase := do
  match name with
  | "name" => return { test with name := ← Document.text node }
  | "description" => return { test with description := ← Document.optional Document.text node }
  | "variables" => return { test with «variables» := ← readValues node }
  | "setup" => return { test with setup := ← Document.list Step.read node }
  | "steps" => return { test with steps := ← Document.list Step.read node }
  | "teardown" => return { test with teardown := ← Document.list Step.read node }
  | _ => return test

def read : ν → Except Misfit TestCase :=
  shape.read setField { name := "" }

end TestCase

end Scenario
