import Scenario.Document.Reader
import Scenario.Report
import Scenario.Text.Timestamp

/-!
# Reading reports

A written report is read back into rows. Times and durations must be there
and well formed, and are dropped.

The status of a result and its details stand beside its data, so a result
is read from the names of its fields alone; others are left out.
-/

namespace Scenario

open Scenario.Text

variable {ν : Type} [Document ν]

/-- That a node holds a timestamp. -/
def checkTimestamp (node : ν) : Except Misfit Unit := do
  match Timestamp.check (← Document.text node) with
  | .ok () => return ()
  | .error e => .error (.malformed e.message)

/-- That a node holds a number of milliseconds. -/
def checkMilliseconds (node : ν) : Except Misfit Unit := do
  let _ ← Document.natural wordLimit "u64" node
  return ()

namespace Status

def byLabel : List (String × Status) :=
  all.map fun s => (s.label, s)

end Status

namespace Fault

def shape : Document.Shape :=
  ⟨"ErrorInfo", [("category", true), ("code", true), ("message", true), ("context", false),
    ("suggestions", false), ("timestamp", true)]⟩

def categories : List (String × FaultCategory) :=
  FaultCategory.all.map fun c => (c.label, c)

def setField (f : Fault) (name : String) (node : ν) : Except Misfit Fault := do
  match name with
  | "category" => return { f with category := ← Document.oneOf categories node }
  | "code" => return { f with code := ← Document.text node }
  | "message" => return { f with message := ← Document.text node }
  | "context" => return { f with context := ← readValues node }
  | "suggestions" => return { f with suggestions := ← Document.list Document.text node }
  | "timestamp" =>
    checkTimestamp node
    return f
  | _ => return f

def read : ν → Except Misfit Fault :=
  shape.read setField { category := .system, code := "", message := "" }

end Fault

namespace Failure

def shape : Document.Shape :=
  ⟨"FailureInfo", [("category", true), ("code", true), ("message", true), ("expected", false),
    ("actual", false), ("operator", false), ("suggestions", false), ("timestamp", true)]⟩

def categories : List (String × FailureCategory) :=
  FailureCategory.all.map fun c => (c.label, c)

def setField (f : Failure) (name : String) (node : ν) : Except Misfit Failure := do
  match name with
  | "category" => return { f with category := ← Document.oneOf categories node }
  | "code" => return { f with code := ← Document.text node }
  | "message" => return { f with message := ← Document.text node }
  | "expected" => return { f with expected := ← Document.optional Document.value node }
  | "actual" => return { f with actual := ← Document.optional Document.value node }
  | "operator" => return { f with operator := ← Document.optional Document.text node }
  | "suggestions" => return { f with suggestions := ← Document.list Document.text node }
  | "timestamp" =>
    checkTimestamp node
    return f
  | _ => return f

def read : ν → Except Misfit Failure :=
  shape.read setField { category := .assertion, code := "", message := "" }

end Failure

namespace Outcome

/-- That a status without details has none. -/
def readNothing (variant : String) (details : Option ν) : Except Misfit Unit :=
  match details with
  | none => .ok ()
  | some node =>
    match Document.unit node with
    | .ok () => .ok ()
    | .error (.invalidType found _) =>
      .error (.invalidType found ("unit variant Outcome::" ++ variant))
    | .error other => .error other

/-- The details that a status calls for. -/
def needed (details : Option ν) : Except Misfit ν :=
  match details with
  | some node => .ok node
  | none => .error (.missingField "info")

/-- Reads an outcome from the fields for its status and its details. -/
def read (status details : Option ν) : Except Misfit Outcome := do
  match status with
  | none => .error (.missingField "status")
  | some node =>
    match ← Document.oneOf Status.byLabel node with
    | .passed =>
      readNothing "Passed" details
      return .passed
    | .skipped =>
      readNothing "Skipped" details
      return .skipped
    | .failed => return .failed (← Failure.read (← needed details))
    | .error => return .error (← Fault.read (← needed details))

end Outcome

namespace ActionResult

/-- The first field of a name. -/
def field? (name : String) (fields : List (String × ν)) : Option ν :=
  (fields.find? fun f => f.1 == name).map (·.2)

def read (node : ν) : Except Misfit ActionResult := do
  match ← Document.record "struct ActionResult" node with
  | .positional _ => .error (.invalidType "sequence" "struct ActionResult")
  | .named fields =>
    let outcome ← Outcome.read (field? "status" fields) (field? "info" fields)
    match field? "data" fields with
    | none => return ⟨outcome, none⟩
    | some node => return ⟨outcome, ← Document.optional Document.value node⟩

end ActionResult

namespace Row

def shape : Document.Shape :=
  ⟨"StepResult", [("name", true), ("action", true), ("duration_ms", true), ("result", true),
    ("logs", false), ("attempts", false), ("children", false)]⟩

/-- What a field of a row sets; `readChild` reads the rows below. -/
def setField (readChild : ν → Except Misfit Row) (row : Row) (name : String) (node : ν) :
    Except Misfit Row := do
  match name with
  | "name" => return { row with name := ← Document.text node }
  | "action" => return { row with action := ← Document.text node }
  | "duration_ms" =>
    checkMilliseconds node
    return row
  | "result" => return { row with result := ← ActionResult.read node }
  | "logs" => return { row with logs := ← Document.list Document.text node }
  | "attempts" => return { row with attempts := ← readHalfWord node }
  | "children" => return { row with children := ← Document.list readChild node }
  | _ => return row

/-- Reads a row whose tree is at most so deep. -/
def readWithin : Nat → ν → Except Misfit Row
  | 0, node => shape.read (setField fun _ => .error (.malformed "nested too deeply"))
      { name := "", action := "", result := .skipped } node
  | depth + 1, node => shape.read (setField (readWithin depth))
      { name := "", action := "", result := .skipped } node

def read (node : ν) : Except Misfit Row :=
  readWithin (Document.height node) node

end Row

namespace Report

def shape : Document.Shape :=
  ⟨"TestResult", [("name", true), ("status", true), ("duration_ms", true), ("setup_steps", true),
    ("steps", true), ("teardown_steps", true), ("first_error", false)]⟩

def setField (report : Report) (name : String) (node : ν) : Except Misfit Report := do
  match name with
  | "name" => return { report with name := ← Document.text node }
  | "status" => return { report with status := ← Document.oneOf Status.byLabel node }
  | "duration_ms" =>
    checkMilliseconds node
    return report
  | "setup_steps" => return { report with setup := ← Document.list Row.read node }
  | "steps" => return { report with steps := ← Document.list Row.read node }
  | "teardown_steps" => return { report with teardown := ← Document.list Row.read node }
  | "first_error" => return { report with firstError := ← Document.optional Fault.read node }
  | _ => return report

def read : ν → Except Misfit Report :=
  shape.read setField { name := "", status := .passed }

end Report

end Scenario
