import Scenario.OrderedMap
import Scenario.Json.Basic

/-!
# Outcomes

What became of an action or a step. Two kinds of trouble are kept apart: a
*fault* is technical (the step could not be carried out as asked), a
*failure* is logical (it was carried out, and an expectation did not
hold). An outcome carries exactly the details that its status calls for.
-/

namespace Scenario

inductive Status
  | passed
  | failed
  | error
  | skipped
  deriving Repr, DecidableEq, Inhabited

namespace Status

def all : List Status := [passed, failed, error, skipped]

def label : Status → String
  | passed => "passed"
  | failed => "failed"
  | error => "error"
  | skipped => "skipped"

/-- The rank of a status when many are folded into one. -/
def severity : Status → Nat
  | skipped => 0
  | passed => 1
  | failed => 2
  | error => 3

end Status

inductive FaultCategory
  | validation
  | execution
  | network
  | database
  | timeout
  | store
  | system
  deriving Repr, DecidableEq

namespace FaultCategory

def all : List FaultCategory :=
  [validation, execution, network, database, timeout, store, system]

def label : FaultCategory → String
  | validation => "validation"
  | execution => "execution"
  | network => "network"
  | database => "database"
  | timeout => "timeout"
  | store => "variable"
  | system => "system"

end FaultCategory

inductive FailureCategory
  | assertion
  | response
  | validation
  deriving Repr, DecidableEq

namespace FailureCategory

def all : List FailureCategory := [assertion, response, validation]

def label : FailureCategory → String
  | assertion => "assertion"
  | response => "response"
  | validation => "validation"

end FailureCategory

/-- A technical error. -/
structure Fault where
  category : FaultCategory
  code : String
  message : String
  /-- Where and how the error happened. -/
  context : OrderedMap Json := .empty
  suggestions : List String := []
  deriving Repr, BEq

namespace Fault

/-- The code in brackets and the message. -/
def display (f : Fault) : String :=
  "[" ++ f.code ++ "] " ++ f.message

def withContext (f : Fault) (key : String) (value : Json) : Fault :=
  { f with context := f.context.insert key value }

/-- Adds an entry unless the context has one of that name. -/
def withDefault (f : Fault) (key : String) (value : Json) : Fault :=
  if f.context.contains key then f else f.withContext key value

def withSuggestion (f : Fault) (suggestion : String) : Fault :=
  { f with suggestions := f.suggestions ++ [suggestion] }

def withSuggestions (f : Fault) (suggestions : List String) : Fault :=
  { f with suggestions := f.suggestions ++ suggestions }

end Fault

/-- An expectation that did not hold. -/
structure Failure where
  category : FailureCategory
  code : String
  message : String
  expected : Option Json := none
  actual : Option Json := none
  /-- The symbol of the comparison that decided. -/
  operator : Option String := none
  suggestions : List String := []
  deriving Repr, BEq

namespace Failure

def display (f : Failure) : String :=
  "[" ++ f.code ++ "] " ++ f.message

def withSuggestions (f : Failure) (suggestions : List String) : Failure :=
  { f with suggestions := f.suggestions ++ suggestions }

end Failure

/-- A status with the details it calls for. -/
inductive Outcome
  | passed
  | failed (failure : Failure)
  | error (fault : Fault)
  | skipped
  deriving Repr, BEq, Inhabited

namespace Outcome

def status : Outcome → Status
  | passed => .passed
  | failed _ => .failed
  | error _ => .error
  | skipped => .skipped

def fault? : Outcome → Option Fault
  | error fault => some fault
  | _ => none

def failure? : Outcome → Option Failure
  | failed failure => some failure
  | _ => none

/-- The message of a fault or a failure. -/
def message? : Outcome → Option String
  | error fault => some fault.message
  | failed failure => some failure.message
  | _ => none

/-- The code of a fault or a failure. -/
def code? : Outcome → Option String
  | error fault => some fault.code
  | failed failure => some failure.code
  | _ => none

end Outcome

/-- An outcome with the data that came with it. -/
structure ActionResult where
  outcome : Outcome
  data : Option Json := none
  deriving Repr, BEq, Inhabited

namespace ActionResult

def passed (data : Json) : ActionResult := ⟨.passed, some data⟩

def skipped : ActionResult := ⟨.skipped, none⟩

def error (fault : Fault) : ActionResult := ⟨.error fault, none⟩

def failed (failure : Failure) : ActionResult := ⟨.failed failure, none⟩

def status (r : ActionResult) : Status := r.outcome.status

end ActionResult

end Scenario
