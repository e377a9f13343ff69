import Scenario.Engine.Attempt
import Scenario.Text.Case

/-!
# Retrying

An action with a retry policy is attempted until a rule says stop. After
every attempt the rules are asked in this order: success, the condition
`retry_if`, the tags `retry_on`, and the number of attempts. The row is
that of the last attempt, with the logs of all of them.
-/

namespace Scenario

open Scenario.Text

variable {σ : Type}

/-- Whether a tag covers trouble described by a text in lower case. -/
def RetryTag.covers (tag : RetryTag) (text : String) : Bool :=
  match tag with
  | httpError => contains text "http"
  | timeout => contains text "timeout" || contains text "timed out"
  | connectionError =>
    contains text "connection" || contains text "dial" || contains text "network"
  | assertionFailed => contains text "assertion"
  | all => true

namespace ActionResult

/-- The status code in the data of a result or in the context of its
fault. -/
def statusCode (result : ActionResult) : Json :=
  let inData := result.data.bind fun data => data.get? "status_code"
  let inContext := result.outcome.fault?.bind fun fault => fault.context.get? "status_code"
  (inData.or inContext).getD (.ofNat 0)

/-- The category of a fault or a failure. -/
def category (result : ActionResult) : String :=
  match result.outcome with
  | .error fault => fault.category.label
  | .failed failure => failure.category.label
  | _ => ""

/-- The variables that describe an attempt to the condition `retry_if`. -/
def seeds (result : ActionResult) : List (String × Json) := [
  ("_has_error", .bool result.outcome.code?.isSome),
  ("_error_category", .string result.category),
  ("_error_code", .string (result.outcome.code?.getD "")),
  ("_error_message", .string (result.outcome.message?.getD "")),
  ("_status_code", result.statusCode)]

end ActionResult

namespace RetryPolicy

/-- What follows an attempt. -/
inductive Decision
  | again
  | stop
  | unevaluable (condition : String) (error : ConditionError)
  deriving Repr, DecidableEq

/-- Whether the tags of a policy cover a result; a result without a fault
or a failure is always covered. -/
def coversResult (policy : RetryPolicy) (result : ActionResult) : Bool :=
  match result.outcome.code?, result.outcome.message? with
  | some code, some message =>
    policy.retryOn.isEmpty ||
      policy.retryOn.any fun tag => tag.covers (lowered (code ++ " " ++ message))
  | _, _ => true

/-- The condition `retry_if`, in a copy of the variables with those that
describe the attempt. -/
def condition? (policy : RetryPolicy) (env : Environment) (result : ActionResult) (store : Store) :
    Option (String × Except ConditionError Bool) :=
  policy.retryIf.map fun condition =>
    (condition, Condition.evaluate env (store.insertAll result.seeds) condition)

/-- What the rules say after an attempt. -/
def decide (policy : RetryPolicy) (env : Environment) (result : ActionResult) (store : Store) :
    Decision :=
  if result.status == .passed && policy.stopsOnSuccess then .stop
  else
    match policy.condition? env result store with
    | some (_, .ok false) => .stop
    | some (condition, .error error) => .unevaluable condition error
    | _ => if policy.coversResult result then .again else .stop

/-- At least one attempt is made. -/
def maxAttempts (policy : RetryPolicy) : Nat :=
  max policy.attempts 1

end RetryPolicy

namespace Engine

/-- The fault of a pause that is no duration. -/
def retryDelayFault (e : Engine σ) (step : Step) (delay : String) (frame : Option LoopFrame) :
    Fault :=
  ((e.messages.fault .validation Code.invalidRetryDelay
    [delay, Duration.malformed delay]).withSuggestion
    "use a duration such as 500ms, 1s, 1.5s or 2m").locate step frame

/-- The fault of a condition `retry_if` that cannot be evaluated. -/
def retryConditionFault (e : Engine σ) (step : Step) (condition : String)
    (error : ConditionError) (frame : Option LoopFrame) : Fault :=
  ((e.messages.fault .validation Code.invalidRetryCondition
    [condition, error.message]).withContext "retry_if" (.string condition)).locate step frame

/-- The attempts after `index` others whose logs are `logs`; `remaining`
more are allowed after the next one. -/
def attemptsFrom (e : Engine σ) (step : Step) (policy : RetryPolicy) (base : Duration)
    (frame : Option LoopFrame) :
    (remaining index : Nat) → (logs : List String) → Progress σ → Row × Progress σ
  | remaining, index, logs, p =>
    let (row, p) := e.attempt step frame p
    let made := index + 1
    let logs := logs ++ row.logs ++
      [s!"attempt {made}/{policy.maxAttempts}: " ++ row.status.label]
    let row := { row with attempts := made, logs }
    match policy.decide e.env row.result p.store with
    | .unevaluable condition error =>
      ({ row with result := .error (e.retryConditionFault step condition error frame) }, p)
    | .stop => (row, p)
    | .again =>
      match remaining with
      | 0 => ({ row with logs := logs ++ [s!"retry attempts exhausted after {made}"] }, p)
      | remaining + 1 =>
        let pause := policy.backoff.delayAfter base index
        attemptsFrom e step policy base frame remaining made logs
          { p with pauses := p.pauses ++ [pause] }

/-- Runs the action of a step under a retry policy. -/
def retry (e : Engine σ) (step : Step) (policy : RetryPolicy) (frame : Option LoopFrame)
    (p : Progress σ) : Row × Progress σ :=
  match Duration.parse? policy.delay with
  | none => (step.faultRow (e.retryDelayFault step policy.delay frame), p)
  | some base => e.attemptsFrom step policy base frame (policy.maxAttempts - 1) 0 [] p

end Engine

end Scenario
