import Scenario.Action.Basic
import Scenario.Action.Query
import Scenario.Condition
import Scenario.Duration
import Scenario.Json.Reader
import Scenario.Message

/-!
# Built-in actions

- `log` joins its arguments to a line;
- `assert` takes a condition, or two operands around an operator;
- `set_variable` assigns a variable;
- `sleep` pauses;
- `fail` always fails;
- `jq` runs a query on a value, or on the value that a string holds as
  JSON text.
-/

namespace Scenario.Builtin

open Scenario.Text

variable {σ : Type}

/-- The error of an action that cannot work with its arguments. -/
def invalidArguments (table : MessageTable) (action reason : String) : ActionResult :=
  .error ((table.fault .validation Code.invalidArguments [action, reason]).withContext
    "action" (.string action))

def log : Action σ :=
  .pure fun args _ => .passed (.string (String.intercalate " " (args.map Json.display)))

/-- Passes with `true`, or fails with the message option if there is one. -/
def verdict (holds : Bool) (failure : Failure) (options : OrderedMap Json) : ActionResult :=
  if holds then .passed (.bool true)
  else
    match options.get? "message" with
    | some message => .failed { failure with message := message.display }
    | none => .failed failure

/-- Compares two operands. -/
def assertComparison (table : MessageTable) (actual operator expected : Json)
    (options : OrderedMap Json) : ActionResult :=
  let symbol := operator.display
  match Operator.ofSymbol? symbol with
  | none => invalidArguments table "assert" s!"unknown operator '{symbol}'"
  | some op =>
    let failure :=
      table.failure .assertion Code.assertionFailed [actual.display, symbol, expected.display]
    verdict (op.apply actual.display expected.display)
      { failure with expected := some expected, actual := some actual, operator := some symbol }
      options

/-- Evaluates a truth value or a condition. -/
def assertCondition (table : MessageTable) (condition : Json) (options : OrderedMap Json) :
    ActionResult :=
  let holds : Except ConditionError Bool :=
    match condition with
    | .bool b => .ok b
    | other => Condition.evaluateText other.display
  match holds with
  | .error e => invalidArguments table "assert" e.message
  | .ok holds =>
    let failure := table.failure .assertion Code.assertionFailed [condition.display, "==", "true"]
    verdict holds { failure with expected := some (.bool true), actual := some condition } options

def assert (table : MessageTable) : Action σ :=
  .pure fun args options =>
    match args with
    | [actual, operator, expected] => assertComparison table actual operator expected options
    | [condition] => assertCondition table condition options
    | _ =>
      invalidArguments table "assert"
        s!"expected [actual, operator, expected] or [condition], got {args.length} argument(s)"

def setVariable (table : MessageTable) : Action σ :=
  fun args _ store state =>
    match args with
    | [.string name, value] =>
      let name := trimmed name
      if name.isEmpty then
        (invalidArguments table "set_variable" "variable name is empty", store, state)
      else
        (.passed value, store.insert name value, state)
    | _ => (invalidArguments table "set_variable" "expected [name, value]", store, state)

/-- Pauses by changing the shared state as `pause` says. -/
def sleep (table : MessageTable) (pause : Duration → σ → σ) : Action σ :=
  fun args _ store state =>
    match args with
    | [time] =>
      match Duration.parse? time.display with
      | some d =>
        let slept := Json.ofFields [("slept_ms", .ofNat (d.milliseconds % (Text.wordLimit + 1)))]
        (.passed slept, store, pause d state)
      | none =>
        (invalidArguments table "sleep" (Duration.malformed time.display), store, state)
    | _ => (invalidArguments table "sleep" "expected [duration]", store, state)

def fail (table : MessageTable) : Action σ :=
  .pure fun args _ =>
    let message :=
      match args with
      | first :: _ => first.display
      | [] => "step failed explicitly"
    .failed (table.failure .validation Code.explicitFailure [message])

/-- The value that a string holds as JSON text; other values as they are. -/
def embedded (data : Json) : Json :=
  match data with
  | .string s => (Json.parse? s).getD data
  | _ => data

def jq (table : MessageTable) : Action σ :=
  .pure fun args _ =>
    match args with
    | [data, .string expression] =>
      match Query.run (embedded data) expression with
      | .ok value => .passed value
      | .error reason =>
        .error ((table.fault .execution Code.extractionFailed ["jq", reason]).withContext
          "expression" (.string expression))
    | _ => invalidArguments table "jq" "expected [data, expression]"

/-- All built-in actions. -/
def catalog (table : MessageTable) (pause : Duration → σ → σ) : Catalog σ :=
  .ofList [
    ("log", log),
    ("assert", assert table),
    ("set_variable", setVariable table),
    ("sleep", sleep table pause),
    ("fail", fail table),
    ("jq", jq table)]

end Scenario.Builtin
