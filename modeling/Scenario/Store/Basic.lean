import Scenario.Json.Path
import Scenario.OrderedMap
import Scenario.Text.Blank

/-!
# Variables

The named values of one run, in order of their first assignment, and the
meaning of an expression between `${` and `}`:

- `ENV:NAME` asks the environment;
- the name of a variable is that variable, dots and brackets included;
- anything else is a path whose first segment names a variable.
-/

namespace Scenario

open Scenario.Text

abbrev Store := OrderedMap Json

/-- The environment of the process: the value of each name that is set. -/
abbrev Environment := String → Option String

/-- Why an expression does not resolve. -/
inductive Unresolved
  | empty
  | environment (name : String)
  | unknown (name : String)
  | path (root : String) (failure : Json.PathFailure)
  deriving Repr, DecidableEq

/-- The name after the mark of an environment reference. -/
def environmentName? (expression : List Char) : Option String :=
  ((dropStart? "ENV:".toList expression).or (dropStart? "env:".toList expression)).map
    String.ofList

namespace Store

/-- The value of a path expression. -/
def followPath (store : Store) (expression : String) : Except Unresolved Json :=
  match Json.splitPath expression with
  | [] => .error .empty
  | root :: rest =>
    match store.get? root with
    | none => .error (.unknown root)
    | some value =>
      match value.walk rest with
      | .ok found => .ok found
      | .error failure => .error (.path root failure)

/-- The value of an expression. -/
def resolve (env : Environment) (store : Store) (expression : String) : Except Unresolved Json :=
  let expression := trimmed expression
  if expression.isEmpty then .error .empty
  else
    match environmentName? expression.toList with
    | some name =>
      match env name with
      | some value => .ok (.string value)
      | none => .error (.environment name)
    | none =>
      match store.get? expression with
      | some value => .ok value
      | none => store.followPath expression

end Store

end Scenario
