import Scenario.Duration
import Scenario.LoopSpec
import Scenario.TestCase

/-!
# Validation

What can be said of a test case without running it: names, the choice
between an action and a group, loops, retry policies. Loop specifications
and pauses with references are left to the run. All problems are reported
together, in the order of the steps.
-/

namespace Scenario.Validation

open Scenario.Text

/-- Whether a text says nothing. -/
def isBlankText (text : String) : Bool :=
  (trim text.toList).isEmpty

def hasReference (text : String) : Bool :=
  contains text "$\x7b"

/-- A problem if something holds. -/
def report (condition : Bool) (problem : String) : List String :=
  if condition then [problem] else []

/-- Problems with what a step runs. -/
def actionProblems (step : Step) : List String :=
  match step.action, step.hasChildren with
  | some _, true => ["a step cannot declare both 'action' and nested 'steps'"]
  | none, false => ["step needs an 'action' or nested 'steps'"]
  | some action, false => report (isBlankText action) "action name must not be empty"
  | none, true => []

/-- Problems with the specification of a `for` loop without references. -/
def forProblems (step : Step) : List String :=
  match step.forEach with
  | none => []
  | some text =>
    if hasReference text then []
    else
      match LoopSpec.parse (fun _ => none) .empty text with
      | .error e => [e.message]
      | .ok _ => []

def loopProblems (step : Step) : List String :=
  report (step.forEach.isSome && step.whileTrue.isSome) "'for' and 'while' cannot be combined" ++
    forProblems step ++
    report (step.whileTrue.any isBlankText) "'while' condition must not be empty" ++
    report (step.maxIterations == some 0) "'max_iterations' must be at least 1"

def retryProblems (policy : RetryPolicy) : List String :=
  report (policy.attempts == 0) "retry attempts must be at least 1" ++
    report (!hasReference policy.delay && (Duration.parse? policy.delay).isNone)
      (Duration.malformed policy.delay) ++
    report (policy.retryIf.any isBlankText) "'retry_if' must not be empty"

/-- The problems of a step itself, without its place. -/
def stepProblems (step : Step) : List String :=
  actionProblems step ++ loopProblems step ++ (step.retry.map retryProblems).getD []

/-- The problems of a step and of those below it. -/
def problems (place : String) : Step → List String
  | ⟨name, description, action, args, options, result, onlyIf, forEach, whileTrue, maxIterations,
      retry, extract, steps, continueOnFailure, critical⟩ =>
    let step : Step :=
      ⟨name, description, action, args, options, result, onlyIf, forEach, whileTrue,
        maxIterations, retry, extract, steps, continueOnFailure, critical⟩
    let label := if isBlankText name then place else place ++ " '" ++ name ++ "'"
    report (isBlankText name) (place ++ ": step name must not be empty") ++
      (stepProblems step).map (fun problem => label ++ ": " ++ problem) ++
      problemsFrom (place ++ ".steps") 0 steps
where
  problemsFrom (phase : String) (index : Nat) : List Step → List String
    | [] => []
    | step :: rest =>
      problems (phase ++ s!"[{index}]") step ++ problemsFrom phase (index + 1) rest

/-- All problems of a test case. -/
def testProblems (test : TestCase) : List String :=
  report (isBlankText test.name) "test case name must not be empty" ++
    report test.steps.isEmpty "test case must declare at least one step" ++
    problems.problemsFrom "setup" 0 test.setup ++
    problems.problemsFrom "steps" 0 test.steps ++
    problems.problemsFrom "teardown" 0 test.teardown

/-- The report of all problems, if there are any. -/
def check (test : TestCase) : Except String Unit :=
  match testProblems test with
  | [] => .ok ()
  | found =>
    .error ("test case '" ++ test.name ++ "' is invalid:\n  - " ++
      String.intercalate "\n  - " found)

end Scenario.Validation
