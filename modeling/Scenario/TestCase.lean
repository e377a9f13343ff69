import Scenario.Duration
import Scenario.OrderedMap
import Scenario.Json.Basic

/-!
# Test cases

The tree that authors write: a test case has variables and three phases of
steps, and a step either runs one action or groups further steps. Either
form may be wrapped in a condition, a loop and a retry policy.
-/

namespace Scenario

/-- Kinds of trouble that a retry can be limited to. -/
inductive RetryTag
  | httpError
  | timeout
  | connectionError
  | assertionFailed
  | all
  deriving Repr, DecidableEq

namespace RetryTag

def every : List RetryTag := [httpError, timeout, connectionError, assertionFailed, all]

def label : RetryTag → String
  | httpError => "http_error"
  | timeout => "timeout"
  | connectionError => "connection_error"
  | assertionFailed => "assertion_failed"
  | all => "all"

end RetryTag

/-- When and how often an action is tried again. -/
structure RetryPolicy where
  attempts : Nat := 1
  /-- The text of the pause between attempts; empty for none. -/
  delay : String := ""
  backoff : Backoff := .fixed
  /-- Asked after an attempt; if it is false there is no other. -/
  retryIf : Option String := none
  retryOn : List RetryTag := []
  stopOnSuccess : Option Bool := none
  deriving Repr, DecidableEq

/-- Unless told otherwise, a success ends the attempts. -/
def RetryPolicy.stopsOnSuccess (p : RetryPolicy) : Bool :=
  p.stopOnSuccess.getD true

inductive ExtractKind
  | jq
  | xpath
  | regex
  | csv
  deriving Repr, DecidableEq

namespace ExtractKind

def all : List ExtractKind := [jq, xpath, regex, csv]

def label : ExtractKind → String
  | jq => "jq"
  | xpath => "xpath"
  | regex => "regex"
  | csv => "csv"

end ExtractKind

/-- What is taken from the data of an action that passed. -/
structure Extraction where
  kind : ExtractKind
  /-- The expression or pattern. -/
  path : String := ""
  /-- The capture group of a pattern. -/
  group : Option Nat := none
  row : Option Nat := none
  column : Option String := none
  /-- One comparison of a column, such as `age > 25`. -/
  filter : Option String := none
  delimiter : Option Char := none
  deriving Repr, DecidableEq

/-- One node of a test. -/
structure Step where
  name : String
  description : Option String := none
  action : Option String := none
  args : List Json := []
  options : OrderedMap Json := .empty
  /-- The variable that receives the data of the action. -/
  result : Option String := none
  /-- The step runs only if this condition holds. -/
  onlyIf : Option String := none
  /-- What a `for` loop runs over. -/
  forEach : Option String := none
  /-- The condition of a `while` loop. -/
  whileTrue : Option String := none
  maxIterations : Option Nat := none
  retry : Option RetryPolicy := none
  extract : Option Extraction := none
  steps : List Step := []
  /-- An error of this step does not stop what contains it. -/
  continueOnFailure : Bool := false
  /-- In the setup, trouble with this step keeps the main phase from
  running. -/
  critical : Bool := false
  deriving Repr, BEq

namespace Step

def hasChildren (s : Step) : Bool :=
  !s.steps.isEmpty

/-- The word that stands for the action of a group. -/
def groupLabel : String := "nested_steps"

/-- The action as reports show it. -/
def actionLabel (s : Step) : String :=
  match s.action with
  | some action => action
  | none => if s.hasChildren then groupLabel else ""

end Step

structure TestCase where
  name : String
  description : Option String := none
  /-- Variables in the order of their declaration. -/
  «variables» : OrderedMap Json := .empty
  setup : List Step := []
  steps : List Step := []
  teardown : List Step := []
  deriving Repr, BEq

end Scenario
