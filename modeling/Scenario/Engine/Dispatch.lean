import Scenario.Engine.Loop
import Scenario.Engine.Retry

/-!
# Running steps

A step is run by the first kind that applies to it: a loop, a condition, a
group, a retry policy, or its action alone. A loop or a condition runs the
rest of the step as its body, in which it no longer applies.

A group runs its steps one after another and has one row, with their rows
below it. A fault of a step ends the group unless the step says `continue`.
-/

namespace Scenario

variable {σ : Type}

/-- The ways to run a step. -/
inductive StepKind
  | forLoop
  | whileLoop
  | conditional
  | group
  | retryingAction
  | action
  deriving Repr, DecidableEq

/-- What already applies outside of the part of a step that is run. -/
structure Applied where
  looping : Bool := false
  condition : Bool := false
  deriving Repr, DecidableEq

namespace StepKind

/-- The kinds in the order in which they are tried. -/
def dispatchOrder : List StepKind :=
  [forLoop, whileLoop, conditional, group, retryingAction, action]

def label : StepKind → String
  | forLoop => "for_loop"
  | whileLoop => "while_loop"
  | conditional => "conditional"
  | group => "group"
  | retryingAction => "retrying_action"
  | action => "action"

def appliesTo (kind : StepKind) (step : Step) (applied : Applied) : Bool :=
  match kind with
  | forLoop => step.forEach.isSome && !applied.looping
  | whileLoop => step.whileTrue.isSome && !applied.looping
  | conditional => step.onlyIf.isSome && !applied.condition
  | group => step.hasChildren
  | retryingAction => step.retry.isSome
  | action => true

/-- The kind that runs a step. -/
def of (step : Step) (applied : Applied) : StepKind :=
  (dispatchOrder.find? fun kind => kind.appliesTo step applied).getD action

end StepKind

namespace Engine

/-- The rows of the steps of a group, the latest first, with the first
fault. -/
structure GroupRun where
  rows : List Row := []
  error : Option Fault := none

/-- Runs the steps of a group. -/
def runChildren (parent : String) : List (Step × Runner σ) → Option LoopFrame → GroupRun →
    Progress σ → GroupRun × Progress σ
  | [], _, done, p => (done, p)
  | (child, runner) :: rest, frame, done, p =>
    let (run, p) := runner frame p
    let done : GroupRun :=
      { rows := (run.rows.map (Row.within parent)).reverse ++ done.rows
        error := done.error.or run.error }
    if run.error.isSome && !child.continueOnFailure then (done, p)
    else runChildren parent rest frame done p

/-- The outcome of a group: that of the first row with trouble. -/
def groupOutcome (rows : List Row) : Outcome :=
  match rows.find? Row.isTrouble with
  | some row => row.result.outcome
  | none => .passed

/-- A group of steps. -/
def group (step : Step) (children : List (Step × Runner σ)) : Runner σ :=
  fun frame p =>
    let (done, p) := runChildren step.name children frame {} p
    let rows := done.rows.reverse
    let row : Row :=
      { name := step.name
        action := Step.groupLabel
        result := ⟨groupOutcome rows, none⟩
        logs := [s!"executed {rows.length} of {step.steps.length} nested step(s)"]
        attempts := 1
        children := rows }
    (⟨[row], done.error⟩, p)

/-- What a step runs inside of its loop and condition. -/
def core (e : Engine σ) (step : Step) (children : List (Step × Runner σ)) : Runner σ :=
  fun frame p =>
    match StepKind.of step ⟨true, true⟩ with
    | .group => group step children frame p
    | .retryingAction =>
      let (row, p) := e.retry step (step.retry.getD {}) frame p
      (.ofRow row, p)
    | _ =>
      let (row, p) := e.attempt step frame p
      (.ofRow row, p)

/-- A condition around a body. -/
def conditional (e : Engine σ) (step : Step) (condition : String) (body : Runner σ) : Runner σ :=
  fun frame p =>
    match e.check step condition p.store frame with
    | .ok true => body frame p
    | .ok false => (.ofRow (e.skippedRow step condition p.store), p)
    | .error row => (.ofRow row, p)

/-- Runs a step, given how to run the steps of its group. -/
def dispatch (e : Engine σ) (step : Step) (children : List (Step × Runner σ)) : Runner σ :=
  fun frame p =>
    match StepKind.of step {} with
    | .forLoop => e.forLoop step (step.forEach.getD "") (e.core step children) p
    | .whileLoop => e.whileLoop step (step.whileTrue.getD "") (e.core step children) p
    | .conditional =>
      e.conditional step (step.onlyIf.getD "") (e.core step children) frame p
    | _ => e.core step children frame p

/-- How to run a step and all that is below it. -/
def runner (e : Engine σ) : Step → Runner σ
  | ⟨name, description, action, args, options, result, onlyIf, forEach, whileTrue, maxIterations,
      retry, extract, steps, continueOnFailure, critical⟩ =>
    e.dispatch
      ⟨name, description, action, args, options, result, onlyIf, forEach, whileTrue,
        maxIterations, retry, extract, steps, continueOnFailure, critical⟩
      (runners steps)
where
  runners : List Step → List (Step × Runner σ)
    | [] => []
    | step :: rest => (step, e.runner step) :: runners rest

/-- Runs a step outside of any loop. -/
def runStep (e : Engine σ) (step : Step) (p : Progress σ) : StepRun × Progress σ :=
  e.runner step none p

end Engine

end Scenario
