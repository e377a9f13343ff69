import Scenario.Condition
import Scenario.Extract
import Scenario.Limits
import Scenario.Report
import Scenario.Store.Diagnosis

/-!
# The engine

What every part of the execution shares: the settings of a run, the state
that steps change, the position in a loop, and the rows for steps that do
not get as far as their action.

The position in the innermost loop is part of the context of every fault
that arises below it.
-/

namespace Scenario

variable {σ : Type}

/-- The settings of a run. -/
structure Engine (σ : Type) where
  catalog : Catalog σ
  messages : MessageTable := .standard
  limits : Limits := {}
  env : Environment := fun _ => none

/-- What steps change: the variables, the state of the actions, and the
pauses made between attempts. -/
structure Progress (σ : Type) where
  store : Store
  state : σ
  pauses : List Duration := []

/-- The rows of a step, and the fault that may stop what contains it. -/
structure StepRun where
  rows : List Row := []
  error : Option Fault := none
  deriving Repr, BEq

inductive LoopKind
  | forEach
  | whileTrue
  deriving Repr, DecidableEq

def LoopKind.label : LoopKind → String
  | forEach => "for"
  | whileTrue => "while"

/-- The position in the innermost loop. -/
structure LoopFrame where
  kind : LoopKind
  /-- The iteration counted from zero. -/
  index : Nat
  item : Option Json := none
  /-- The specification or condition of the loop without references. -/
  condition : Option String := none
  maxIterations : Option Nat := none
  deriving Repr, BEq

namespace LoopFrame

/-- The iteration counted from one. -/
def iteration (f : LoopFrame) : Nat :=
  f.index + 1

/-- Assigns the variables of the loop. -/
def bind (f : LoopFrame) (store : Store) : Store :=
  let store := (store.insert "iteration" (.ofNat f.iteration)).insert "index" (.ofNat f.index)
  match f.item with
  | some item => store.insert "item" item
  | none => store

/-- The entries for the context of a fault. -/
def context (f : LoopFrame) : List (String × Json) :=
  [("loop_type", .string f.kind.label), ("iteration", .ofNat f.iteration),
    ("index", .ofNat f.index)] ++
    (f.item.map fun item => ("item", item)).toList ++
    (f.condition.map fun condition => ("loop_condition", Json.string condition)).toList ++
    (f.maxIterations.map fun limit => ("max_iterations", Json.ofNat limit)).toList

end LoopFrame

/-- Runs a step at a position in a loop, if there is one. -/
abbrev Runner (σ : Type) : Type :=
  Option LoopFrame → Progress σ → StepRun × Progress σ

namespace Fault

/-- Adds which step and action a fault belongs to, unless it says so
itself, and the position in the innermost loop. -/
def locate (fault : Fault) (step : Step) (frame : Option LoopFrame) : Fault :=
  let fault := fault.withDefault "step" (.string step.name)
  let fault :=
    match step.action with
    | some action => fault.withDefault "action" (.string action)
    | none => fault
  match frame with
  | some frame => { fault with context := fault.context.insertAll frame.context }
  | none => fault

/-- Adds what is wrong with the references of a text or of some values. -/
def explain (fault : Fault) (diagnosis : Option Diagnosis) : Fault :=
  match diagnosis with
  | some d => (fault.withContext "variable_context" d.toJson).withSuggestions d.suggestions
  | none => fault

theorem withDefault_code (fault : Fault) (key : String) (value : Json) :
    (fault.withDefault key value).code = fault.code := by
  unfold withDefault
  split <;> rfl

/-- Where a fault arises does not change its code. -/
@[simp] theorem locate_code (fault : Fault) (step : Step) (frame : Option LoopFrame) :
    (fault.locate step frame).code = fault.code := by
  unfold locate
  cases step.action <;> cases frame <;> simp only [withDefault_code]

@[simp] theorem explain_code (fault : Fault) (diagnosis : Option Diagnosis) :
    (fault.explain diagnosis).code = fault.code := by
  cases diagnosis <;> rfl

end Fault

namespace StepRun

/-- The run of a step with one row. -/
def ofRow (row : Row) : StepRun :=
  ⟨[row], row.result.outcome.fault?⟩

end StepRun

namespace Step

/-- A row of the step itself. -/
def row (step : Step) (result : ActionResult) : Row :=
  { name := step.name, action := step.actionLabel, result }

/-- The row of a step that ends in a fault before its action is called. -/
def faultRow (step : Step) (fault : Fault) : Row :=
  step.row (.error fault)

end Step

namespace Engine

/-- The row of a step whose condition is false. -/
def skippedRow (e : Engine σ) (step : Step) (condition : String) (store : Store) : Row :=
  let said := "step '" ++ step.name ++ "' skipped: condition '" ++
    store.substitute e.env condition ++ "' evaluated to false"
  let unresolved := (store.diagnose e.env condition).map fun d =>
    "unresolved condition references: " ++ d.summary
  { step.row .skipped with logs := said :: unresolved.toList }

/-- The fault of a condition that cannot be evaluated. -/
def conditionFault (e : Engine σ) (step : Step) (condition : String) (error : ConditionError)
    (store : Store) (frame : Option LoopFrame) : Fault :=
  let fault :=
    ((e.messages.fault .validation Code.invalidCondition [condition, error.message]).withContext
      "condition" (.string condition)).withSuggestion
      "use a literal (true/false) or one comparison such as '$\x7bcount\x7d >= 3'"
  (fault.explain (store.diagnose e.env condition)).locate step frame

/-- Evaluates a condition of a step; what cannot be evaluated is a row. -/
@[irreducible]
def check (e : Engine σ) (step : Step) (condition : String) (store : Store)
    (frame : Option LoopFrame) : Except Row Bool :=
  match Condition.evaluate e.env store condition with
  | .ok holds => .ok holds
  | .error error => .error (step.faultRow (e.conditionFault step condition error store frame))

end Engine

end Scenario
