import Scenario.Engine.Dispatch

/-!
# Running a test case

A test case runs its setup, its main phase and its teardown over one
store. A fault ends the setup or the main phase unless the step says
`continue`; a critical step of the setup that does not pass keeps the main
phase from running. The teardown always runs to its end.
-/

namespace Scenario

variable {σ : Type}

inductive Phase
  | setup
  | main
  | teardown
  deriving Repr, DecidableEq

/-- The step that stopped a phase. -/
structure PhaseStop where
  step : String
  critical : Bool
  code : String
  /-- The code and the message of the trouble. -/
  detail : String
  deriving Repr, DecidableEq

structure PhaseRun where
  rows : List Row := []
  stop : Option PhaseStop := none

/-- Why a step may stop its phase: a fault always, a failure if the step is
critical. -/
def StepRun.trouble? (run : StepRun) (critical : Bool) : Option (String × String) :=
  match run.error with
  | some fault => some (fault.code, fault.display)
  | none =>
    if critical then
      ((run.rows.find? Row.isTrouble).bind fun row => row.result.outcome.failure?).map
        fun failure => (failure.code, failure.display)
    else none

namespace Engine

/-- Runs the steps of a phase; `done` are the rows before, the latest
first. -/
def runPhase (e : Engine σ) (phase : Phase) : List Step → (done : List Row) → Progress σ →
    PhaseRun × Progress σ
  | [], done, p => (⟨done.reverse, none⟩, p)
  | step :: rest, done, p =>
    let (run, p) := e.runStep step p
    let critical := phase == .setup && step.critical
    let done := run.rows.reverse ++ done
    match run.trouble? critical with
    | none => runPhase e phase rest done p
    | some (code, detail) =>
      if phase == .teardown || step.continueOnFailure then runPhase e phase rest done p
      else (⟨done.reverse, some ⟨step.name, critical, code, detail⟩⟩, p)

/-- The most severe status of some rows; skipped ones do not count, and no
rows at all have passed. -/
def overallStatus (rows : List Row) : Status :=
  (rows.map Row.status).foldl
    (fun worst s => if worst.severity ≤ s.severity && s != .skipped then s else worst) .passed

/-- Why the main phase does not run. -/
def setupFault (e : Engine σ) (stop : PhaseStop) : Fault :=
  ((e.messages.fault .execution Code.setupFailed [stop.step, stop.detail]).withContext "step"
    (.string stop.step)).withContext "cause_code" (.string stop.code)

/-- The declared variables that the store does not have yet. -/
def undeclared (test : TestCase) (store : Store) : List (String × Json) :=
  test.«variables».entries.filter fun e => !store.contains e.1

/-- The critical step that ended the setup, if one did. -/
def abortedBy (setup : PhaseRun) : Option PhaseStop :=
  setup.stop.filter PhaseStop.critical

/-- Runs a test case; variables that the store has already are not
replaced by declarations. -/
def runTest (e : Engine σ) (test : TestCase) (p : Progress σ) : Report × Progress σ :=
  let p := { p with store := p.store.load e.env (undeclared test p.store) }
  let (setup, p) := e.runPhase .setup test.setup [] p
  let aborted := abortedBy setup
  let (main, p) :=
    match aborted with
    | some _ => (({} : PhaseRun), p)
    | none => e.runPhase .main test.steps [] p
  let (teardown, p) := e.runPhase .teardown test.teardown [] p
  let report : Report :=
    { name := test.name
      status :=
        match aborted with
        | some _ => .error
        | none => overallStatus main.rows
      setup := setup.rows
      steps := main.rows
      teardown := teardown.rows
      firstError :=
        match aborted with
        | some stop => some (e.setupFault stop)
        | none => Row.firstFault?.firstFaultOf? main.rows }
  (report, p)

end Engine

end Scenario
