import Scenario.Outcome

/-!
# Reports

A run is reported by rows, one for every step or iteration. The row of a
group has the rows of its steps as children; only rows without children,
the leaves, are counted.
-/

namespace Scenario

structure Row where
  name : String
  action : String
  result : ActionResult
  logs : List String := []
  /-- How many attempts were made. -/
  attempts : Nat := 0
  children : List Row := []
  deriving Repr, BEq, Inhabited

namespace Row

def status (row : Row) : Status :=
  row.result.status

/-- Puts the name of an enclosing group before the names of a row and of
all rows below it. -/
def within (parent : String) : Row → Row
  | ⟨name, action, result, logs, attempts, children⟩ =>
    ⟨parent ++ " -> " ++ name, action, result, logs, attempts, withinAll children⟩
where
  withinAll : List Row → List Row
    | [] => []
    | row :: rows => row.within parent :: withinAll rows

/-- Adds to the end of the name. -/
def withSuffix (suffix : String) (row : Row) : Row :=
  { row with name := row.name ++ suffix }

/-- A row whose status is a failure or an error. -/
def isTrouble (row : Row) : Bool :=
  match row.status with
  | .failed | .error => true
  | _ => false

/-- The leaves below a row, or the row itself. -/
def leaves : Row → List Row
  | ⟨name, action, result, logs, attempts, children⟩ =>
    match children with
    | [] => [⟨name, action, result, logs, attempts, []⟩]
    | first :: rest => leavesOf (first :: rest)
where
  leavesOf : List Row → List Row
    | [] => []
    | row :: rows => row.leaves ++ leavesOf rows

/-- The first fault of a row or of the rows below it, in the order of
execution. -/
def firstFault? : Row → Option Fault
  | ⟨_, _, result, _, _, children⟩ =>
    match result.outcome.fault? with
    | some fault => some fault
    | none => firstFaultOf? children
where
  firstFaultOf? : List Row → Option Fault
    | [] => none
    | row :: rows =>
      match row.firstFault? with
      | some fault => some fault
      | none => firstFaultOf? rows

end Row

/-- The outcome of one test case. -/
structure Report where
  name : String
  status : Status
  setup : List Row := []
  steps : List Row := []
  teardown : List Row := []
  /-- The first fault of the main phase, or why it was not run. -/
  firstError : Option Fault := none
  deriving Repr, BEq

namespace Report

/-- How many leaves of the main phase have a status. -/
def count (report : Report) (status : Status) : Nat :=
  ((report.steps.flatMap Row.leaves).filter fun row => row.status == status).length

def isSuccess (report : Report) : Bool :=
  match report.status with
  | .passed | .skipped => true
  | _ => false

end Report

end Scenario
