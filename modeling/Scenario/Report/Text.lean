import Scenario.Report

/-!
# Reports as text

A report for readers: a line for the whole run, the rows of each phase
indented below its name, the counts, and the first error with its hints.
-/

namespace Scenario

namespace Row

/-- The line of one row, with the number of attempts if there were more
than one. -/
def line (name : String) (result : ActionResult) (attempts : Nat) : String :=
  let tries := if attempts > 1 then s!", {attempts} attempts" else ""
  let message := (result.outcome.message?.map (" " ++ ·)).getD ""
  s!"- {name} [{result.status.label}{tries}]{message}"

/-- The lines of a row and of the rows below it, the latter indented more. -/
def lines (depth : Nat) : Row → List String
  | ⟨name, _, result, _, attempts, children⟩ =>
    (String.ofList (List.replicate (2 * depth) ' ') ++ line name result attempts) ::
      linesOf (depth + 1) children
where
  linesOf (depth : Nat) : List Row → List String
    | [] => []
    | row :: rows => row.lines depth ++ linesOf depth rows

end Row

namespace Report

/-- The lines of a phase; one without rows has none. -/
def phaseLines (name : String) (rows : List Row) : List String :=
  if rows.isEmpty then [] else s!"  {name}:" :: rows.flatMap (Row.lines 2)

def countsLine (report : Report) : String :=
  s!"  passed: {report.count .passed}, failed: {report.count .failed}, errors: " ++
    s!"{report.count .error}, skipped: {report.count .skipped}"

def errorLines : Option Fault → List String
  | none => []
  | some fault => ("  first error: " ++ fault.display) :: fault.suggestions.map ("    hint: " ++ ·)

/-- The lines of a report on a run that took so many milliseconds. -/
def lines (report : Report) (milliseconds : String) : List String :=
  s!"{report.name} [{report.status.label}] in {milliseconds}ms" ::
    (phaseLines "setup" report.setup ++ phaseLines "steps" report.steps ++
      phaseLines "teardown" report.teardown ++ report.countsLine :: errorLines report.firstError)

end Report

end Scenario
