import Scenario.Text.Blank
import Scenario.Text.Integer

/-!
# Limits of execution

A `while` loop ends after a number of iterations that no setting can
raise above ten thousand. A run may lower the ceiling, and a step may
lower it further; every limit in force lies between one and the ceiling
(`loopLimit_le`).
-/

namespace Scenario

open Scenario.Text

/-- The limits of one run. -/
structure Limits where
  maxLoopIterations : Nat := 10000
  deriving Repr, DecidableEq

namespace Limits

/-- No setting raises a limit above this number. -/
def ceiling : Nat := 10000

/-- The name of the environment variable that lowers the ceiling. -/
def variableName : String := "TESTFLOW_MAX_LOOP_ITERATIONS"

/-- The value between `low` and `high` nearest to `n`. -/
def clamp (n low high : Nat) : Nat :=
  if n < low then low else if high < n then high else n

/-- The limits set by the value of the environment variable; a value that
is no 32-bit number is ignored. -/
def ofSetting (value : Option String) : Limits :=
  match value.bind fun text => natural? halfWordLimit (trim text.toList) with
  | some n => ⟨clamp n 1 ceiling⟩
  | none => {}

/-- The limit in force for a `while` step. -/
def loopLimit (limits : Limits) (step : Option Nat) : Nat :=
  let top := clamp limits.maxLoopIterations 1 ceiling
  match step with
  | none => top
  | some n => clamp n 1 top

theorem clamp_le {n low high : Nat} (h : low ≤ high) : clamp n low high ≤ high := by
  unfold clamp; split <;> (try split) <;> omega

theorem le_clamp {n low high : Nat} (h : low ≤ high) : low ≤ clamp n low high := by
  unfold clamp; split <;> (try split) <;> omega

theorem one_le_loopLimit (limits : Limits) (step : Option Nat) : 1 ≤ limits.loopLimit step := by
  unfold loopLimit
  have h : 1 ≤ clamp limits.maxLoopIterations 1 ceiling := le_clamp (by decide)
  cases step with
  | none => exact h
  | some n => exact le_clamp h

theorem loopLimit_le (limits : Limits) (step : Option Nat) : limits.loopLimit step ≤ ceiling := by
  unfold loopLimit
  have h : clamp limits.maxLoopIterations 1 ceiling ≤ ceiling := clamp_le (by decide)
  cases step with
  | none => exact h
  | some n => exact Nat.le_trans (clamp_le (le_clamp (by decide))) h

/-- A step lowers the limit of the run or leaves it. -/
theorem loopLimit_le_top (limits : Limits) (step : Option Nat) :
    limits.loopLimit step ≤ clamp limits.maxLoopIterations 1 ceiling := by
  unfold loopLimit
  cases step with
  | none => exact Nat.le_refl _
  | some n => exact clamp_le (le_clamp (by decide))

end Limits

end Scenario
