import Scenario.Command.Answer
import Scenario.Proofs.Fault

/-!
# The verdict of a report

The status of a report is folded from the rows at the top of the main
phase; its counts and its first error are read from the leaves. Since all
rows of a run are coherent (`runPhase_coherent`), the readings agree on
whether there was trouble at all: a run succeeds exactly when its main
phase was reached and no leaf of it failed or is an error
(`isSuccess_iff_leaves_calm`).

They do not agree on the kind of trouble. The row of a group repeats its
first trouble, so a failure hides an error that comes after it in the same
group (`failure_hides_error`). What does hold is `status_eq_error_iff`: the
status is an error exactly when some row at the top has an error as its
first trouble, and the first error of the report is never lost.
-/

namespace Scenario

variable {σ : Type}

/-! ## The most severe status -/

namespace Status

/-- The more severe of two statuses, where a skipped one does not count. -/
def worse (worst next : Status) : Status :=
  if worst.severity ≤ next.severity && next != .skipped then next else worst

theorem le_severity_worse {k : Nat} (hk : 1 ≤ k) (worst next : Status) :
    k ≤ (worst.worse next).severity ↔ k ≤ worst.severity ∨ k ≤ next.severity := by
  cases worst <;> cases next <;> simp [worse, severity] <;> omega

theorem le_severity_foldl {k : Nat} (hk : 1 ≤ k) (statuses : List Status) (worst : Status) :
    k ≤ (statuses.foldl worse worst).severity ↔
      k ≤ worst.severity ∨ ∃ status ∈ statuses, k ≤ status.severity := by
  induction statuses generalizing worst with
  | nil => simp
  | cons next rest ih =>
      rw [List.foldl_cons, ih, le_severity_worse hk, or_assoc]
      simp only [List.mem_cons, exists_eq_or_imp]

theorem three_le_severity_iff {s : Status} : 3 ≤ s.severity ↔ s = .error := by
  cases s <;> simp [severity]

end Status

theorem Row.two_le_severity_iff {row : Row} : 2 ≤ row.status.severity ↔ row.isTrouble = true := by
  rw [isTrouble_iff]
  cases row.status <;> simp [Status.severity]

theorem Report.isSuccess_iff {report : Report} :
    report.isSuccess = true ↔ ¬2 ≤ report.status.severity := by
  unfold isSuccess
  cases report.status <;> simp [Status.severity]

namespace Engine

/-- The severity of a phase is reached by one of its rows. -/
theorem le_severity_overallStatus {k : Nat} (hk : 2 ≤ k) (rows : List Row) :
    k ≤ (overallStatus rows).severity ↔ ∃ row ∈ rows, k ≤ row.status.severity := by
  have hfold : overallStatus rows = (rows.map Row.status).foldl Status.worse .passed := rfl
  rw [hfold, Status.le_severity_foldl (Nat.le_of_succ_le hk)]
  constructor
  · rintro (hpassed | ⟨status, hstatus, hle⟩)
    · exact absurd (Nat.le_trans hk hpassed) (by decide)
    · obtain ⟨row, hrow, rfl⟩ := List.mem_map.mp hstatus
      exact ⟨row, hrow, hle⟩
  · rintro ⟨row, hrow, hle⟩
    exact Or.inr ⟨row.status, List.mem_map_of_mem hrow, hle⟩

/-! ## The phases of a run -/

/-- All rows of a phase are coherent. -/
theorem runPhase_coherent (e : Engine σ) (phase : Phase) (steps : List Step) {done : List Row}
    (hdone : ∀ row ∈ done, row.Coherent) (p : Progress σ) :
    ∀ row ∈ (e.runPhase phase steps done p).1.rows, row.Coherent := by
  induction steps generalizing done p with
  | nil => exact fun row hrow => hdone row (List.mem_reverse.mp hrow)
  | cons step rest ih =>
      have hrun : (e.runStep step p).1.Complete := e.runner_complete step none p
      have hnext : ∀ row ∈ (e.runStep step p).1.rows.reverse ++ done, row.Coherent := by
        intro row hrow
        rcases List.mem_append.mp hrow with hnew | hold
        · exact hrun.coherent row (List.mem_reverse.mp hnew)
        · exact hdone row hold
      unfold runPhase
      dsimp only
      split
      · exact ih hnext _
      · split
        · exact ih hnext _
        · exact fun row hrow => hnext row (List.mem_reverse.mp hrow)

/-- The setup of a test case, after its variables are declared. -/
def setupPhase (e : Engine σ) (test : TestCase) (p : Progress σ) : PhaseRun × Progress σ :=
  e.runPhase .setup test.setup [] { p with store := p.store.load e.env (undeclared test p.store) }

/-- The critical step of the setup that keeps the main phase from running. -/
def setupAbort (e : Engine σ) (test : TestCase) (p : Progress σ) : Option PhaseStop :=
  abortedBy (e.setupPhase test p).1

/-- The main phase, as it runs after the setup. -/
def mainPhase (e : Engine σ) (test : TestCase) (p : Progress σ) : PhaseRun × Progress σ :=
  e.runPhase .main test.steps [] (e.setupPhase test p).2

theorem mainPhase_coherent (e : Engine σ) (test : TestCase) (p : Progress σ) :
    ∀ row ∈ (e.mainPhase test p).1.rows, row.Coherent :=
  e.runPhase_coherent .main test.steps (fun row hrow => by cases hrow) _

theorem runTest_of_abort {e : Engine σ} {test : TestCase} {p : Progress σ} {stop : PhaseStop}
    (h : e.setupAbort test p = some stop) :
    (e.runTest test p).1.status = .error ∧ (e.runTest test p).1.steps = [] := by
  have habort : abortedBy (e.runPhase .setup test.setup []
      { p with store := p.store.load e.env (undeclared test p.store) }).1 = some stop := h
  unfold runTest
  dsimp only
  rw [habort]
  exact ⟨rfl, rfl⟩

theorem runTest_of_no_abort {e : Engine σ} {test : TestCase} {p : Progress σ}
    (h : e.setupAbort test p = none) :
    let main := (e.mainPhase test p).1.rows
    (e.runTest test p).1.status = overallStatus main ∧
      (e.runTest test p).1.steps = main ∧
      (e.runTest test p).1.firstError = Row.firstFault?.firstFaultOf? main := by
  have habort : abortedBy (e.runPhase .setup test.setup []
      { p with store := p.store.load e.env (undeclared test p.store) }).1 = none := h
  unfold runTest
  dsimp only
  rw [habort]
  exact ⟨rfl, rfl, rfl⟩

/-- The rows at the top of any report are coherent. -/
theorem runTest_coherent (e : Engine σ) (test : TestCase) (p : Progress σ) :
    ∀ row ∈ (e.runTest test p).1.steps, row.Coherent := by
  cases habort : e.setupAbort test p with
  | some stop =>
      rw [(runTest_of_abort habort).2]
      exact fun row hrow => by cases hrow
  | none =>
      rw [(runTest_of_no_abort habort).2.1]
      exact e.mainPhase_coherent test p

end Engine

/-! ## Success -/

/-- Nothing is counted as failed or as an error exactly when no leaf is in
trouble. -/
theorem Report.counts_eq_zero_iff (report : Report) :
    report.count .failed = 0 ∧ report.count .error = 0 ↔
      ∀ leaf ∈ report.steps.flatMap Row.leaves, leaf.isTrouble = false := by
  simp only [count, List.length_eq_zero_iff, List.filter_eq_nil_iff]
  constructor
  · rintro ⟨hfailed, herror⟩ leaf hleaf
    rw [Bool.eq_false_iff, ne_eq, Row.isTrouble_iff]
    rintro (hstatus | hstatus)
    · exact hfailed leaf hleaf (by rw [hstatus]; rfl)
    · exact herror leaf hleaf (by rw [hstatus]; rfl)
  · intro hcalm
    have hne : ∀ leaf ∈ report.steps.flatMap Row.leaves,
        ¬(leaf.status = .failed ∨ leaf.status = .error) := fun leaf hleaf htrouble => by
      rw [← Row.isTrouble_iff, hcalm leaf hleaf] at htrouble
      cases htrouble
    exact ⟨fun leaf hleaf h => hne leaf hleaf (Or.inl (by simpa using h)),
      fun leaf hleaf h => hne leaf hleaf (Or.inr (by simpa using h))⟩

namespace Engine

/-- **Success.** A run succeeds, and the program that reports it exits with
zero, exactly when no critical step of the setup kept the main phase from
running and no leaf of the main phase failed or is an error. -/
theorem isSuccess_iff_leaves_calm (e : Engine σ) (test : TestCase) (p : Progress σ)
    (format : Format) (milliseconds : String) :
    let report := (e.runTest test p).1
    (report.isSuccess = true ↔
        e.setupAbort test p = none ∧ report.count .failed = 0 ∧ report.count .error = 0) ∧
      (report.count .failed = 0 ∧ report.count .error = 0 ↔
        ∀ leaf ∈ report.steps.flatMap Row.leaves, leaf.isTrouble = false) ∧
      ((Command.reported format milliseconds report).code = 0 ↔ report.isSuccess = true) := by
  intro report
  refine ⟨?_, report.counts_eq_zero_iff, ?_⟩
  · rw [Report.counts_eq_zero_iff, Report.isSuccess_iff]
    cases habort : e.setupAbort test p with
    | some stop =>
        have hstatus : report.status = .error := (runTest_of_abort habort).1
        simp [hstatus, Status.severity]
    | none =>
        obtain ⟨hstatus, hsteps, -⟩ := runTest_of_no_abort habort
        have hcoherent := e.mainPhase_coherent test p
        rw [show report.steps = _ from hsteps, show report.status = _ from hstatus,
          ← Row.calm_iff_leaves_calm hcoherent, le_severity_overallStatus (Nat.le_refl 2)]
        simp [Row.two_le_severity_iff]
  · unfold Command.reported
    cases report.isSuccess <;> simp

/-! ## Errors -/

/-- The first error of a report is the fault of the first leaf of the main
phase that is an error. -/
theorem firstError_eq {e : Engine σ} {test : TestCase} {p : Progress σ}
    (h : e.setupAbort test p = none) :
    (e.runTest test p).1.firstError = Row.leafFault? (e.runTest test p).1.steps := by
  obtain ⟨-, hsteps, herror⟩ := runTest_of_no_abort h
  rw [herror, hsteps, Row.firstFaultOf?_leaves (e.mainPhase_coherent test p)]

/-- **Errors.** Unless the setup was aborted, the first error is present
exactly when some leaf of the main phase is an error, and it is the fault of
the first one. The status is an error exactly when an error is the first
trouble below some row at the top; any other error leaves it at least a
failure. -/
theorem status_eq_error_iff (e : Engine σ) (test : TestCase) (p : Progress σ)
    (h : e.setupAbort test p = none) :
    let report := (e.runTest test p).1
    (report.firstError.isSome = true ↔
        ∃ leaf ∈ report.steps.flatMap Row.leaves, leaf.status = .error) ∧
      report.firstError =
        ((report.steps.flatMap Row.leaves).find? fun leaf => leaf.status == .error).bind
          (fun leaf => leaf.result.outcome.fault?) ∧
      (report.status = .error ↔
        ∃ row ∈ report.steps, ∃ leaf,
          row.leaves.find? Row.isTrouble = some leaf ∧ leaf.status = .error) ∧
      (report.firstError.isSome = true → report.status = .error ∨ report.status = .failed) := by
  intro report
  have hcoherent : ∀ row ∈ report.steps, row.Coherent := e.runTest_coherent test p
  have hfirst : report.firstError = Row.leafFault? report.steps := firstError_eq h
  have hstatus : report.status = overallStatus report.steps := by
    obtain ⟨hstatus, hsteps, -⟩ := runTest_of_no_abort h
    rw [show report.status = _ from hstatus, show report.steps = _ from hsteps]
  have hpresent : report.firstError.isSome = true ↔
      ∃ leaf ∈ report.steps.flatMap Row.leaves, leaf.status = .error := by
    rw [hfirst, Option.isSome_iff_ne_none, ne_eq, Row.leafFault?_eq_none_iff]
    simp only [ne_eq, Classical.not_forall, Classical.not_not, exists_prop]
  refine ⟨hpresent, ?_, ?_, ?_⟩
  · rw [hfirst, Row.leafFault?_eq_bind_find?]
  · rw [hstatus, ← Status.three_le_severity_iff, le_severity_overallStatus (by decide)]
    constructor
    · rintro ⟨row, hrow, hle⟩
      exact ⟨row, hrow, (hcoherent row hrow).isError_iff.mp
        (Status.three_le_severity_iff.mp hle)⟩
    · rintro ⟨row, hrow, hleaf⟩
      exact ⟨row, hrow, Status.three_le_severity_iff.mpr
        ((hcoherent row hrow).isError_iff.mpr hleaf)⟩
  · intro hsome
    obtain ⟨leaf, hleaf, herror⟩ := hpresent.mp hsome
    have htrouble : ¬∀ row ∈ report.steps, row.isTrouble = false := by
      rw [Row.calm_iff_leaves_calm hcoherent]
      intro hcalm
      have hcalmLeaf := hcalm leaf hleaf
      rw [Bool.eq_false_iff, ne_eq, Row.isTrouble_iff] at hcalmLeaf
      exact hcalmLeaf (Or.inr herror)
    have hsevere : 2 ≤ report.status.severity := by
      rw [hstatus, le_severity_overallStatus (Nat.le_refl 2)]
      simpa [Row.two_le_severity_iff] using htrouble
    revert hsevere
    cases report.status <;> simp [Status.severity]

/-! ### A failure hides an error

Two actions, one that fails and one that is an error, called in this order
by one group. -/

/-- An engine with an action that fails and one that is an error. -/
def troubled : Engine Unit where
  catalog := .ofList [
    ("reject", fun _ _ store state =>
      (.failed ⟨.assertion, Code.assertionFailed, "rejected", none, none, none, []⟩, store, state)),
    ("crash", fun _ _ store state =>
      (.error ⟨.execution, "CRASH", "crashed", .empty, []⟩, store, state))]

/-- A group in which an error follows a failure, after a setup with a
failure that is not critical. -/
def rejectThenCrash : TestCase where
  name := "case"
  setup := [{ name := "prepare", action := some "reject" }]
  steps := [
    { name := "group"
      steps := [
        { name := "first", action := some "reject" },
        { name := "second", action := some "crash" }] }]

/-- The reading of errors in this report. -/
theorem status_eq_error_iff_rejectThenCrash :
    let report := (troubled.runTest rejectThenCrash ⟨.empty, (), []⟩).1
    troubled.setupAbort rejectThenCrash ⟨.empty, (), []⟩ = none ∧
      (report.firstError.isSome = true ↔
        ∃ leaf ∈ report.steps.flatMap Row.leaves, leaf.status = .error) ∧
      report.firstError =
        ((report.steps.flatMap Row.leaves).find? fun leaf => leaf.status == .error).bind
          (fun leaf => leaf.result.outcome.fault?) ∧
      (report.status = .error ↔
        ∃ row ∈ report.steps, ∃ leaf,
          row.leaves.find? Row.isTrouble = some leaf ∧ leaf.status = .error) ∧
      (report.firstError.isSome = true → report.status = .error ∨ report.status = .failed) :=
  ⟨by decide +kernel,
    status_eq_error_iff troubled rejectThenCrash ⟨.empty, (), []⟩ (by decide +kernel)⟩

/-- A leaf is an error and the first error is present, and still the status
is only a failure. -/
theorem failure_hides_error :
    let report := (troubled.runTest rejectThenCrash ⟨.empty, (), []⟩).1
    troubled.setupAbort rejectThenCrash ⟨.empty, (), []⟩ = none ∧
      (∃ leaf ∈ report.steps.flatMap Row.leaves, leaf.status = .error) ∧
      report.firstError.isSome = true ∧ report.status = .failed := by
  decide +kernel

end Engine

end Scenario
