import Scenario.Proofs.Phase

/-!
# The first error of a report

A report keeps one fault. If a critical step stopped the setup, it says why
the main phase was not run; otherwise it is the fault of the first leaf of
the main phase that is an error, whatever the setup met before
(`Engine.firstError_eq`).

A setup that is not aborted can still meet faults, at steps that are not
critical or that say `continue`. They are kept in the rows of the setup
only: the first error is that of setup and main phase together exactly if
the setup met none, or one that is repeated by the main phase
(`Engine.firstError_spans_setup_iff`, `Engine.setup_error_unreported`).
-/

namespace Scenario

variable {σ : Type}

namespace Row

theorem leafFault?_ne_none_iff {rows : List Row} :
    leafFault? rows ≠ none ↔ ∃ leaf ∈ rows.flatMap leaves, leaf.status = .error := by
  rw [ne_eq, leafFault?_eq_none_iff]
  simp only [ne_eq, Classical.not_forall, Classical.not_not, exists_prop]

/-- Rows put before others change the first fault unless they have none, or
have the same one first. -/
theorem leafFault?_append_eq_right_iff {rows rows' : List Row} :
    leafFault? rows' = leafFault? (rows ++ rows') ↔
      leafFault? rows = none ∨ leafFault? rows = leafFault? rows' := by
  rw [leafFault?_append]
  cases leafFault? rows with
  | none => simp
  | some fault => simp [eq_comm]

end Row

namespace Dispatched

/-- A leaf of some steps is an error exactly if one of the steps ended in a
fault. -/
theorem exists_error_leaf_iff {ds : List (Dispatched σ)} (h : ∀ d ∈ ds, d.run.Accounts) :
    (∃ leaf ∈ (rowsOf ds).flatMap Row.leaves, leaf.status = .error) ↔
      ∃ d ∈ ds, d.run.error.isSome = true := by
  constructor
  · rintro ⟨leaf, hleaf, hstatus⟩
    obtain ⟨row, hrow, hbelow⟩ := List.mem_flatMap.mp hleaf
    obtain ⟨d, hd, hown⟩ := List.mem_flatMap.mp hrow
    refine ⟨d, hd, ?_⟩
    rw [Option.isSome_iff_ne_none, (h d hd).error_eq, Row.leafFault?_ne_none_iff]
    exact ⟨leaf, List.mem_flatMap_of_mem hown hbelow, hstatus⟩
  · rintro ⟨d, hd, hfault⟩
    obtain ⟨leaf, hleaf, hstatus⟩ := (h d hd).exists_error_leaf hfault
    obtain ⟨row, hrow, hbelow⟩ := List.mem_flatMap.mp hleaf
    exact ⟨leaf, List.mem_flatMap_of_mem (List.mem_flatMap_of_mem hd hrow) hbelow, hstatus⟩

end Dispatched

namespace Engine

open Dispatched (rowsOf)

theorem setup_eq (e : Engine σ) (test : TestCase) (p : Progress σ) :
    (e.runTest test p).1.setup = rowsOf (e.setupDispatches test p) :=
  (e.runPhase_eq .setup test.setup [] (e.declared test p)).1

/-- **The first error of a report.** Unless a critical step stopped the
setup, the first error is the fault of the first leaf of the main phase that
is an error, and absent exactly if there is none. It is the first fault of
setup and main phase together exactly if no leaf of the setup is an error,
or the setup and the main phase begin with the same fault. The setup has a
leaf that is an error exactly if one of its steps ended in a fault; such a
step is not critical or says `continue`. -/
theorem firstError_spans_setup_iff (e : Engine σ) (test : TestCase) (p : Progress σ)
    (h : e.setupAborted test p = false) :
    let report := (e.runTest test p).1
    (report.firstError = Row.leafFault? report.steps ∧
      (report.firstError = none ↔
        ∀ leaf ∈ report.steps.flatMap Row.leaves, leaf.status ≠ .error)) ∧
    (report.firstError = Row.leafFault? (report.setup ++ report.steps) ↔
      (∀ leaf ∈ report.setup.flatMap Row.leaves, leaf.status ≠ .error) ∨
        Row.leafFault? report.setup = Row.leafFault? report.steps) ∧
    ((∃ leaf ∈ report.setup.flatMap Row.leaves, leaf.status = .error) ↔
      ∃ d ∈ e.setupDispatches test p, d.run.error.isSome = true ∧
        (d.step.critical = true → d.step.continueOnFailure = true)) := by
  intro report
  have hnoAbort : e.setupAbort test p = none := by
    rw [← Option.isNone_iff_eq_none, ← Option.not_isSome, isSome_setupAbort, h]
    rfl
  have hfirst : report.firstError = Row.leafFault? report.steps := firstError_eq hnoAbort
  have hsetup : report.setup = rowsOf (e.setupDispatches test p) := e.setup_eq test p
  refine ⟨⟨hfirst, by rw [hfirst, Row.leafFault?_eq_none_iff]⟩, ?_, ?_⟩
  · rw [hfirst, Row.leafFault?_append_eq_right_iff, Row.leafFault?_eq_none_iff]
  · have haccounts : ∀ d ∈ e.setupDispatches test p, d.run.Accounts := fun d hd =>
      (e.phaseDispatches_complete .setup test.setup _ d hd).toAccounts
    rw [hsetup, Dispatched.exists_error_leaf_iff haccounts]
    refine exists_congr fun d => and_congr_right fun hd =>
      ⟨fun hfault => ⟨hfault, fun hcritical => ?_⟩, And.left⟩
    cases hcontinue : d.step.continueOnFailure with
    | true => rfl
    | false =>
        -- then this step would have stopped the setup
        have haborted : e.setupAborted test p = true :=
          (e.setupAborted_iff test p).mpr ⟨d, hd, hcritical, hcontinue, .inl hfault⟩
        cases h.symm.trans haborted

/-! ### An error of the setup that is not reported

A step of the setup that is not critical ends in a fault. -/

/-- A test case whose setup ends in a fault, before a main phase of one
step. -/
def seedThen (main : String) : TestCase where
  name := "case"
  setup := [{ name := "seed", action := some "boom" }]
  steps := [{ name := "main", action := some main }]

/-- If the main phase ends in a fault as well, that one is reported. -/
theorem firstError_spans_setup_iff_seedThenBoom :
    let report := (seeding.runTest (seedThen "boom") ⟨.empty, (), []⟩).1
    seeding.setupAborted (seedThen "boom") ⟨.empty, (), []⟩ = false ∧
    (report.firstError = Row.leafFault? report.steps ∧
      (report.firstError = none ↔
        ∀ leaf ∈ report.steps.flatMap Row.leaves, leaf.status ≠ .error)) ∧
    (report.firstError = Row.leafFault? (report.setup ++ report.steps) ↔
      (∀ leaf ∈ report.setup.flatMap Row.leaves, leaf.status ≠ .error) ∨
        Row.leafFault? report.setup = Row.leafFault? report.steps) ∧
    ((∃ leaf ∈ report.setup.flatMap Row.leaves, leaf.status = .error) ↔
      ∃ d ∈ seeding.setupDispatches (seedThen "boom") ⟨.empty, (), []⟩,
        d.run.error.isSome = true ∧
          (d.step.critical = true → d.step.continueOnFailure = true)) := by
  have hgoesOn : seeding.setupAborted (seedThen "boom") ⟨.empty, (), []⟩ = false := by
    decide +kernel
  exact ⟨hgoesOn, firstError_spans_setup_iff seeding (seedThen "boom") _ hgoesOn⟩

/-- The setup is not aborted, a leaf of it is an error, and the report has
no first error. -/
theorem setup_error_unreported :
    let report := (seeding.runTest (seedThen "note") ⟨.empty, (), []⟩).1
    seeding.setupAborted (seedThen "note") ⟨.empty, (), []⟩ = false ∧
      (∃ leaf ∈ (report.setup ++ report.steps).flatMap Row.leaves, leaf.status = .error) ∧
      report.firstError.isNone = true := by
  decide +kernel

end Engine

end Scenario
