import Scenario.Proofs.Verdict

/-!
# The phases of a test case

A phase runs its steps in order, each from where the last left off, up to
the first that stops it: in the setup a fault, or a failure of a critical
step; in the main phase a fault only; in the teardown nothing. A step that
says `continue` stops no phase (`Dispatched.stops`).

`Engine.dispatches` is the list of all steps of a phase with what would
come of them, and `Engine.phaseDispatches` is the part of it that is run;
`runPhase_eq` says that the loop over the steps runs just that part. The
three phases of a test case are then three such lists, of which the second
is empty if a critical step stopped the setup (`runTest_phases`).

The flag `continue` is asked before the flag `critical`, so a critical step
with both does not keep the main phase from running
(`setupFailed_iff`, `critical_step_goes_on`).
-/

namespace Scenario

variable {σ : Type}

/-- A step that was run, with what came of it. -/
structure Dispatched (σ : Type) where
  step : Step
  run : StepRun
  after : Progress σ

namespace Dispatched

/-- Whether the phase ends with this step. -/
def stops (phase : Phase) (d : Dispatched σ) : Bool :=
  !d.step.continueOnFailure &&
    match phase with
    | .setup =>
      d.run.error.isSome ||
        (d.step.critical && d.run.rows.any fun row => row.status == .failed)
    | .main => d.run.error.isSome
    | .teardown => false

/-- The rows of some steps, in order. -/
def rowsOf (ds : List (Dispatched σ)) : List Row :=
  ds.flatMap fun d => d.run.rows

/-- The state after some steps that began in `p`. -/
def endOf (p : Progress σ) (ds : List (Dispatched σ)) : Progress σ :=
  (ds.getLast?.map after).getD p

theorem endOf_cons (p : Progress σ) (d : Dispatched σ) (ds : List (Dispatched σ)) :
    endOf p (d :: ds) = endOf d.after ds := by
  cases ds <;> simp [endOf, List.getLast?_cons]

/-- Up to the first that stops the phase there is one step if that does, and
otherwise what there is of the steps after it. -/
theorem take_stops_cons (phase : Phase) (d : Dispatched σ) (ds : List (Dispatched σ)) :
    (d :: ds).take ((d :: ds).findIdx (stops phase) + 1) =
      if d.stops phase then [d] else d :: ds.take (ds.findIdx (stops phase) + 1) := by
  rw [List.findIdx_cons]
  cases d.stops phase <;> rfl

end Dispatched

/-- A phase goes through its steps in order up to the first that stops it,
or to the last one. -/
structure Phase.Follows (phase : Phase) (steps : List Step) (ds : List (Dispatched σ)) :
    Prop where
  in_order : ds.map Dispatched.step <+: steps
  goes : ∀ d ∈ ds.dropLast, d.stops phase = false
  ends : ds.map Dispatched.step = steps ∨ ∃ d, ds.getLast? = some d ∧ d.stops phase = true

/-- A phase follows its steps if it takes what would come of them up to the
first that stops it. -/
theorem Phase.follows_take (phase : Phase) (ds : List (Dispatched σ)) :
    phase.Follows (ds.map Dispatched.step)
      (ds.take (ds.findIdx (Dispatched.stops phase) + 1)) := by
  induction ds with
  | nil => exact ⟨List.prefix_rfl, nofun, .inl rfl⟩
  | cons d rest ih =>
      rw [Dispatched.take_stops_cons]
      split
      · next hstops => exact ⟨⟨rest.map Dispatched.step, rfl⟩, nofun, .inr ⟨_, rfl, hstops⟩⟩
      · next hgoes =>
          have hgoes := Bool.not_eq_true _ ▸ hgoes
          obtain ⟨hin, hbefore, hends⟩ := ih
          generalize rest.take (rest.findIdx (Dispatched.stops phase) + 1) = later at *
          refine ⟨?_, ?_, ?_⟩
          · rw [List.map_cons, List.map_cons]
            exact (List.prefix_cons_inj d.step).mpr hin
          · -- the step before the others is not the last one if there are any
            cases later with
            | nil => exact nofun
            | cons next after =>
                intro other hother
                rcases List.mem_cons.mp hother with rfl | hlater
                · exact hgoes
                · exact hbefore other hlater
          · rcases hends with hall | ⟨last, hlast, hstops⟩
            · exact .inl (congrArg (d.step :: ·) hall)
            · refine .inr ⟨last, ?_, hstops⟩
              rw [List.getLast?_cons, hlast]
              rfl

/-- Only the last step of a phase can stop it. -/
theorem Phase.Follows.getLast?_of_stops {phase : Phase} {steps : List Step}
    {ds : List (Dispatched σ)} (h : phase.Follows steps ds) {d : Dispatched σ} (hd : d ∈ ds)
    (hstops : d.stops phase = true) : ds.getLast? = some d := by
  rcases List.eq_nil_or_concat ds with rfl | ⟨before, last, rfl⟩
  · cases hd
  · rw [List.concat_eq_append] at h hd ⊢
    rw [List.getLast?_concat]
    rcases List.mem_append.mp hd with hbefore | hlast
    · have hgoes := h.goes d (by rwa [List.dropLast_concat])
      cases hgoes.symm.trans hstops
    · rw [List.mem_singleton.mp hlast]

/-! ## Why a step stops its phase -/

/-- A run without a fault has no row that is an error. -/
theorem StepRun.Accounts.status_ne_error {run : StepRun} (h : run.Accounts)
    (hnone : run.error = none) : ∀ row ∈ run.rows, row.status ≠ .error := by
  intro row hrow hstatus
  obtain ⟨leaf, hleaf, herror⟩ := (h.coherent row hrow).isError_iff.mp hstatus
  have hcalm := Row.leafFault?_eq_none_iff.mp (h.error_eq.symm.trans hnone)
  exact hcalm leaf (List.mem_flatMap_of_mem hrow (List.mem_of_find?_eq_some hleaf)) herror

/-- The fault of a run is that of a leaf. -/
theorem StepRun.Accounts.exists_error_leaf {run : StepRun} (h : run.Accounts)
    (hfault : run.error.isSome = true) :
    ∃ leaf ∈ run.rows.flatMap Row.leaves, leaf.status = .error := by
  obtain ⟨fault, hsome⟩ := Option.isSome_iff_exists.mp hfault
  rw [h.error_eq, Row.leafFault?_eq_bind_find?] at hsome
  obtain ⟨leaf, hfind, -⟩ := Option.bind_eq_some_iff.mp hsome
  exact ⟨leaf, List.mem_of_find?_eq_some hfind, by simpa using List.find?_some hfind⟩

theorem Row.isSome_failure? (row : Row) :
    row.result.outcome.failure?.isSome = (row.status == .failed) := by
  unfold status ActionResult.status
  cases row.result.outcome <;> rfl

theorem Row.isTrouble_of_ne_error {row : Row} (h : row.status ≠ .error) :
    row.isTrouble = (row.status == .failed) := by
  unfold isTrouble
  cases hstatus : row.status with
  | error => exact absurd hstatus h
  | passed | failed | skipped => rfl

/-- There is trouble if there is a fault, and for a critical step also if
there is a failure. -/
theorem StepRun.Accounts.isSome_trouble? {run : StepRun} (h : run.Accounts) (critical : Bool) :
    (run.trouble? critical).isSome =
      (run.error.isSome || (critical && run.rows.any fun row => row.status == .failed)) := by
  unfold trouble?
  cases hfault : run.error with
  | some fault => rfl
  | none =>
      cases critical with
      | false => rfl
      | true =>
          -- without a fault no row is an error, so the first with trouble is a failure
          have hfailed (row : Row) (hrow : row ∈ run.rows) :=
            Row.isTrouble_of_ne_error (h.status_ne_error hfault row hrow)
          dsimp only
          rw [if_pos rfl, Option.isSome_map]
          cases hfind : run.rows.find? Row.isTrouble with
          | none =>
              have hany : run.rows.any (fun row => row.status == .failed) = false := by
                rw [List.any_eq_false]
                intro row hrow
                rw [← hfailed row hrow]
                exact List.find?_eq_none.mp hfind row hrow
              rw [hany]
              rfl
          | some row =>
              have hrow := List.mem_of_find?_eq_some hfind
              have hstatus := (hfailed row hrow).symm.trans (List.find?_some hfind)
              rw [List.any_eq_true.mpr ⟨row, hrow, hstatus⟩, Option.bind_some,
                Row.isSome_failure?, hstatus]
              rfl

/-- A step stops its phase if the phase asks for trouble and there is some. -/
theorem Dispatched.stops_eq {d : Dispatched σ} (h : d.run.Accounts) (phase : Phase) :
    d.stops phase =
      (!(phase == .teardown || d.step.continueOnFailure) &&
        (d.run.trouble? (phase == .setup && d.step.critical)).isSome) := by
  rw [h.isSome_trouble?]
  cases phase with
  | setup => rfl
  | main => exact congrArg (!d.step.continueOnFailure && ·) (Bool.or_false _).symm
  | teardown => exact Bool.and_false _

namespace Engine

open Dispatched (rowsOf endOf endOf_cons)

/-! ## One phase -/

/-- Some steps with what comes of them when all are run, each from where the
last left off. -/
def dispatches (e : Engine σ) : List Step → Progress σ → List (Dispatched σ)
  | [], _ => []
  | step :: rest, p =>
    let (run, p) := e.runStep step p
    ⟨step, run, p⟩ :: dispatches e rest p

/-- The steps of a phase that are run: up to the first that stops it. -/
def phaseDispatches (e : Engine σ) (phase : Phase) (steps : List Step) (p : Progress σ) :
    List (Dispatched σ) :=
  let all := e.dispatches steps p
  all.take (all.findIdx (Dispatched.stops phase) + 1)

theorem phaseDispatches_cons (e : Engine σ) (phase : Phase) (step : Step) (rest : List Step)
    (p : Progress σ) :
    e.phaseDispatches phase (step :: rest) p =
      let d : Dispatched σ := ⟨step, (e.runStep step p).1, (e.runStep step p).2⟩
      if d.stops phase then [d] else d :: e.phaseDispatches phase rest d.after := by
  unfold phaseDispatches
  dsimp only [dispatches]
  rw [Dispatched.take_stops_cons]

/-- A step that does not stop its phase leaves it to the steps after it. -/
theorem runPhase_of_goes {e : Engine σ} {phase : Phase} {step : Step} {p : Progress σ}
    (h : Dispatched.stops phase ⟨step, (e.runStep step p).1, (e.runStep step p).2⟩ = false)
    (rest : List Step) (done : List Row) :
    e.runPhase phase (step :: rest) done p =
      e.runPhase phase rest ((e.runStep step p).1.rows.reverse ++ done) (e.runStep step p).2 := by
  rw [Dispatched.stops_eq (e.runner_complete step none p).toAccounts] at h
  rw [runPhase]
  dsimp only at h ⊢
  split
  · rfl
  · next hsome =>
      rw [hsome, Option.isSome_some, Bool.and_true, Bool.not_eq_false'] at h
      rw [if_pos h]

/-- A step that stops its phase has its rows last, and leaves its mark. -/
theorem runPhase_of_stops {e : Engine σ} {phase : Phase} {step : Step} {p : Progress σ}
    (h : Dispatched.stops phase ⟨step, (e.runStep step p).1, (e.runStep step p).2⟩ = true)
    (rest : List Step) (done : List Row) :
    ∃ stop : PhaseStop, stop.critical = (phase == .setup && step.critical) ∧
      e.runPhase phase (step :: rest) done p =
        (⟨done.reverse ++ (e.runStep step p).1.rows, some stop⟩, (e.runStep step p).2) := by
  rw [Dispatched.stops_eq (e.runner_complete step none p).toAccounts] at h
  obtain ⟨hphase, htrouble⟩ := Bool.and_eq_true_iff.mp h
  obtain ⟨⟨code, detail⟩, hsome⟩ := Option.isSome_iff_exists.mp htrouble
  rw [runPhase]
  dsimp only at hsome hphase ⊢
  rw [hsome]
  dsimp only
  rw [if_neg (by simpa using hphase), List.reverse_append, List.reverse_reverse]
  exact ⟨_, rfl, rfl⟩

/-- A phase runs its steps up to the first that stops it, and reports their
rows after those before. -/
theorem runPhase_eq (e : Engine σ) (phase : Phase) (steps : List Step) (done : List Row)
    (p : Progress σ) :
    let ds := e.phaseDispatches phase steps p
    let r := e.runPhase phase steps done p
    r.1.rows = done.reverse ++ rowsOf ds ∧
      r.2 = endOf p ds ∧
      r.1.stop.map PhaseStop.critical =
        (ds.getLast?.filter (Dispatched.stops phase)).map fun d =>
          phase == .setup && d.step.critical := by
  induction steps generalizing done p with
  | nil => simp [runPhase, phaseDispatches, dispatches, rowsOf, endOf]
  | cons step rest ih =>
      rw [phaseDispatches_cons]
      dsimp only
      split
      · next hstops =>
          obtain ⟨stop, hcritical, hrun⟩ := runPhase_of_stops hstops rest done
          rw [hrun]
          refine ⟨by simp [rowsOf], by simp [endOf], ?_⟩
          rw [List.getLast?_singleton, Option.filter_some, if_pos hstops]
          exact congrArg some hcritical
      · next hgoes =>
          have hgoes := Bool.not_eq_true _ ▸ hgoes
          rw [runPhase_of_goes hgoes rest done]
          obtain ⟨hrows, hend, hstop⟩ :=
            ih ((e.runStep step p).1.rows.reverse ++ done) (e.runStep step p).2
          refine ⟨?_, ?_, ?_⟩
          · rw [hrows]
            simp [rowsOf]
          · rw [hend, endOf_cons]
          · rw [hstop, List.getLast?_cons]
            cases (e.phaseDispatches phase rest (e.runStep step p).2).getLast? with
            | none => rw [Option.getD_none, Option.filter_some, hgoes]; rfl
            | some last => rfl

theorem dispatches_map_step (e : Engine σ) (steps : List Step) (p : Progress σ) :
    (e.dispatches steps p).map Dispatched.step = steps := by
  induction steps generalizing p with
  | nil => rfl
  | cons step rest ih => exact congrArg (step :: ·) (ih _)

theorem phaseDispatches_follows (e : Engine σ) (phase : Phase) (steps : List Step)
    (p : Progress σ) : phase.Follows steps (e.phaseDispatches phase steps p) := by
  have hfollows := phase.follows_take (e.dispatches steps p)
  rwa [dispatches_map_step] at hfollows

theorem dispatches_complete (e : Engine σ) (steps : List Step) (p : Progress σ) :
    ∀ d ∈ e.dispatches steps p, d.run.Complete := by
  induction steps generalizing p with
  | nil => exact nofun
  | cons step rest ih =>
      intro d hd
      rcases List.mem_cons.mp hd with rfl | hlater
      · exact e.runner_complete step none p
      · exact ih _ d hlater

theorem phaseDispatches_complete (e : Engine σ) (phase : Phase) (steps : List Step)
    (p : Progress σ) : ∀ d ∈ e.phaseDispatches phase steps p, d.run.Complete :=
  fun d hd => e.dispatches_complete steps p d (List.mem_of_mem_take hd)

/-- The teardown is run to its end. -/
theorem phaseDispatches_teardown (e : Engine σ) (steps : List Step) (p : Progress σ) :
    e.phaseDispatches .teardown steps p = e.dispatches steps p := by
  induction steps generalizing p with
  | nil => rfl
  | cons step rest ih =>
      have hgoes : Dispatched.stops .teardown
          ⟨step, (e.runStep step p).1, (e.runStep step p).2⟩ = false := Bool.and_false _
      rw [phaseDispatches_cons]
      dsimp only
      rw [hgoes, if_neg Bool.false_ne_true, ih]
      rfl

/-! ## Three phases -/

/-- The main phase as it runs after the setup, if nothing keeps it from
running. -/
def mainRun (e : Engine σ) (test : TestCase) (p : Progress σ) : PhaseRun × Progress σ :=
  match e.setupAbort test p with
  | some _ => ({}, (e.setupPhase test p).2)
  | none => e.mainPhase test p

/-- A test case as its phases follow one another. -/
theorem runTest_eq (e : Engine σ) (test : TestCase) (p : Progress σ) :
    e.runTest test p =
      let main := e.mainRun test p
      let teardown := e.runPhase .teardown test.teardown [] main.2
      ({ name := test.name
         status :=
          match e.setupAbort test p with
          | some _ => .error
          | none => overallStatus main.1.rows
         setup := (e.setupPhase test p).1.rows
         steps := main.1.rows
         teardown := teardown.1.rows
         firstError :=
          match e.setupAbort test p with
          | some stop => some (e.setupFault stop)
          | none => Row.firstFault?.firstFaultOf? main.1.rows }, teardown.2) := by
  rfl

/-- The state in which the setup begins. -/
def declared (e : Engine σ) (test : TestCase) (p : Progress σ) : Progress σ :=
  { p with store := p.store.load e.env (undeclared test p.store) }

/-- The steps of the setup that are run. -/
def setupDispatches (e : Engine σ) (test : TestCase) (p : Progress σ) : List (Dispatched σ) :=
  e.phaseDispatches .setup test.setup (e.declared test p)

/-- Whether the setup was stopped by a critical step. -/
def setupAborted (e : Engine σ) (test : TestCase) (p : Progress σ) : Bool :=
  (e.setupDispatches test p).getLast?.any fun d => d.stops .setup && d.step.critical

/-- The steps of the main phase that are run. -/
def mainDispatches (e : Engine σ) (test : TestCase) (p : Progress σ) : List (Dispatched σ) :=
  if e.setupAborted test p then []
  else
    e.phaseDispatches .main test.steps
      (endOf (e.declared test p) (e.setupDispatches test p))

/-- The steps of the teardown that are run. -/
def teardownDispatches (e : Engine σ) (test : TestCase) (p : Progress σ) :
    List (Dispatched σ) :=
  e.phaseDispatches .teardown test.teardown
    (endOf (endOf (e.declared test p) (e.setupDispatches test p)) (e.mainDispatches test p))

theorem isSome_setupAbort (e : Engine σ) (test : TestCase) (p : Progress σ) :
    (e.setupAbort test p).isSome = e.setupAborted test p := by
  obtain ⟨-, -, hstop⟩ := e.runPhase_eq .setup test.setup [] (e.declared test p)
  have hany (stop : Option PhaseStop) :
      (abortedBy ⟨[], stop⟩).isSome = (stop.map PhaseStop.critical).any id := by
    cases stop with
    | none => rfl
    | some stop => cases hcritical : stop.critical <;> simp [abortedBy, hcritical]
  refine (hany (e.runPhase .setup test.setup [] (e.declared test p)).1.stop).trans ?_
  rw [hstop]
  unfold setupAborted setupDispatches
  cases (e.phaseDispatches .setup test.setup (e.declared test p)).getLast? with
  | none => rfl
  | some last => cases hstops : last.stops .setup <;> simp [Option.filter_some, hstops]

theorem mainRun_eq (e : Engine σ) (test : TestCase) (p : Progress σ) :
    (e.mainRun test p).1.rows = rowsOf (e.mainDispatches test p) ∧
      (e.mainRun test p).2 =
        endOf (endOf (e.declared test p) (e.setupDispatches test p))
          (e.mainDispatches test p) := by
  obtain ⟨-, hend, -⟩ := e.runPhase_eq .setup test.setup [] (e.declared test p)
  have hsetup : (e.setupPhase test p).2 =
    endOf (e.declared test p) (e.setupDispatches test p) := hend
  have habort := e.isSome_setupAbort test p
  unfold mainRun mainDispatches
  cases hstop : e.setupAbort test p with
  | some stop =>
      rw [← habort, hstop]
      exact ⟨rfl, hsetup⟩
  | none =>
      rw [← habort, hstop]
      unfold mainPhase
      rw [hsetup]
      obtain ⟨hrows, hmain, -⟩ := e.runPhase_eq .main test.steps []
        (endOf (e.declared test p) (e.setupDispatches test p))
      exact ⟨hrows, hmain⟩

theorem mainDispatches_complete (e : Engine σ) (test : TestCase) (p : Progress σ) :
    ∀ d ∈ e.mainDispatches test p, d.run.Complete := by
  unfold mainDispatches
  split
  · exact nofun
  · exact e.phaseDispatches_complete .main test.steps _

/-- A critical step that stops the setup leaves nothing of the main phase,
and its trouble as the first error. -/
theorem runTest_of_setupAborted {e : Engine σ} {test : TestCase} {p : Progress σ}
    (h : e.setupAborted test p = true) :
    e.mainDispatches test p = [] ∧ (e.runTest test p).1.steps = [] ∧
      (e.runTest test p).1.status = .error ∧
      ∃ fault, (e.runTest test p).1.firstError = some fault ∧ fault.code = Code.setupFailed := by
  obtain ⟨stop, hstop⟩ := Option.isSome_iff_exists.mp ((e.isSome_setupAbort test p).trans h)
  obtain ⟨hstatus, hsteps⟩ := runTest_of_abort hstop
  refine ⟨if_pos h, hsteps, hstatus, e.setupFault stop, ?_, rfl⟩
  rw [runTest_eq, hstop]

/-- **The phases of a test case.** Setup and main phase run their steps in
order, up to the first that stops them; only a fault stops the main phase,
so not a failure. The main phase is left out exactly if a critical step
stopped the setup, and the report says so. The teardown is run to its end in
any case, and no other part of the report depends on it. -/
theorem runTest_phases (e : Engine σ) (test : TestCase) (p : Progress σ) :
    let report := (e.runTest test p).1
    let setup := e.setupDispatches test p
    let main := e.mainDispatches test p
    let teardown := e.teardownDispatches test p
    (report.setup = rowsOf setup ∧ report.steps = rowsOf main ∧
      report.teardown = rowsOf teardown ∧
      (e.runTest test p).2 = endOf (endOf (endOf (e.declared test p) setup) main) teardown) ∧
    Phase.setup.Follows test.setup setup ∧
    (e.setupAborted test p = false → Phase.main.Follows test.steps main) ∧
    (∀ d ∈ main, d.stops .main = true →
      ∃ leaf ∈ d.run.rows.flatMap Row.leaves, leaf.status = .error) ∧
    (e.setupAborted test p = true →
      main = [] ∧ report.steps = [] ∧ report.status = .error ∧
        ∃ fault, report.firstError = some fault ∧ fault.code = Code.setupFailed) ∧
    teardown.map Dispatched.step = test.teardown ∧
    ∀ steps : List Step,
      let other := (e.runTest { test with teardown := steps } p).1
      other.name = report.name ∧ other.status = report.status ∧ other.setup = report.setup ∧
        other.steps = report.steps ∧ other.firstError = report.firstError := by
  intro report setup main teardown
  obtain ⟨hsetup, -, -⟩ := e.runPhase_eq .setup test.setup [] (e.declared test p)
  obtain ⟨hmain, hmainEnd⟩ := e.mainRun_eq test p
  obtain ⟨hteardown, hend, -⟩ := e.runPhase_eq .teardown test.teardown [] (e.mainRun test p).2
  have hteardownOf : e.phaseDispatches .teardown test.teardown (e.mainRun test p).2 = teardown := by
    rw [hmainEnd]
    rfl
  rw [hteardownOf] at hteardown hend
  refine ⟨⟨hsetup, hmain, hteardown, hmainEnd ▸ hend⟩,
    e.phaseDispatches_follows .setup test.setup _, fun hreached => ?_, fun d hd hstops => ?_,
    fun haborted => runTest_of_setupAborted haborted, ?_,
    fun steps => ⟨rfl, rfl, rfl, rfl, rfl⟩⟩
  · have hmainOf : main = e.phaseDispatches .main test.steps (endOf (e.declared test p) setup) :=
      if_neg (Bool.not_eq_true _ ▸ hreached)
    rw [hmainOf]
    exact e.phaseDispatches_follows .main test.steps _
  · obtain ⟨-, hfault⟩ := Bool.and_eq_true_iff.mp hstops
    exact (e.mainDispatches_complete test p d hd).exists_error_leaf hfault
  · rw [← hteardownOf, phaseDispatches_teardown, dispatches_map_step]

/-! ## What keeps the main phase from running -/

theorem setupAborted_iff (e : Engine σ) (test : TestCase) (p : Progress σ) :
    e.setupAborted test p = true ↔
      ∃ d ∈ e.setupDispatches test p,
        d.step.critical = true ∧ d.step.continueOnFailure = false ∧
          (d.run.error.isSome = true ∨ ∃ row ∈ d.run.rows, row.status = .failed) := by
  have hstops (d : Dispatched σ) (hcritical : d.step.critical = true) :
      d.stops .setup = true ↔ d.step.continueOnFailure = false ∧
        (d.run.error.isSome = true ∨ ∃ row ∈ d.run.rows, row.status = .failed) := by
    simp [Dispatched.stops, hcritical]
  have hfollows : Phase.setup.Follows test.setup (e.setupDispatches test p) :=
    e.phaseDispatches_follows .setup test.setup _
  rw [setupAborted, Option.any_eq_true]
  constructor
  · rintro ⟨d, hlast, hd⟩
    obtain ⟨hstop, hcritical⟩ := Bool.and_eq_true_iff.mp hd
    exact ⟨d, List.mem_of_getLast? hlast, hcritical, (hstops d hcritical).mp hstop⟩
  · rintro ⟨d, hd, hcritical, htrouble⟩
    have hstop := (hstops d hcritical).mpr htrouble
    exact ⟨d, hfollows.getLast?_of_stops hd hstop, Bool.and_eq_true_iff.mpr ⟨hstop, hcritical⟩⟩

/-- **What keeps the main phase from running.** A critical step of the setup
does, if it was run, does not say `continue`, and ended in a fault or in a
failure. Nothing else does. -/
theorem setupFailed_iff (e : Engine σ) (test : TestCase) (p : Progress σ) :
    let report := (e.runTest test p).1
    (e.mainDispatches test p = [] ∧ report.steps = [] ∧ report.status = .error ∧
        ∃ fault, report.firstError = some fault ∧ fault.code = Code.setupFailed) ↔
      ∃ d ∈ e.setupDispatches test p,
        d.step.critical = true ∧ d.step.continueOnFailure = false ∧
          (d.run.error.isSome = true ∨ ∃ row ∈ d.run.rows, row.status = .failed) := by
  intro report
  rw [← setupAborted_iff]
  refine ⟨fun h => ?_, fun haborted => runTest_of_setupAborted haborted⟩
  obtain ⟨-, hnone, hstatus, -⟩ := h
  rw [← isSome_setupAbort]
  cases habort : e.setupAbort test p with
  | some stop => rfl
  | none =>
      obtain ⟨hoverall, hsteps, -⟩ := runTest_of_no_abort habort
      rw [← hsteps, hnone] at hoverall
      cases hoverall.symm.trans hstatus

/-! ### A critical step that says `continue` -/

/-- An engine with an action that is an error and one that passes. -/
def seeding : Engine Unit where
  catalog := .ofList [
    ("boom", fun _ _ store state => (.error ⟨.execution, "BOOM", "boom", .empty, []⟩, store, state)),
    ("note", fun _ _ store state => (.passed .null, store, state))]

/-- A test case whose only step of the setup is critical and says
`continue`. -/
def seedOrGoOn : TestCase where
  name := "case"
  setup := [{ name := "seed", action := some "boom", critical := true, continueOnFailure := true }]
  steps := [{ name := "main", action := some "note" }]

/-- A critical step of the setup ends in a fault, and still the main phase
runs and the test case passes. -/
theorem critical_step_goes_on :
    let report := (seeding.runTest seedOrGoOn ⟨.empty, (), []⟩).1
    (∃ d ∈ seeding.setupDispatches seedOrGoOn ⟨.empty, (), []⟩,
        d.step.critical = true ∧ d.run.error.isSome = true) ∧
      (seeding.mainDispatches seedOrGoOn ⟨.empty, (), []⟩).length = 1 ∧
      report.status = .passed ∧ report.firstError.isNone = true := by
  decide +kernel

end Engine

end Scenario
