import Scenario.Proofs.Phase

/-!
# The steps of a group

A group goes through its steps the way the main phase does: each begins
where the last left off, and the first that ends in a fault and does not say
`continue` is the last one. `Engine.groupDispatches` is that part of the
steps, at a position in a loop, and `runChildren_eq` says that the recursion
over the steps runs just that part and collects its rows.

The row of the group has these rows below it, under the name of the group,
and the outcome of the first of them with trouble. A row with trouble need
not be a leaf: it may be that of a group again. But the rows of a run are
coherent, so the first row with trouble and the first leaf with trouble have
the same outcome (`Row.firstTrouble?_leaves`), at any depth. Main statement:
`Engine.group_dispatches`.
-/

namespace Scenario

variable {σ : Type}

theorem Row.isTrouble_eq (row : Row) :
    row.isTrouble = (row.status == .failed || row.status == .error) := by
  unfold isTrouble
  cases row.status <;> rfl

/-- The outcome of a group is that of the first leaf below it that failed or
is an error. -/
theorem Engine.groupOutcome_leaves {rows : List Row} (h : ∀ row ∈ rows, row.Coherent) :
    groupOutcome rows =
      (((rows.flatMap Row.leaves).find? fun leaf =>
          leaf.status == .failed || leaf.status == .error).elim .passed
        fun leaf => leaf.result.outcome) := by
  rw [Row.groupOutcome_eq, ← Row.firstTrouble?_leaves h, Row.firstTrouble?,
    funext Row.isTrouble_eq]
  cases (rows.flatMap Row.leaves).find? fun leaf =>
    leaf.status == .failed || leaf.status == .error <;> rfl

namespace Engine

open Dispatched (rowsOf endOf endOf_cons)

/-! ## Steps at a position in a loop -/

/-- Some steps with what comes of them when all are run at a position in a
loop, each from where the last left off. -/
def dispatchesAt (e : Engine σ) (frame : Option LoopFrame) :
    List Step → Progress σ → List (Dispatched σ)
  | [], _ => []
  | step :: rest, p =>
    let (run, p) := e.runner step frame p
    ⟨step, run, p⟩ :: dispatchesAt e frame rest p

/-- The steps of a group that are run: up to the first that ends in a fault
and does not say `continue`. -/
def groupDispatches (e : Engine σ) (frame : Option LoopFrame) (steps : List Step)
    (p : Progress σ) : List (Dispatched σ) :=
  let all := e.dispatchesAt frame steps p
  all.take (all.findIdx (Dispatched.stops .main) + 1)

variable (e : Engine σ) (frame : Option LoopFrame)

theorem dispatchesAt_map_step (steps : List Step) (p : Progress σ) :
    (e.dispatchesAt frame steps p).map Dispatched.step = steps := by
  induction steps generalizing p with
  | nil => rfl
  | cons step rest ih => exact congrArg (step :: ·) (ih _)

theorem dispatchesAt_complete (steps : List Step) (p : Progress σ) :
    ∀ d ∈ e.dispatchesAt frame steps p, d.run.Complete := by
  induction steps generalizing p with
  | nil => exact nofun
  | cons step rest ih =>
      intro d hd
      rcases List.mem_cons.mp hd with rfl | hlater
      · exact e.runner_complete step frame p
      · exact ih _ d hlater

theorem groupDispatches_follows (steps : List Step) (p : Progress σ) :
    Phase.main.Follows steps (e.groupDispatches frame steps p) := by
  have hfollows := Phase.main.follows_take (e.dispatchesAt frame steps p)
  rwa [dispatchesAt_map_step] at hfollows

theorem groupDispatches_coherent (steps : List Step) (p : Progress σ) :
    ∀ row ∈ rowsOf (e.groupDispatches frame steps p), row.Coherent := by
  intro row hrow
  obtain ⟨d, hd, hown⟩ := List.mem_flatMap.mp hrow
  have hrun := e.dispatchesAt_complete frame steps p d (List.mem_of_mem_take hd)
  exact hrun.coherent row hown

theorem groupDispatches_cons (step : Step) (rest : List Step) (p : Progress σ) :
    e.groupDispatches frame (step :: rest) p =
      let d : Dispatched σ := ⟨step, (e.runner step frame p).1, (e.runner step frame p).2⟩
      if d.stops .main then [d] else d :: e.groupDispatches frame rest d.after := by
  unfold groupDispatches
  dsimp only [dispatchesAt]
  rw [Dispatched.take_stops_cons]

/-! ## The run of a group -/

/-- The recursion over the steps of a group runs them up to the first that
ends the group, and collects their rows after those before. -/
theorem runChildren_eq (parent : String) (steps : List Step) (done : GroupRun)
    (p : Progress σ) :
    let ds := e.groupDispatches frame steps p
    let r := runChildren parent (steps.map fun step => (step, e.runner step)) frame done p
    r.1.rows.reverse = done.rows.reverse ++ (rowsOf ds).map (Row.within parent) ∧
      r.2 = endOf p ds := by
  induction steps generalizing done p with
  | nil => simp [runChildren, groupDispatches, dispatchesAt, rowsOf, endOf]
  | cons step rest ih =>
      have hstops : ((e.runner step frame p).1.error.isSome && !step.continueOnFailure) =
          Dispatched.stops .main
            ⟨step, (e.runner step frame p).1, (e.runner step frame p).2⟩ :=
        Bool.and_comm _ _
      rw [groupDispatches_cons, List.map_cons, runChildren]
      dsimp only
      rw [hstops]
      split
      · simp [rowsOf, endOf]
      · obtain ⟨hrows, hend⟩ := ih _ (e.runner step frame p).2
        refine ⟨?_, ?_⟩
        · rw [hrows]
          simp [rowsOf]
        · rw [hend, endOf_cons]

/-- **The steps of a group.** A group runs its steps in order, each from
where the last left off, up to the first that ends in a fault and does not
say `continue`, or all of them. It has one row; below that are the rows of
the steps that were run, under the name of the group, and its outcome is
that of the first leaf of them that failed or is an error, and a pass if
there is none. Without a loop and a condition this is all that the step
does; otherwise it is what they run. -/
theorem group_dispatches (step : Step) (p : Progress σ) (hgroup : step.hasChildren = true) :
    let ds := e.groupDispatches frame step.steps p
    let out := e.core step (e.childrenOf step) frame p
    (Phase.main.Follows step.steps ds ∧ out.2 = endOf p ds) ∧
    (∃ row, out.1.rows = [row] ∧
      row.children = (rowsOf ds).map (Row.within step.name) ∧
      row.result.outcome =
        (((rowsOf ds).flatMap Row.leaves).find? fun leaf =>
            leaf.status == .failed || leaf.status == .error).elim .passed
          fun leaf => leaf.result.outcome) ∧
    (step.forEach = none → step.whileTrue = none → step.onlyIf = none →
      e.runner step frame p = out) := by
  intro ds out
  obtain ⟨hrows, hend⟩ := e.runChildren_eq frame step.name step.steps {} p
  have hchildren : _ = (rowsOf ds).map (Row.within step.name) := hrows
  have hcoherent : ∀ row ∈ rowsOf ds, row.Coherent :=
    e.groupDispatches_coherent frame step.steps p
  have hout : out = group step (e.childrenOf step) frame p := by
    show e.core step (e.childrenOf step) frame p = _
    rw [core_eq, if_pos hgroup]
  refine ⟨⟨e.groupDispatches_follows frame step.steps p, ?_⟩, ?_, fun hfor hwhile hif => ?_⟩
  · rw [hout]
    exact hend
  · rw [hout]
    refine ⟨_, rfl, hchildren, ?_⟩
    -- the name of the group changes no outcome
    have houtcome : groupOutcome ((rowsOf ds).map (Row.within step.name)) =
        groupOutcome (rowsOf ds) := by
      rw [Row.groupOutcome_eq, Row.groupOutcome_eq, Row.firstTrouble?_within]
    rw [← groupOutcome_leaves hcoherent, ← houtcome, ← hchildren]
    rfl
  · rw [runner_eq, dispatch_eq, hfor, hwhile, hif]

/-! ### A group that is stopped -/

/-- A group with steps of every kind; the last is not reached. -/
def everyKind : Step where
  name := "group"
  steps := [
    { name := "gated", action := some "crash", onlyIf := some "false" },
    { name := "each", action := some "reject", forEach := some "2" },
    { name := "inner"
      steps := [{ name := "below", action := some "crash" }]
      continueOnFailure := true },
    { name := "again", action := some "crash", retry := some { attempts := 2 } },
    { name := "never", action := some "crash" }]

/-- Four of the five steps are run, with five rows. The second row is the
first with trouble, so the group has failed, although two faults follow. -/
theorem group_dispatches_everyKind :
    let p : Progress Unit := ⟨.empty, (), []⟩
    let ds := troubled.groupDispatches none everyKind.steps p
    let out := troubled.core everyKind (troubled.childrenOf everyKind) none p
    (everyKind.hasChildren = true ∧
      ds.map (fun d => d.step.name) = ["gated", "each", "inner", "again"] ∧
      out.1.rows.map (fun row => (row.status, row.children.map Row.status)) =
        [(.failed, [.skipped, .failed, .failed, .error, .error])]) ∧
    (Phase.main.Follows everyKind.steps ds ∧ out.2 = endOf p ds) ∧
    (∃ row, out.1.rows = [row] ∧
      row.children = (rowsOf ds).map (Row.within everyKind.name) ∧
      row.result.outcome =
        (((rowsOf ds).flatMap Row.leaves).find? fun leaf =>
            leaf.status == .failed || leaf.status == .error).elim .passed
          fun leaf => leaf.result.outcome) ∧
    (everyKind.forEach = none → everyKind.whileTrue = none → everyKind.onlyIf = none →
      troubled.runner everyKind none p = out) := by
  intro p ds out
  have hgroup : everyKind.hasChildren = true := by decide
  exact ⟨⟨hgroup, by decide +kernel, by decide +kernel⟩,
    group_dispatches troubled none everyKind p hgroup⟩

end Engine

end Scenario
