import Scenario.Engine.Dispatch

/-!
# Running a step, as equations

`Engine.runner` is a recursion over the step tree, and `Engine.dispatch`
asks a list of kinds in order. Proofs about runs need neither: they go by
`Step.induction`, with `runner_eq` for one level of the tree, and split a
level by the fields of the step that decide (`dispatch_eq`, `core_eq`).
-/

namespace Scenario

variable {σ : Type}

/-- Steps by induction: what holds of a step whenever it holds of the steps
of its group holds of every step. -/
theorem Step.induction {motive : Step → Prop}
    (h : ∀ step : Step, (∀ child ∈ step.steps, motive child) → motive step) (step : Step) :
    motive step :=
  h step fun child _ => Step.induction h child
termination_by sizeOf step
decreasing_by
  rename_i hchild
  cases step
  have := List.sizeOf_lt_of_mem hchild
  simp only [Step.mk.sizeOf_spec] at *
  omega

namespace Engine

/-- The steps of a group, each with the way to run it. -/
def childrenOf (e : Engine σ) (step : Step) : List (Step × Runner σ) :=
  step.steps.map fun child => (child, e.runner child)

theorem runners_eq (e : Engine σ) (steps : List Step) :
    runner.runners e steps = steps.map fun step => (step, e.runner step) := by
  induction steps with
  | nil => rfl
  | cons step rest ih => rw [runner.runners, ih, List.map_cons]

theorem runner_eq (e : Engine σ) (step : Step) :
    e.runner step = e.dispatch step (e.childrenOf step) := by
  obtain ⟨⟩ := step
  rw [runner, runners_eq, childrenOf]

theorem childrenOf_ne_nil (e : Engine σ) {step : Step} (h : step.hasChildren = true) :
    e.childrenOf step ≠ [] := by
  cases hsteps : step.steps with
  | nil => simp [Step.hasChildren, hsteps] at h
  | cons child rest => simp [childrenOf, hsteps]

/-- A loop comes before a condition, and a condition before the core. -/
theorem dispatch_eq (e : Engine σ) (step : Step) (children : List (Step × Runner σ))
    (frame : Option LoopFrame) (p : Progress σ) :
    e.dispatch step children frame p =
      match step.forEach, step.whileTrue, step.onlyIf with
      | some text, _, _ => e.forLoop step text (e.core step children) p
      | none, some condition, _ => e.whileLoop step condition (e.core step children) p
      | none, none, some condition => e.conditional step condition (e.core step children) frame p
      | none, none, none => e.core step children frame p := by
  cases hfor : step.forEach <;> cases hwhile : step.whileTrue <;> cases hif : step.onlyIf <;>
    cases hgroup : step.hasChildren <;> cases hretry : step.retry <;>
    simp [dispatch, StepKind.of, StepKind.dispatchOrder, StepKind.appliesTo, hfor, hwhile, hif,
      hgroup, hretry]

/-- A group comes before a retry policy, and a policy before the action. -/
theorem core_eq (e : Engine σ) (step : Step) (children : List (Step × Runner σ))
    (frame : Option LoopFrame) (p : Progress σ) :
    e.core step children frame p =
      if step.hasChildren then group step children frame p
      else
        match step.retry with
        | some policy =>
          (.ofRow (e.retry step policy frame p).1, (e.retry step policy frame p).2)
        | none => (.ofRow (e.attempt step frame p).1, (e.attempt step frame p).2) := by
  cases hgroup : step.hasChildren <;> cases hretry : step.retry <;>
    simp [core, StepKind.of, StepKind.dispatchOrder, StepKind.appliesTo, hgroup, hretry]

/-- The body of a loop under the condition of the step, if it has one. -/
def gated (e : Engine σ) (step : Step) (body : Runner σ) : Runner σ :=
  fun frame p =>
    match step.onlyIf with
    | none => body frame p
    | some condition => e.conditional step condition body frame p

/-- An iteration binds its variables, runs the gated body, and adds its
number to the names. -/
theorem iteration_eq (e : Engine σ) (step : Step) (body : Runner σ) (frame : LoopFrame)
    (p : Progress σ) :
    e.iteration step body frame p =
      let r := e.gated step body (some frame) { p with store := frame.bind p.store }
      ({ r.1 with rows := r.1.rows.map (Row.withSuffix s!" (iteration {frame.iteration})") },
        r.2) := by
  unfold iteration gated conditional
  cases step.onlyIf with
  | none => rfl
  | some condition =>
      cases e.check step condition (frame.bind p.store) (some frame) with
      | error row => rfl
      | ok holds => cases holds <;> rfl

/-- A `while` loop without rows has one that says so, and the variables of
the loop are restored in any case. -/
theorem whileLoop_eq (e : Engine σ) (step : Step) (condition : String) (body : Runner σ)
    (p : Progress σ) :
    e.whileLoop step condition body p =
      let limit := e.limits.loopLimit step.maxIterations
      let r := e.whileIterations step body condition limit limit 0 [] p
      (if r.1.rows.isEmpty then .ofRow (emptyLoopRow step .whileTrue) else r.1,
        { r.2 with store := p.store.restoreLoopVariables r.2.store }) := by
  rw [whileLoop]
  dsimp only
  split <;> rfl

/-! ## Conditions

`check` is the evaluation of the condition; only its errors know the step. -/

theorem check_eq_ok_iff {e : Engine σ} {step : Step} {condition : String} {store : Store}
    {frame : Option LoopFrame} {holds : Bool} :
    e.check step condition store frame = .ok holds ↔
      Condition.evaluate e.env store condition = .ok holds := by
  unfold check
  cases Condition.evaluate e.env store condition <;> simp

theorem check_eq_error_iff {e : Engine σ} {step : Step} {condition : String} {store : Store}
    {frame : Option LoopFrame} {row : Row} :
    e.check step condition store frame = .error row ↔
      ∃ error, Condition.evaluate e.env store condition = .error error ∧
        row = step.faultRow (e.conditionFault step condition error store frame) := by
  unfold check
  cases Condition.evaluate e.env store condition <;> simp [eq_comm]

/-! ## One row

Inside of its loop a step has one row: that of its group, of its last
attempt, or of its condition. -/

theorem core_rows (e : Engine σ) (step : Step) (children : List (Step × Runner σ))
    (frame : Option LoopFrame) (p : Progress σ) :
    ∃ row, (e.core step children frame p).1.rows = [row] := by
  rw [core_eq]
  split
  · exact ⟨_, rfl⟩
  · split <;> exact ⟨_, rfl⟩

theorem gated_rows (e : Engine σ) (step : Step) {body : Runner σ}
    (hbody : ∀ frame p, ∃ row, (body frame p).1.rows = [row]) (frame : Option LoopFrame)
    (p : Progress σ) : ∃ row, (e.gated step body frame p).1.rows = [row] := by
  unfold gated conditional
  split
  · exact hbody frame p
  · split
    · exact hbody frame p
    · exact ⟨_, rfl⟩
    · exact ⟨_, rfl⟩

theorem iteration_rows (e : Engine σ) (step : Step) {body : Runner σ}
    (hbody : ∀ frame p, ∃ row, (body frame p).1.rows = [row]) (frame : LoopFrame)
    (p : Progress σ) : ∃ row, (e.iteration step body frame p).1.rows = [row] := by
  obtain ⟨row, hrow⟩ :=
    e.gated_rows step hbody (some frame) { p with store := frame.bind p.store }
  refine ⟨row.withSuffix s!" (iteration {frame.iteration})", ?_⟩
  rw [iteration_eq]
  simp only [hrow, List.map_singleton]

end Engine

end Scenario
