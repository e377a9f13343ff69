import Scenario.Proofs.Dispatch
import Scenario.Proofs.Row

/-!
# A run accounts for its faults

A run gives rows and, apart from them, the fault that may stop what
contains it. `StepRun.Accounts` says that the two agree: the rows are
coherent, and the fault is that of the first leaf that has one. A run is
`StepRun.Complete` if it also has a row; only the parts of a loop or of a
group may have none.

Every way of running a step gives a complete run if its body does. A
single row accounts for itself; loops and groups put runs one after
another (`Accounts.append`), and the row of a group hides nothing of the
rows below it (`Complete.group`). So, by induction on the step, the fault
of a run is that of its first leaf with one (`runStep_error_eq`).
-/

namespace Scenario

variable {σ : Type}

/-- The rows are coherent, and the fault is that of the first leaf that has
one. -/
structure StepRun.Accounts (run : StepRun) : Prop where
  coherent : ∀ row ∈ run.rows, row.Coherent
  error_eq : run.error = Row.leafFault? run.rows

/-- A run that accounts for its faults and has a row. -/
structure StepRun.Complete (run : StepRun) : Prop extends run.Accounts where
  rows_ne_nil : run.rows ≠ []

/-- A way to run a step that always gives a complete run. -/
def Runner.Complete (body : Runner σ) : Prop :=
  ∀ frame p, (body frame p).1.Complete

namespace StepRun

/-! ## Building runs -/

theorem Accounts.empty : Accounts ⟨([] : List Row).reverse, none⟩ where
  coherent _ hrow := by cases hrow
  error_eq := rfl

theorem Accounts.ofRow {row : Row} (h : row.children = []) : (ofRow row).Accounts where
  coherent other hother := by
    obtain rfl := List.mem_singleton.mp hother
    exact .leaf h
  error_eq := (Row.leafFault?_of_leaf h).symm

theorem Complete.ofRow {row : Row} (h : row.children = []) : (ofRow row).Complete :=
  ⟨.ofRow h, List.cons_ne_nil row []⟩

/-- One run after another; the earlier fault wins. -/
theorem Accounts.append {run next : StepRun} (h : run.Accounts) (hnext : next.Accounts) :
    Accounts ⟨run.rows ++ next.rows, run.error.or next.error⟩ where
  coherent row hrow :=
    (List.mem_append.mp hrow).elim (fun hold => h.coherent row hold)
      fun hnew => hnext.coherent row hnew
  error_eq := by rw [Row.leafFault?_append, ← h.error_eq, ← hnext.error_eq]

theorem Accounts.withSuffix {run : StepRun} (h : run.Accounts) (suffix : String) :
    Accounts { run with rows := run.rows.map (Row.withSuffix suffix) } where
  coherent row hrow := by
    obtain ⟨old, hold, rfl⟩ := List.mem_map.mp hrow
    exact (h.coherent old hold).withSuffix suffix
  error_eq := by rw [Row.leafFault?_withSuffix]; exact h.error_eq

theorem Complete.withSuffix {run : StepRun} (h : run.Complete) (suffix : String) :
    Complete { run with rows := run.rows.map (Row.withSuffix suffix) } :=
  ⟨h.toAccounts.withSuffix suffix, by simpa using h.rows_ne_nil⟩

theorem Accounts.within {run : StepRun} (h : run.Accounts) (parent : String) :
    Accounts { run with rows := run.rows.map (Row.within parent) } where
  coherent row hrow := by
    obtain ⟨old, hold, rfl⟩ := List.mem_map.mp hrow
    exact (h.coherent old hold).within parent
  error_eq := by rw [Row.leafFault?_within]; exact h.error_eq

/-- A row over the rows of a run, with their common outcome. -/
theorem Complete.group {run : StepRun} (h : run.Complete) {row : Row}
    (hchildren : row.children = run.rows)
    (houtcome : row.result.outcome = Engine.groupOutcome run.rows) :
    Complete ⟨[row], run.error⟩ where
  coherent other hother := by
    obtain rfl := List.mem_singleton.mp hother
    have hne : other.children ≠ [] := hchildren ▸ h.rows_ne_nil
    rw [← hchildren] at houtcome
    exact .group hne (fun child hchild => h.coherent child (hchildren ▸ hchild)) houtcome
  error_eq := by
    have hne : row.children ≠ [] := hchildren ▸ h.rows_ne_nil
    rw [Row.leafFault?_of_group hne, hchildren]
    exact h.error_eq
  rows_ne_nil := List.cons_ne_nil row []

end StepRun

namespace Engine

open StepRun (Accounts Complete)

/-! ## Rows that are leaves -/

theorem attempt_children (e : Engine σ) (step : Step) (frame : Option LoopFrame)
    (p : Progress σ) : (e.attempt step frame p).1.children = [] := by
  unfold attempt
  split
  · rfl
  · split <;> rfl

theorem attemptsFrom_children (e : Engine σ) (step : Step) (policy : RetryPolicy)
    (base : Duration) (frame : Option LoopFrame) (remaining index : Nat) (logs : List String)
    (p : Progress σ) :
    (e.attemptsFrom step policy base frame remaining index logs p).1.children = [] := by
  induction remaining generalizing index logs p with
  | zero =>
      unfold attemptsFrom
      dsimp only
      split <;> exact e.attempt_children step frame p
  | succ remaining ih =>
      unfold attemptsFrom
      dsimp only
      split
      · exact e.attempt_children step frame p
      · exact e.attempt_children step frame p
      · exact ih _ _ _

theorem retry_children (e : Engine σ) (step : Step) (policy : RetryPolicy)
    (frame : Option LoopFrame) (p : Progress σ) :
    (e.retry step policy frame p).1.children = [] := by
  unfold retry
  split
  · rfl
  · exact e.attemptsFrom_children ..

theorem check_error_children {e : Engine σ} {step : Step} {condition : String} {store : Store}
    {frame : Option LoopFrame} {row : Row}
    (h : e.check step condition store frame = .error row) : row.children = [] := by
  unfold check at h
  split at h
  · cases h
  · obtain rfl := Except.error.inj h
    rfl

/-! ## Conditions and iterations -/

theorem conditional_complete (e : Engine σ) (step : Step) (condition : String)
    {body : Runner σ} (hbody : body.Complete) :
    Runner.Complete (e.conditional step condition body) := by
  intro frame p
  unfold conditional
  split
  · exact hbody frame p
  · exact .ofRow rfl
  · next row hrow => exact .ofRow (check_error_children hrow)

theorem gated_complete (e : Engine σ) (step : Step) {body : Runner σ} (hbody : body.Complete) :
    Runner.Complete (e.gated step body) := by
  intro frame p
  unfold gated
  split
  · exact hbody frame p
  · exact e.conditional_complete step _ hbody frame p

theorem iteration_complete (e : Engine σ) (step : Step) {body : Runner σ}
    (hbody : body.Complete) (frame : LoopFrame) (p : Progress σ) :
    (e.iteration step body frame p).1.Complete := by
  rw [iteration_eq]
  exact (e.gated_complete step hbody _ _).withSuffix _

/-! ## Loops

The rows before an iteration are kept the latest first, and they have no
fault: a loop goes on only after an iteration without one. -/

theorem accounts_reverse_append {done : List Row} {run : StepRun}
    (hdone : Accounts ⟨done.reverse, none⟩) (hrun : run.Accounts) :
    Accounts ⟨(run.rows.reverse ++ done).reverse, run.error⟩ := by
  have happend := hdone.append hrun
  rw [List.reverse_append, List.reverse_reverse]
  exact happend

theorem forIterations_accounts (e : Engine σ) (step : Step) {body : Runner σ}
    (hbody : body.Complete) (spec : LoopSpec) (condition : String) (remaining index : Nat)
    {done : List Row} (hdone : Accounts ⟨done.reverse, none⟩) (p : Progress σ) :
    (e.forIterations step body spec condition remaining index done p).1.Accounts := by
  induction remaining generalizing index done p with
  | zero => exact hdone
  | succ remaining ih =>
      have hnext := fun frame =>
        accounts_reverse_append hdone (e.iteration_complete step hbody frame p).toAccounts
      unfold forIterations
      dsimp only
      split
      · next fault hfault => rw [← hfault]; exact hnext _
      · next hfault => exact ih _ (hfault ▸ hnext _) _

theorem forIterations_rows_ne_nil (e : Engine σ) (step : Step) {body : Runner σ}
    (hbody : body.Complete) (spec : LoopSpec) (condition : String) (remaining index : Nat)
    {done : List Row} (h : remaining ≠ 0 ∨ done ≠ []) (p : Progress σ) :
    (e.forIterations step body spec condition remaining index done p).1.rows ≠ [] := by
  induction remaining generalizing index done p with
  | zero => simpa [forIterations] using h
  | succ remaining ih =>
      have hrows := fun frame => (e.iteration_complete step hbody frame p).rows_ne_nil
      unfold forIterations
      dsimp only
      split
      · simp [hrows]
      · exact ih _ (Or.inr (by simp [hrows])) _

theorem forLoop_complete (e : Engine σ) (step : Step) (text : String) {body : Runner σ}
    (hbody : body.Complete) (p : Progress σ) : (e.forLoop step text body p).1.Complete := by
  unfold forLoop
  split
  · exact .ofRow rfl
  · next spec _ =>
      split
      · exact .ofRow rfl
      · next hitems =>
          have hlength : spec.length ≠ 0 := fun h => hitems (by simp [LoopSpec.isEmpty, h])
          exact ⟨e.forIterations_accounts step hbody _ _ _ _ .empty _,
            e.forIterations_rows_ne_nil step hbody _ _ _ _ (Or.inl hlength) _⟩

theorem whileIterations_accounts (e : Engine σ) (step : Step) {body : Runner σ}
    (hbody : body.Complete) (condition : String) (limit remaining completed : Nat)
    {done : List Row} (hdone : Accounts ⟨done.reverse, none⟩) (p : Progress σ) :
    (e.whileIterations step body condition limit remaining completed done p).1.Accounts := by
  induction remaining generalizing completed done p with
  | zero =>
      unfold whileIterations
      dsimp only
      split
      · next row hrow =>
          exact accounts_reverse_append hdone (.ofRow (check_error_children hrow))
      · exact hdone
      · exact accounts_reverse_append hdone (Accounts.ofRow (by rfl))
  | succ remaining ih =>
      unfold whileIterations
      dsimp only
      split
      · next row hrow =>
          exact accounts_reverse_append hdone (.ofRow (check_error_children hrow))
      · exact hdone
      · have hnext := fun frame =>
          accounts_reverse_append hdone (e.iteration_complete step hbody frame p).toAccounts
        split
        · next fault hfault => rw [← hfault]; exact hnext _
        · next hfault => exact ih _ (hfault ▸ hnext _) _

theorem whileLoop_complete (e : Engine σ) (step : Step) (condition : String) {body : Runner σ}
    (hbody : body.Complete) (p : Progress σ) :
    (e.whileLoop step condition body p).1.Complete := by
  rw [whileLoop_eq]
  dsimp only
  split
  · exact .ofRow rfl
  · next hrows =>
      exact ⟨e.whileIterations_accounts step hbody _ _ _ _ .empty _, by simpa using hrows⟩

/-! ## Groups -/

/-- What a group has collected so far, as a run. -/
def GroupRun.toRun (done : GroupRun) : StepRun :=
  ⟨done.rows.reverse, done.error⟩

theorem runChildren_accounts (parent : String) {children : List (Step × Runner σ)}
    (hchildren : ∀ child ∈ children, child.2.Complete) (frame : Option LoopFrame)
    {done : GroupRun} (hdone : done.toRun.Accounts) (p : Progress σ) :
    (runChildren parent children frame done p).1.toRun.Accounts := by
  induction children generalizing done p with
  | nil => exact hdone
  | cons child rest ih =>
      obtain ⟨step, run⟩ := child
      have hrun := (hchildren _ List.mem_cons_self frame p).toAccounts.within parent
      have hnext : GroupRun.toRun
          { rows := ((run frame p).1.rows.map (Row.within parent)).reverse ++ done.rows
            error := done.error.or (run frame p).1.error } |>.Accounts := by
        have happend := hdone.append hrun
        simpa only [GroupRun.toRun, List.reverse_append, List.reverse_reverse] using happend
      unfold runChildren
      dsimp only
      split
      · exact hnext
      · exact ih (fun child hchild => hchildren child (List.mem_cons_of_mem _ hchild)) hnext _

theorem runChildren_rows_ne_nil (parent : String) {children : List (Step × Runner σ)}
    (hchildren : ∀ child ∈ children, child.2.Complete) (frame : Option LoopFrame)
    {done : GroupRun} (h : children ≠ [] ∨ done.rows ≠ []) (p : Progress σ) :
    (runChildren parent children frame done p).1.rows ≠ [] := by
  induction children generalizing done p with
  | nil => exact h.resolve_left fun hne => hne rfl
  | cons child rest ih =>
      obtain ⟨step, run⟩ := child
      have hrows : (run frame p).1.rows ≠ [] := (hchildren _ List.mem_cons_self frame p).rows_ne_nil
      unfold runChildren
      dsimp only
      split
      · simp [hrows]
      · exact ih (fun child hchild => hchildren child (List.mem_cons_of_mem _ hchild))
          (Or.inr (by simp [hrows])) _

theorem group_complete (step : Step) {children : List (Step × Runner σ)}
    (hchildren : ∀ child ∈ children, child.2.Complete) (hne : children ≠ []) :
    Runner.Complete (group step children) := by
  intro frame p
  have hempty : (GroupRun.toRun {}).Accounts := .empty
  have hrows : (runChildren step.name children frame {} p).1.rows ≠ [] :=
    runChildren_rows_ne_nil step.name hchildren frame (Or.inl hne) p
  have hrun : (runChildren step.name children frame {} p).1.toRun.Complete :=
    ⟨runChildren_accounts step.name hchildren frame hempty p,
      by simpa [GroupRun.toRun] using hrows⟩
  exact hrun.group rfl rfl

/-! ## Steps -/

theorem core_complete (e : Engine σ) (step : Step)
    (hchildren : ∀ child ∈ e.childrenOf step, child.2.Complete) :
    Runner.Complete (e.core step (e.childrenOf step)) := by
  intro frame p
  rw [core_eq]
  split
  · next hgroup => exact group_complete step hchildren (e.childrenOf_ne_nil hgroup) frame p
  · split
    · exact .ofRow (e.retry_children ..)
    · exact .ofRow (e.attempt_children ..)

theorem dispatch_complete (e : Engine σ) (step : Step)
    (hchildren : ∀ child ∈ e.childrenOf step, child.2.Complete) :
    Runner.Complete (e.dispatch step (e.childrenOf step)) := by
  have hcore := e.core_complete step hchildren
  intro frame p
  rw [dispatch_eq]
  split
  · exact e.forLoop_complete step _ hcore p
  · exact e.whileLoop_complete step _ hcore p
  · exact e.conditional_complete step _ hcore frame p
  · exact hcore frame p

/-- Every step runs completely, at any position in any loop. -/
theorem runner_complete (e : Engine σ) (step : Step) : (e.runner step).Complete := by
  induction step using Step.induction with
  | h step ih =>
      rw [runner_eq]
      refine e.dispatch_complete step fun child hchild => ?_
      obtain ⟨below, hbelow, rfl⟩ := List.mem_map.mp hchild
      exact ih below hbelow

/-- **A run accounts for its faults.** It has a row, its fault is that of
the first leaf which is an error, and it has none only if no leaf is one. -/
theorem runStep_error_eq (e : Engine σ) (step : Step) (p : Progress σ) :
    let run := (e.runStep step p).1
    run.rows ≠ [] ∧
      run.error = ((run.rows.flatMap Row.leaves).find? fun leaf => leaf.status == .error).bind
        (fun leaf => leaf.result.outcome.fault?) ∧
      (run.error = none ↔ ∀ leaf ∈ run.rows.flatMap Row.leaves, leaf.status ≠ .error) := by
  have hrun : (e.runStep step p).1.Complete := e.runner_complete step none p
  refine ⟨hrun.rows_ne_nil, ?_, ?_⟩
  · rw [← Row.leafFault?_eq_bind_find?]
    exact hrun.error_eq
  · rw [← Row.leafFault?_eq_none_iff, ← hrun.error_eq]

end Engine

end Scenario
