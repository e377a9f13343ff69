import Scenario.Proofs.Attempts
import Scenario.Proofs.Phase

/-!
# Where the leaves of a run come from

A step adds rows of its own to a run only in a few ways (`Engine.OwnRow`):
for a condition, for a loop that has no iterations or cannot go on, and for
its action. All other rows are those of groups, and a group has a row below
it. So every leaf is a row of one step of the tree, with the names of the
groups around that step before its name and, if the step is a loop, the
number of an iteration after it (`Engine.Yields`).

That a run of a step has no other leaves is `runner_sourced`, by induction
on the step. Inside of its loop a step has rows that an iteration may still
number; they are rows of its own or the row of its group (`BodyRow`), whose
leaves keep their names. Loops, groups and phases only collect rows: what
holds of every row that they collect holds of all their rows.
-/

namespace Scenario

variable {σ : Type}

namespace Engine

/-! ## Rows of one step -/

/-- The rows that are about a step itself, none of which has rows below
it. -/
inductive OwnRow (e : Engine σ) (step : Step) : Row → Prop
  /-- The condition of the step is false. -/
  | skipped {condition : String} (store : Store) (hif : step.onlyIf = some condition)
      (hfalse : Condition.evaluate e.env store condition = .ok false) :
      OwnRow e step (e.skippedRow step condition store)
  /-- The condition of the step or of its loop cannot be evaluated. -/
  | unevaluable {condition : String} {error : ConditionError} (store : Store)
      (frame : Option LoopFrame)
      (hcondition : step.onlyIf = some condition ∨ step.whileTrue = some condition)
      (herror : Condition.evaluate e.env store condition = .error error) :
      OwnRow e step (step.faultRow (e.conditionFault step condition error store frame))
  /-- The loop has no iterations. -/
  | emptyLoop (kind : LoopKind)
      (hloop : step.forEach.isSome = true ∨ step.whileTrue.isSome = true) :
      OwnRow e step (emptyLoopRow step kind)
  /-- The specification of the loop cannot be read. -/
  | unreadable {text : String} {error : LoopSpecError} (store : Store)
      (hfor : step.forEach = some text) (hparse : LoopSpec.parse e.env store text = .error error) :
      OwnRow e step (step.faultRow (e.forSpecFault step text error))
  /-- The condition of the loop holds at its limit. -/
  | exceeded {condition : String} (limit : Nat) (frame : Option LoopFrame)
      (hwhile : step.whileTrue = some condition) :
      OwnRow e step (step.faultRow (e.maxIterationsFault step condition limit frame))
  /-- The action was attempted. -/
  | attempted (frame : Option LoopFrame) (p : Progress σ) (hgroup : step.hasChildren = false)
      (hretry : step.retry = none) : OwnRow e step (e.attempt step frame p).1
  /-- The action was attempted under a retry policy. -/
  | retried {policy : RetryPolicy} (frame : Option LoopFrame) (p : Progress σ)
      (hgroup : step.hasChildren = false) (hretry : step.retry = some policy) :
      OwnRow e step (e.retry step policy frame p).1

/-- A run of `step` can have a leaf that is a row of `inner`, a step of its
tree. -/
inductive Yields (e : Engine σ) : (step : Step) → (leaf : Row) → (inner : Step) → Prop
  /-- The row of the step itself. -/
  | own {step : Step} {row : Row} (hrow : e.OwnRow step row) : Yields e step row step
  /-- The row of an iteration of the step. -/
  | numbered {step : Step} {row : Row} (suffix : String) (hrow : e.OwnRow step row) :
      Yields e step (row.withSuffix suffix) step
  /-- A leaf of a step of the group. -/
  | child {step child inner : Step} {row : Row} (hchild : child ∈ step.steps)
      (hyields : Yields e child row inner) : Yields e step (row.within step.name) inner

variable {e : Engine σ} {step : Step}

theorem OwnRow.children {row : Row} (h : e.OwnRow step row) : row.children = [] := by
  cases h with
  | attempted frame p => exact e.attempt_children step frame p
  | retried frame p => exact e.retry_children step _ frame p
  | skipped | unevaluable | emptyLoop | unreadable | exceeded => rfl

theorem Yields.mem_tree {leaf : Row} {inner : Step} (h : e.Yields step leaf inner) :
    inner ∈ step.tree := by
  induction h with
  | own => exact Step.self_mem_tree _
  | numbered => exact Step.self_mem_tree _
  | child hchild _ ih => exact Step.mem_tree_of_child hchild ih

/-- A leaf carries what the row of its step carries. -/
theorem Yields.exists_ownRow {leaf : Row} {inner : Step} (h : e.Yields step leaf inner) :
    ∃ row, e.OwnRow inner row ∧ row.result = leaf.result := by
  induction h with
  | own hrow => exact ⟨_, hrow, rfl⟩
  | numbered suffix hrow => exact ⟨_, hrow, rfl⟩
  | child hchild hyields ih =>
      obtain ⟨row, hrow, hresult⟩ := ih
      exact ⟨row, hrow, hresult.trans (Row.within_result _ _).symm⟩

/-- Every leaf of a row comes from a step of the tree. -/
def Sourced (e : Engine σ) (step : Step) (row : Row) : Prop :=
  ∀ leaf ∈ row.leaves, ∃ inner, e.Yields step leaf inner

theorem OwnRow.sourced {row : Row} (h : e.OwnRow step row) : e.Sourced step row := by
  intro leaf hleaf
  rw [Row.leaves_of_leaf h.children] at hleaf
  rw [List.mem_singleton.mp hleaf]
  exact ⟨step, .own h⟩

/-- The rows of the steps of a group come from the group. -/
theorem Sourced.within {child : Step} {row : Row} (hchild : child ∈ step.steps)
    (h : e.Sourced child row) : e.Sourced step (row.within step.name) := by
  intro leaf hleaf
  rw [Row.leaves_within] at hleaf
  obtain ⟨below, hbelow, rfl⟩ := List.mem_map.mp hleaf
  obtain ⟨inner, hyields⟩ := h below hbelow
  exact ⟨inner, .child hchild hyields⟩

/-! ## Inside of a loop -/

/-- The rows that a step has inside of its loop: its own, or that of its
group. -/
inductive BodyRow (e : Engine σ) (step : Step) : Row → Prop
  | own {row : Row} (hrow : e.OwnRow step row) : BodyRow e step row
  | group {row : Row} (hne : row.children ≠ [])
      (hbelow : ∀ child ∈ row.children, e.Sourced step child) : BodyRow e step row

theorem BodyRow.sourced {row : Row} (h : e.BodyRow step row) : e.Sourced step row := by
  cases h with
  | own hrow => exact hrow.sourced
  | group hne hbelow =>
      intro leaf hleaf
      rw [Row.leaves_of_group hne] at hleaf
      obtain ⟨child, hchild, hleaf⟩ := List.mem_flatMap.mp hleaf
      exact hbelow child hchild leaf hleaf

/-- An iteration numbers a row of the step itself; below the row of a group
it changes nothing. -/
theorem BodyRow.sourced_withSuffix {row : Row} (h : e.BodyRow step row) (suffix : String) :
    e.Sourced step (row.withSuffix suffix) := by
  cases h with
  | own hrow =>
      intro leaf hleaf
      have hnumbered : (row.withSuffix suffix).children = [] := hrow.children
      rw [Row.leaves_of_leaf hnumbered] at hleaf
      rw [List.mem_singleton.mp hleaf]
      exact ⟨step, .numbered suffix hrow⟩
  | group hne hbelow =>
      have hgroup : e.BodyRow step (row.withSuffix suffix) := .group hne hbelow
      exact hgroup.sourced

/-- All rows of a way to run a step have a property. -/
def RowsHave (property : Row → Prop) (run : Runner σ) : Prop :=
  ∀ frame p, ∀ row ∈ (run frame p).1.rows, property row

theorem ownRow_of_check_error {condition : String} {store : Store} {frame : Option LoopFrame}
    {row : Row} (h : e.check step condition store frame = .error row)
    (hcondition : step.onlyIf = some condition ∨ step.whileTrue = some condition) :
    e.OwnRow step row := by
  obtain ⟨error, herror, rfl⟩ := check_eq_error_iff.mp h
  exact .unevaluable store frame hcondition herror

theorem conditional_rowsHave {property : Row → Prop} {condition : String} {body : Runner σ}
    (hif : step.onlyIf = some condition) (hown : ∀ row, e.OwnRow step row → property row)
    (hbody : RowsHave property body) : RowsHave property (e.conditional step condition body) := by
  intro frame p row hrow
  unfold conditional at hrow
  split at hrow
  · exact hbody frame p row hrow
  · next hcheck =>
      rw [List.mem_singleton.mp hrow]
      exact hown _ (.skipped p.store hif (check_eq_ok_iff.mp hcheck))
  · next hcheck =>
      rw [List.mem_singleton.mp hrow]
      exact hown _ (ownRow_of_check_error hcheck (.inl hif))

theorem gated_rowsHave {property : Row → Prop} {body : Runner σ}
    (hown : ∀ row, e.OwnRow step row → property row) (hbody : RowsHave property body) :
    RowsHave property (e.gated step body) := by
  intro frame p
  unfold gated
  split
  · exact hbody frame p
  · next hif => exact conditional_rowsHave hif hown hbody frame p

theorem iteration_sourced {body : Runner σ} (hbody : RowsHave (e.BodyRow step) body)
    (frame : LoopFrame) (p : Progress σ) :
    ∀ row ∈ (e.iteration step body frame p).1.rows, e.Sourced step row := by
  intro row hrow
  rw [iteration_eq] at hrow
  obtain ⟨old, hold, rfl⟩ := List.mem_map.mp hrow
  exact (gated_rowsHave (fun _ hown => .own hown) hbody _ _ old hold).sourced_withSuffix _

/-! ## Loops

The rows before an iteration are kept the latest first. -/

/-- What holds of all rows of a run and of those before it holds of all that
are kept. -/
theorem forall_mem_collected {property : Row → Prop} {rows done : List Row}
    (hrows : ∀ row ∈ rows, property row) (hdone : ∀ row ∈ done, property row) :
    ∀ row ∈ rows.reverse ++ done, property row := by
  intro row hrow
  rcases List.mem_append.mp hrow with hnew | hold
  · exact hrows row (List.mem_reverse.mp hnew)
  · exact hdone row hold

theorem forIterations_sourced {body : Runner σ} (hbody : RowsHave (e.BodyRow step) body)
    {spec : LoopSpec} {condition : String} {remaining index : Nat} {done : List Row}
    {p : Progress σ} (hdone : ∀ row ∈ done, e.Sourced step row) :
    ∀ row ∈ (e.forIterations step body spec condition remaining index done p).1.rows,
      e.Sourced step row := by
  induction remaining generalizing index done p with
  | zero => exact fun row hrow => hdone row (List.mem_reverse.mp hrow)
  | succ remaining ih =>
      have hnext (frame : LoopFrame) :=
        forall_mem_collected (iteration_sourced hbody frame p) hdone
      unfold forIterations
      dsimp only
      split
      · exact fun row hrow => hnext _ row (List.mem_reverse.mp hrow)
      · exact ih (hnext _)

theorem forLoop_sourced {text : String} {body : Runner σ} (hfor : step.forEach = some text)
    (hbody : RowsHave (e.BodyRow step) body) (p : Progress σ) :
    ∀ row ∈ (e.forLoop step text body p).1.rows, e.Sourced step row := by
  unfold forLoop
  split
  · next hparse =>
      intro row hrow
      rw [List.mem_singleton.mp hrow]
      exact (OwnRow.unreadable p.store hfor hparse).sourced
  · split
    · intro row hrow
      rw [List.mem_singleton.mp hrow]
      exact (OwnRow.emptyLoop .forEach (.inl (Option.isSome_of_mem hfor))).sourced
    · exact forIterations_sourced hbody nofun

theorem whileIterations_sourced {condition : String} {body : Runner σ}
    (hwhile : step.whileTrue = some condition) (hbody : RowsHave (e.BodyRow step) body)
    {limit remaining completed : Nat} {done : List Row} {p : Progress σ}
    (hdone : ∀ row ∈ done, e.Sourced step row) :
    ∀ row ∈ (e.whileIterations step body condition limit remaining completed done p).1.rows,
      e.Sourced step row := by
  have hlast {row : Row} (hrow : e.OwnRow step row) {done : List Row}
      (hdone : ∀ row ∈ done, e.Sourced step row) :
      ∀ row' ∈ (row :: done).reverse, e.Sourced step row' := by
    intro row' hrow'
    rcases List.mem_cons.mp (List.mem_reverse.mp hrow') with rfl | hold
    · exact hrow.sourced
    · exact hdone row' hold
  induction remaining generalizing completed done p with
  | zero =>
      unfold whileIterations
      dsimp only
      split
      · next hcheck => exact hlast (ownRow_of_check_error hcheck (.inr hwhile)) hdone
      · exact fun row hrow => hdone row (List.mem_reverse.mp hrow)
      · exact hlast (.exceeded limit _ hwhile) hdone
  | succ remaining ih =>
      unfold whileIterations
      dsimp only
      split
      · next hcheck => exact hlast (ownRow_of_check_error hcheck (.inr hwhile)) hdone
      · exact fun row hrow => hdone row (List.mem_reverse.mp hrow)
      · have hnext (frame : LoopFrame) :=
          forall_mem_collected (iteration_sourced hbody frame p) hdone
        split
        · exact fun row hrow => hnext _ row (List.mem_reverse.mp hrow)
        · exact ih (hnext _)

theorem whileLoop_sourced {condition : String} {body : Runner σ}
    (hwhile : step.whileTrue = some condition) (hbody : RowsHave (e.BodyRow step) body)
    (p : Progress σ) : ∀ row ∈ (e.whileLoop step condition body p).1.rows, e.Sourced step row := by
  rw [whileLoop_eq]
  dsimp only
  split
  · intro row hrow
    rw [List.mem_singleton.mp hrow]
    exact (OwnRow.emptyLoop .whileTrue (.inr (Option.isSome_of_mem hwhile))).sourced
  · exact whileIterations_sourced hwhile hbody nofun

/-! ## Groups and steps -/

theorem runChildren_rows {property : Row → Prop} {parent : String}
    {children : List (Step × Runner σ)}
    (hchildren : ∀ child ∈ children, RowsHave (fun row => property (row.within parent)) child.2)
    {frame : Option LoopFrame} {done : GroupRun} (hdone : ∀ row ∈ done.rows, property row)
    {p : Progress σ} :
    ∀ row ∈ (runChildren parent children frame done p).1.rows, property row := by
  induction children generalizing done p with
  | nil => exact hdone
  | cons child rest ih =>
      obtain ⟨step, run⟩ := child
      have hnew : ∀ row ∈ (run frame p).1.rows.map (Row.within parent), property row := by
        intro row hrow
        obtain ⟨old, hold, rfl⟩ := List.mem_map.mp hrow
        exact hchildren _ List.mem_cons_self frame p old hold
      have hnext := forall_mem_collected hnew hdone
      unfold runChildren
      dsimp only
      split
      · exact hnext
      · exact ih (fun child hchild => hchildren child (List.mem_cons_of_mem _ hchild)) hnext

/-- The row of a group has rows below it, and they come from its steps. -/
theorem group_rowsHave (hgroup : step.hasChildren = true)
    (hbelow : ∀ child ∈ step.steps, RowsHave (e.Sourced child) (e.runner child)) :
    RowsHave (e.BodyRow step) (group step (e.childrenOf step)) := by
  intro frame p row hrow
  rw [List.mem_singleton.mp hrow]
  have hcomplete : ∀ child ∈ e.childrenOf step, child.2.Complete := by
    intro child hchild
    obtain ⟨below, -, rfl⟩ := List.mem_map.mp hchild
    exact e.runner_complete below
  have hsourced : ∀ child ∈ e.childrenOf step,
      RowsHave (fun row => e.Sourced step (row.within step.name)) child.2 := by
    intro child hchild frame p row hrow
    obtain ⟨below, hmem, rfl⟩ := List.mem_map.mp hchild
    exact (hbelow below hmem frame p row hrow).within hmem
  have hempty : ∀ row ∈ ({} : GroupRun).rows, e.Sourced step row := nofun
  -- the first step of the group has a row, so the row of the group is no leaf
  have hrows : (runChildren step.name (e.childrenOf step) frame {} p).1.rows ≠ [] :=
    runChildren_rows_ne_nil step.name hcomplete frame (.inl (e.childrenOf_ne_nil hgroup)) p
  refine .group (mt List.reverse_eq_nil_iff.mp hrows) fun child hchild => ?_
  exact runChildren_rows hsourced hempty child (List.mem_reverse.mp hchild)

theorem core_rowsHave
    (hbelow : ∀ child ∈ step.steps, RowsHave (e.Sourced child) (e.runner child)) :
    RowsHave (e.BodyRow step) (e.core step (e.childrenOf step)) := by
  intro frame p row hrow
  rw [core_eq] at hrow
  split at hrow
  · next hgroup => exact group_rowsHave hgroup hbelow frame p row hrow
  · next hgroup =>
      have hgroup := Bool.not_eq_true _ ▸ hgroup
      split at hrow
      · next hretry =>
          rw [List.mem_singleton.mp hrow]
          exact .own (.retried frame p hgroup hretry)
      · next hretry =>
          rw [List.mem_singleton.mp hrow]
          exact .own (.attempted frame p hgroup hretry)

theorem dispatch_sourced
    (hbelow : ∀ child ∈ step.steps, RowsHave (e.Sourced child) (e.runner child)) :
    RowsHave (e.Sourced step) (e.dispatch step (e.childrenOf step)) := by
  have hcore := core_rowsHave hbelow
  have hleaves : RowsHave (e.Sourced step) (e.core step (e.childrenOf step)) :=
    fun frame p row hrow => (hcore frame p row hrow).sourced
  intro frame p
  rw [dispatch_eq]
  split
  · next hfor => exact forLoop_sourced hfor hcore p
  · next hwhile => exact whileLoop_sourced hwhile hcore p
  · next hif => exact conditional_rowsHave hif (fun _ hown => hown.sourced) hleaves frame p
  · exact hleaves frame p

/-- Every leaf of a run of a step comes from a step of its tree. -/
theorem runner_sourced (e : Engine σ) (step : Step) :
    RowsHave (e.Sourced step) (e.runner step) := by
  induction step using Step.induction with
  | h step ih =>
      rw [runner_eq]
      exact dispatch_sourced ih

/-! ## Phases -/

theorem dispatches_run (e : Engine σ) (steps : List Step) (p : Progress σ) :
    ∀ d ∈ e.dispatches steps p, ∃ q, d.run = (e.runStep d.step q).1 := by
  induction steps generalizing p with
  | nil => exact nofun
  | cons step rest ih =>
      intro d hd
      rcases List.mem_cons.mp hd with rfl | hlater
      · exact ⟨p, rfl⟩
      · exact ih _ d hlater

theorem runPhase_sourced (e : Engine σ) (phase : Phase) (steps : List Step) (p : Progress σ) :
    ∀ row ∈ (e.runPhase phase steps [] p).1.rows, ∃ step ∈ steps, e.Sourced step row := by
  intro row hrow
  rw [(e.runPhase_eq phase steps [] p).1, List.reverse_nil, List.nil_append] at hrow
  obtain ⟨d, hd, hrow⟩ := List.mem_flatMap.mp hrow
  have hd : d ∈ e.dispatches steps p := List.mem_of_mem_take hd
  obtain ⟨q, hrun⟩ := e.dispatches_run steps p d hd
  refine ⟨d.step, ?_, ?_⟩
  · rw [← e.dispatches_map_step steps p]
    exact List.mem_map_of_mem hd
  · rw [hrun] at hrow
    exact e.runner_sourced d.step none q row hrow

/-- Every leaf of a report comes from a step of the same phase. -/
theorem runTest_sourced (e : Engine σ) (test : TestCase) (p : Progress σ) :
    let report := (e.runTest test p).1
    (∀ row ∈ report.setup, ∃ step ∈ test.setup, e.Sourced step row) ∧
      (∀ row ∈ report.steps, ∃ step ∈ test.steps, e.Sourced step row) ∧
      ∀ row ∈ report.teardown, ∃ step ∈ test.teardown, e.Sourced step row := by
  rw [runTest_eq]
  refine ⟨e.runPhase_sourced .setup test.setup _, ?_, e.runPhase_sourced .teardown test.teardown _⟩
  dsimp only
  unfold mainRun
  split
  -- a critical step has stopped the setup: the main phase has no rows
  · exact nofun
  · exact e.runPhase_sourced .main test.steps _

/-- **Where leaves come from.** Every leaf of a report, in any phase and at
any depth, is a row of a step of the test case. -/
theorem runTest_yields (e : Engine σ) (test : TestCase) (p : Progress σ) :
    let report := (e.runTest test p).1
    ∀ leaf ∈ (report.setup ++ report.steps ++ report.teardown).flatMap Row.leaves,
      ∃ step ∈ test.setup ++ test.steps ++ test.teardown, ∃ inner, e.Yields step leaf inner := by
  intro report leaf hleaf
  obtain ⟨hsetup, hsteps, hteardown⟩ := e.runTest_sourced test p
  obtain ⟨row, hrow, hbelow⟩ := List.mem_flatMap.mp hleaf
  rcases List.mem_append.mp hrow with hrow | hrow
  · rcases List.mem_append.mp hrow with hrow | hrow
    · obtain ⟨step, hstep, hsourced⟩ := hsetup row hrow
      exact ⟨step, List.mem_append_left _ (List.mem_append_left _ hstep), hsourced leaf hbelow⟩
    · obtain ⟨step, hstep, hsourced⟩ := hsteps row hrow
      exact ⟨step, List.mem_append_left _ (List.mem_append_right _ hstep), hsourced leaf hbelow⟩
  · obtain ⟨step, hstep, hsourced⟩ := hteardown row hrow
    exact ⟨step, List.mem_append_right _ hstep, hsourced leaf hbelow⟩

end Engine

end Scenario
