import Scenario.Proofs.Grouping
import Scenario.Proofs.RowNames

/-!
# What a group says of its steps

The row of a group says how many of its steps were run, and counts the rows
that they have. A step has one row unless it is a loop, which has one for
each iteration, so the number is right only as long as every loop among the
steps has one row (`Records.right_iff`). A group with more rows than steps
says that it ran more steps than it has, and one that was stopped early may
seem to have run them all (`loop_counted_as_steps`).

The rows of a whole run are those of its events (`Engine.runner_rows`), and
rows of the step itself have no rows below them. So a row of a run with rows
below it is that of a group, and records the run of the steps of that group
from where the group began (`Engine.records_of_mem_tree`, by induction on
the step). Main statement: `Engine.group_records`.
-/

namespace Scenario

variable {σ : Type}

open Dispatched (rowsOf endOf)

/-! ## Rows below some groups -/

/-- A row under the names of some groups, of which the first is the
outermost. -/
def Row.inGroups (groups : List Step) (row : Row) : Row :=
  groups.foldr (fun group row => row.within group.name) row

theorem Event.row_inGroups (e : Engine σ) (groups : List Step) (event : Event σ) :
    event.row e groups = (event.row e []).inGroups groups := by
  induction groups with
  | nil => rfl
  | cons group groups ih => rw [← row_within, ih, Row.inGroups, Row.inGroups, List.foldr_cons]

/-! ## The record -/

/-- What a group says of the steps that it ran. -/
def executed (count total : Nat) : String :=
  s!"executed {count} of {total} nested step(s)"

/-- A number is determined by its digits. -/
theorem toString_nat_inj {m n : Nat} : toString m = toString n ↔ m = n := by
  constructor
  · intro h
    have hdigits : Nat.toDigits 10 m = Nat.toDigits 10 n := String.ofList_injective h
    rw [← Nat.ofDigitChars_ten_toDigits (n := m), hdigits, Nat.ofDigitChars_ten_toDigits]
  · rintro rfl
    rfl

theorem executed_inj {count count' total : Nat} :
    executed count total = executed count' total ↔ count = count' := by
  unfold executed
  simp only [String.append_left_inj, String.append_right_inj, toString_nat_inj]

/-- The row records the run of some steps of a group below other groups. -/
structure Records (groups : List Step) (group : Step) (ds : List (Dispatched σ)) (row : Row) :
    Prop where
  children : row.children = (rowsOf ds).map (Row.inGroups (groups ++ [group]))
  /-- The rows are counted. -/
  logs : row.logs = [executed (rowsOf ds).length group.steps.length]
  /-- The row gives the number of steps only if each of them has one row. -/
  right_iff : row.logs = [executed ds.length group.steps.length] ↔
    ∀ d ∈ ds, d.run.rows.length = 1
  /-- A step that is no loop has one row, and a loop has one at least. -/
  once : ∀ d ∈ ds, d.step.isLoop = false → d.run.rows.length = 1
  length_le : ds.length ≤ (rowsOf ds).length
  /-- The steps that were run are some of the group, or all. -/
  bounds : 1 ≤ ds.length ∧ ds.length ≤ group.steps.length
  /-- The rest was not run because of a fault of a step that does not say
  `continue`. -/
  stopped_iff : ds.length < group.steps.length ↔
    ∃ d next rest, ds.getLast? = some d ∧ group.steps = ds.map Dispatched.step ++ next :: rest ∧
      d.run.error.isSome = true ∧ d.step.continueOnFailure = false

namespace Engine

variable {e : Engine σ}

/-- A step that is no loop has one row. -/
theorem runner_once {step : Step} (h : step.isLoop = false) (frame : Option LoopFrame)
    (p : Progress σ) : (e.runner step frame p).1.rows.length = 1 := by
  have hevents := congrArg List.length (e.eventsOf_unnumbered h frame p)
  rw [List.length_map] at hevents
  rw [e.runner_rows step frame p, List.length_map, hevents, List.length_singleton]

theorem dispatchesAt_run (steps : List Step) (frame : Option LoopFrame) (p : Progress σ) :
    ∀ d ∈ e.dispatchesAt frame steps p, ∃ q, d.run = (e.runner d.step frame q).1 := by
  induction steps generalizing p with
  | nil => exact nofun
  | cons step rest ih =>
      intro d hd
      rcases List.mem_cons.mp hd with rfl | hlater
      · exact ⟨p, rfl⟩
      · exact ih _ d hlater

/-- Of steps with a row each there are as many as rows exactly if none has
more. -/
theorem length_rowsOf {ds : List (Dispatched σ)} (h : ∀ d ∈ ds, d.run.rows ≠ []) :
    ds.length ≤ (rowsOf ds).length ∧
      ((rowsOf ds).length = ds.length ↔ ∀ d ∈ ds, d.run.rows.length = 1) := by
  induction ds with
  | nil => exact ⟨Nat.le_refl _, fun _ => nofun, fun _ => rfl⟩
  | cons d rest ih =>
      obtain ⟨hle, hiff⟩ := ih fun other hother => h other (List.mem_cons_of_mem d hother)
      have hpos := List.length_pos_iff.mpr (h d List.mem_cons_self)
      have hrows : (rowsOf (d :: rest)).length = d.run.rows.length + (rowsOf rest).length := by
        rw [rowsOf, List.flatMap_cons, List.length_append, rowsOf]
      rw [hrows, List.length_cons, List.forall_mem_cons, ← hiff]
      omega

/-- A group that does not run all of its steps was stopped by the last one
that it ran. -/
theorem length_lt_iff {steps : List Step} {ds : List (Dispatched σ)}
    (h : Phase.main.Follows steps ds) :
    ds.length < steps.length ↔
      ∃ d next rest, ds.getLast? = some d ∧ steps = ds.map Dispatched.step ++ next :: rest ∧
        d.run.error.isSome = true ∧ d.step.continueOnFailure = false := by
  constructor
  · intro hlt
    obtain ⟨after, hsteps⟩ := h.in_order
    cases after with
    | nil =>
        rw [List.append_nil] at hsteps
        rw [← hsteps, List.length_map] at hlt
        exact absurd hlt (Nat.lt_irrefl _)
    | cons next rest =>
        rcases h.ends with hall | ⟨d, hlast, hstops⟩
        · rw [← hall, List.length_map] at hlt
          exact absurd hlt (Nat.lt_irrefl _)
        · obtain ⟨hcontinue, herror⟩ := Bool.and_eq_true_iff.mp hstops
          exact ⟨d, next, rest, hlast, hsteps.symm, herror, by simpa using hcontinue⟩
  · rintro ⟨d, next, rest, -, hsteps, -, -⟩
    rw [hsteps, List.length_append, List.length_map, List.length_cons]
    omega

/-- A row with the rows of the steps that a group runs, and with their
number, records the run of the group. -/
theorem groupDispatches_records {group : Step} (hgroup : group.hasChildren = true)
    (frame : Option LoopFrame) (p : Progress σ) {groups : List Step} {row : Row}
    (hchildren : row.children =
      (rowsOf (e.groupDispatches frame group.steps p)).map (Row.inGroups (groups ++ [group])))
    (hlogs : row.logs =
      [executed (rowsOf (e.groupDispatches frame group.steps p)).length group.steps.length]) :
    Records groups group (e.groupDispatches frame group.steps p) row := by
  have hfollows := e.groupDispatches_follows frame group.steps p
  have hrows : ∀ d ∈ e.groupDispatches frame group.steps p, d.run.rows ≠ [] := fun d hd =>
    (e.dispatchesAt_complete frame group.steps p d (List.mem_of_mem_take hd)).rows_ne_nil
  obtain ⟨hle, hiff⟩ := length_rowsOf hrows
  refine ⟨hchildren, hlogs, ?_, ?_, hle, ⟨?_, ?_⟩, length_lt_iff hfollows⟩
  · rw [hlogs, List.singleton_inj, executed_inj]
    exact hiff
  · intro d hd hloop
    obtain ⟨q, hrun⟩ := dispatchesAt_run group.steps frame p d (List.mem_of_mem_take hd)
    rw [hrun]
    exact runner_once hloop frame q
  · -- a group without a step that was run has no steps at all
    refine List.length_pos_iff.mpr fun hnil => ?_
    rw [hnil] at hfollows
    rcases hfollows.ends with hall | ⟨d, hlast, -⟩
    · simp [Step.hasChildren, ← hall] at hgroup
    · cases hlast
  · have hprefix := hfollows.in_order.length_le
    rwa [List.length_map] at hprefix

/-- The row of a group over the rows of the steps that it ran. -/
theorem core_of_group {group : Step} (hgroup : group.hasChildren = true)
    (frame : Option LoopFrame) (p : Progress σ) :
    (e.core group (e.childrenOf group) frame p).1.rows =
      [groupRow group
        ((rowsOf (e.groupDispatches frame group.steps p)).map (Row.within group.name))] := by
  obtain ⟨hrows, -⟩ := e.runChildren_eq frame group.name group.steps {} p
  rw [core_eq, if_pos hgroup, group_eq]
  exact congrArg (fun rows => [groupRow group rows]) hrows

/-! ## Rows of a whole run -/

/-- The events of a group are those of the steps that it runs. -/
theorem groupEvents_rows (steps : List Step) (frame : Option LoopFrame) (p : Progress σ) :
    (e.groupEvents steps frame p).map (Event.row e []) =
      rowsOf (e.groupDispatches frame steps p) := by
  induction steps generalizing p with
  | nil => rfl
  | cons child rest ih =>
      have hrows := e.runner_rows child frame p
      have hstops : Dispatched.stops .main
          ⟨child, (e.runner child frame p).1, (e.runner child frame p).2⟩ =
            ((e.runner child frame p).1.error.isSome && !child.continueOnFailure) :=
        Bool.and_comm _ _
      rw [groupDispatches_cons, groupEvents, eventsOf.groupEvents]
      dsimp only
      rw [hstops, List.map_append, ← hrows]
      split
      · simp [rowsOf]
      · rw [ih]
        rfl

/-- The row of a group, below other groups, records the run of its steps. -/
theorem group_row_records {group : Step} (hgroup : group.hasChildren = true)
    (iteration : Option Nat) (inside : Option LoopFrame) (q : Progress σ) (groups : List Step) :
    Records groups group (e.groupDispatches inside group.steps q)
      ((Event.group group iteration (e.groupEvents group.steps inside q)).row e groups) := by
  have hbelow : (e.groupEvents group.steps inside q).map (Event.row e (groups ++ [group])) =
      (rowsOf (e.groupDispatches inside group.steps q)).map
        (Row.inGroups (groups ++ [group])) := by
    rw [← groupEvents_rows, List.map_map]
    exact List.map_congr_left fun event _ => event.row_inGroups e (groups ++ [group])
  have hcount := congrArg List.length hbelow
  rw [List.length_map (Row.inGroups _)] at hcount
  rw [Event.row_group]
  exact groupDispatches_records hgroup inside q hbelow
    (congrArg (fun count => [executed count group.steps.length]) hcount)

/-- A group with rows below its own has steps. -/
theorem hasChildren_of_group_row {group : Step} {iteration : Option Nat}
    {inside : Option LoopFrame} {q : Progress σ} {groups : List Step}
    (hne : ((Event.group group iteration (e.groupEvents group.steps inside q)).row e
      groups).children ≠ []) : group.hasChildren = true := by
  rw [Event.row_group] at hne
  unfold Step.hasChildren
  cases hsteps : group.steps with
  | nil => exact absurd (by rw [hsteps]; rfl) hne
  | cons child rest => rfl

/-- A row with rows below it, anywhere below an event of a step, records the
run of a group. -/
theorem records_of_mem_tree {step : Step} {frame : Option LoopFrame} {p : Progress σ}
    {event : Event σ} (hevent : event ∈ e.eventsOf step frame p) (groups : List Step) {row : Row}
    (hrow : row ∈ (event.row e groups).tree) (hne : row.children ≠ []) :
    ∃ outer group inside q, step.Reaches outer group ∧ group.hasChildren = true ∧
      Records (groups ++ outer) group (e.groupDispatches inside group.steps q) row := by
  induction step using Step.induction generalizing frame p event groups with
  | h step ih =>
      rcases (mem_eventsOf hevent).own_or_group with ⟨iteration, cause, rfl⟩ |
          ⟨iteration, inside, q, rfl⟩
      · have hleaf := Event.row_own_children e groups step iteration cause
        rw [Row.tree_eq, hleaf, List.flatMap_nil, List.mem_singleton] at hrow
        rw [hrow] at hne
        exact absurd hleaf hne
      · rw [Row.tree_eq] at hrow
        rcases List.mem_cons.mp hrow with rfl | hinner
        · have hgroup := hasChildren_of_group_row hne
          refine ⟨[], step, inside, q, .self step, hgroup, ?_⟩
          rw [List.append_nil]
          exact group_row_records hgroup iteration inside q groups
        · rw [Event.row_group] at hinner
          obtain ⟨top, htop, hinner⟩ := List.mem_flatMap.mp hinner
          obtain ⟨below, hmem, rfl⟩ := List.mem_map.mp htop
          obtain ⟨child, hchild, start, hbelow⟩ := mem_groupEvents hmem
          obtain ⟨outer, group, inside, q, hreaches, hgroup, hrecords⟩ :=
            ih child hchild hbelow (groups ++ [step]) hinner
          refine ⟨step :: outer, group, inside, q, .child hchild hreaches, hgroup, ?_⟩
          rwa [List.append_assoc, List.singleton_append] at hrecords

/-- **What a group says of its steps.** Whenever a group is run, its row
says how many rows its steps have, and out of how many steps. This is the
number of the steps that were run only if each of these has one row, as all
have that are no loops. At least one of the steps was run, and fewer than
there are only if one that does not say `continue` ended in a fault before
the last. In the run of any step the rows with rows below them are those of
groups below the step, at any depth, and all of them record their group in
this way. -/
theorem group_records (e : Engine σ) (step : Step) (frame : Option LoopFrame) (p : Progress σ) :
    (step.hasChildren = true →
      ∃ own, (e.core step (e.childrenOf step) frame p).1.rows = [own] ∧
        Records [] step (e.groupDispatches frame step.steps p) own) ∧
    ∀ row ∈ (e.runner step frame p).1.rows.flatMap Row.tree, row.children ≠ [] →
      ∃ outer group inside q, step.Reaches outer group ∧ group.hasChildren = true ∧
        Records outer group (e.groupDispatches inside group.steps q) row := by
  constructor
  · intro hgroup
    refine ⟨_, core_of_group hgroup frame p, groupDispatches_records hgroup frame p rfl ?_⟩
    rw [groupRow, List.length_map]
    rfl
  · intro row hrow hne
    obtain ⟨top, htop, hbelow⟩ := List.mem_flatMap.mp hrow
    rw [e.runner_rows step frame p] at htop
    obtain ⟨event, hevent, rfl⟩ := List.mem_map.mp htop
    exact records_of_mem_tree hevent [] hbelow hne

/-- An engine with an action that passes and one that is an error. -/
def stopping : Engine Unit where
  catalog := .ofList [
    ("note", fun _ _ store state => (⟨.passed, none⟩, store, state)),
    ("boom", fun _ _ store state =>
      (.error ⟨.execution, "BOOM", "boom", .empty, []⟩, store, state))]

/-- A group in a group, with a loop that passes twice. -/
theorem group_records_outer :
    let inner : Step :=
      { name := "inner"
        steps := [{ name := "each", action := some "note", forEach := some "2" }] }
    let last : Step := { name := "last", action := some "note" }
    let step : Step := { name := "outer", steps := [inner, last] }
    let p : Progress Unit := ⟨.empty, (), []⟩
    step.hasChildren = true ∧
      (∃ own, (stopping.core step (stopping.childrenOf step) none p).1.rows = [own] ∧
        Records [] step (stopping.groupDispatches none step.steps p) own) ∧
      ∃ row ∈ (stopping.runner step none p).1.rows.flatMap Row.tree,
        row.name = "outer -> inner" ∧ row.children ≠ [] ∧
          ∃ outer group inside q, step.Reaches outer group ∧ group.hasChildren = true ∧
            Records outer group (stopping.groupDispatches inside group.steps q) row := by
  intro inner last step p
  obtain ⟨hown, hrows⟩ := group_records stopping step none p
  have hinner : (((stopping.runner step none p).1.rows.flatMap Row.tree).any fun row =>
      row.name == "outer -> inner" && !row.children.isEmpty) = true := by decide +kernel
  obtain ⟨row, hrow, hnamed⟩ := List.any_eq_true.mp hinner
  obtain ⟨hname, hchildren⟩ := Bool.and_eq_true_iff.mp hnamed
  have hne : row.children ≠ [] := by simpa using hchildren
  exact ⟨rfl, hown rfl, row, hrow, beq_iff_eq.mp hname, hne, hrows row hrow hne⟩

/-- A loop that runs three times is three steps of one. After a loop that
runs twice a fault stops the group before its last step, and the group says
that it ran all three. -/
theorem loop_counted_as_steps :
    let each (times : String) : Step :=
      { name := "each", action := some "note", forEach := some times }
    let boom : Step := { name := "boom", action := some "boom" }
    let note : Step := { name := "note", action := some "note" }
    let p : Progress Unit := ⟨.empty, (), []⟩
    let ran (steps : List Step) := (stopping.groupDispatches none steps p).map fun d => d.step.name
    let said (steps : List Step) :=
      (stopping.runStep { name := "group", steps := steps } p).1.rows.map Row.logs
    (ran [each "3"] = ["each"] ∧ said [each "3"] = [["executed 3 of 1 nested step(s)"]]) ∧
      ran [each "2", boom, note] = ["each", "boom"] ∧
        said [each "2", boom, note] = [["executed 3 of 3 nested step(s)"]] := by
  decide +kernel

end Engine

end Scenario
