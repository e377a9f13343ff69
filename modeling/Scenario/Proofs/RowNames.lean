import Scenario.Proofs.EventRows

/-!
# The names of rows

Every row of a run is about one step (`Origin`), and its name says which:
the names of the groups around the step from the outermost on, then the name
of the step, then the number of the iteration if the row is that of an
iteration of a loop on the step itself. Groups with loops show their number
in their own row only.

Rows as they are written hide this: a name is built up from the inside, one
group and one loop after another. The rows of events have the names in
closed form already (`runner_rows`), so what is left is to list the events
and their rows in the same order (`tree_names`), and to see that the groups
around an event are a path in the step tree (`origins_reached`) and its
number that of the iteration which wrote the row (`eventsOf_reported`).
-/

namespace Scenario

variable {σ : Type}

/-! ## Origins -/

/-- What a row is about. -/
structure Origin where
  /-- The groups around the step, the outermost first. -/
  groups : List Step
  step : Step
  /-- The iteration of the loop of the step that the row is about. -/
  iteration : Option Nat

def Origin.name (origin : Origin) : String :=
  origin.step.fullTitle origin.groups origin.iteration

/-- The row and all rows below it, each before those below it. -/
def Row.tree : Row → List Row
  | ⟨name, action, result, logs, attempts, children⟩ =>
    ⟨name, action, result, logs, attempts, children⟩ :: trees children
where
  trees : List Row → List Row
    | [] => []
    | row :: rest => row.tree ++ trees rest

namespace Event

/-- The origins of an event and of those below it, in the order of the
rows. -/
def origins (groups : List Step) : Event σ → List Origin
  | own step iteration _ => [⟨groups, step, iteration⟩]
  | group step iteration below =>
    ⟨groups, step, iteration⟩ :: originsOf (groups ++ [step]) below
where
  originsOf (groups : List Step) : List (Event σ) → List Origin
    | [] => []
    | event :: rest => event.origins groups ++ originsOf groups rest

end Event

/-- The step is run in iterations. -/
def Step.isLoop (step : Step) : Bool :=
  step.forEach.isSome || step.whileTrue.isSome

/-- The row is that of a loop itself, not of an iteration. -/
def Cause.OfLoop : Cause σ → Prop
  | .emptyLoop _ | .unreadable _ _ | .exceeded _ _ _ | .unevaluable _ _ _ _ => True
  | .skipped _ _ | .attempted _ _ | .retried _ _ _ => False

/-- The groups lead from a step of the tree to one below it. -/
inductive Step.Reaches : (outer : Step) → (groups : List Step) → (inner : Step) → Prop
  | self (step : Step) : Reaches step [] step
  | child {step child inner : Step} {groups : List Step} (hchild : child ∈ step.steps)
      (h : Reaches child groups inner) : Reaches step (step :: groups) inner

namespace Row

theorem trees_eq (rows : List Row) : tree.trees rows = rows.flatMap tree := by
  induction rows with
  | nil => rfl
  | cons row rest ih => rw [tree.trees, ih, List.flatMap_cons]

theorem tree_eq (row : Row) : row.tree = row :: row.children.flatMap tree := by
  obtain ⟨name, action, result, logs, attempts, children⟩ := row
  rw [tree, trees_eq]

end Row

namespace Event

theorem originsOf_eq (groups : List Step) (events : List (Event σ)) :
    origins.originsOf groups events = events.flatMap (origins groups) := by
  induction events with
  | nil => rfl
  | cons event rest ih => rw [origins.originsOf, ih, List.flatMap_cons]

theorem origins_own (groups : List Step) (step : Step) (iteration : Option Nat)
    (cause : Cause σ) : (own step iteration cause).origins groups = [⟨groups, step, iteration⟩] := by
  rw [origins]

theorem origins_group (groups : List Step) (step : Step) (iteration : Option Nat)
    (below : List (Event σ)) :
    (group step iteration below).origins groups =
      ⟨groups, step, iteration⟩ :: below.flatMap (origins (groups ++ [step])) := by
  rw [origins, originsOf_eq]

theorem trees_names {e : Engine σ} {groups : List Step} {events : List (Event σ)}
    (h : ∀ event ∈ events,
      (event.row e groups).tree.map Row.name = (event.origins groups).map Origin.name) :
    ((events.map (row e groups)).flatMap Row.tree).map Row.name =
      (events.flatMap (origins groups)).map Origin.name := by
  rw [List.flatMap_map, List.map_flatMap, List.map_flatMap, List.flatMap_def, List.flatMap_def,
    List.map_congr_left h]

/-- The rows of an event have the names of its origins. -/
theorem tree_names (e : Engine σ) (groups : List Step) (event : Event σ) :
    (event.row e groups).tree.map Row.name = (event.origins groups).map Origin.name := by
  induction event using Event.induction generalizing groups with
  | own step iteration cause =>
      rw [Row.tree_eq, row_own, origins_own]
      dsimp only
      rw [cause.row_children]
      rfl
  | group step iteration below ih =>
      have hbelow := trees_names fun event hevent => ih event hevent (groups ++ [step])
      rw [Row.tree_eq, row_group, origins_group, List.map_cons, List.map_cons]
      exact congrArg _ hbelow

end Event

namespace Engine

variable {e : Engine σ} {step : Step}

/-! ## Groups around a row -/

/-- All events of a step have origins below it; `outer` are the groups
around the step. -/
theorem origins_reached {frame : Option LoopFrame} {p : Progress σ} {event : Event σ}
    (h : event ∈ e.eventsOf step frame p) (outer : List Step) :
    ∀ origin ∈ event.origins outer,
      ∃ groups, origin.groups = outer ++ groups ∧ step.Reaches groups origin.step := by
  induction step using Step.induction generalizing frame p event outer with
  | h step ih =>
      intro origin horigin
      rcases (mem_eventsOf h).own_or_group with ⟨iteration, cause, rfl⟩ |
          ⟨iteration, inside, q, rfl⟩
      · rw [Event.origins_own, List.mem_singleton] at horigin
        rw [horigin]
        exact ⟨[], (List.append_nil outer).symm, .self step⟩
      · rw [Event.origins_group] at horigin
        rcases List.mem_cons.mp horigin with rfl | hbelow
        · exact ⟨[], (List.append_nil outer).symm, .self step⟩
        · obtain ⟨inner, hinner, horigin⟩ := List.mem_flatMap.mp hbelow
          obtain ⟨child, hchild, q, hinner⟩ := mem_groupEvents hinner
          obtain ⟨groups, hgroups, hreaches⟩ :=
            ih child hchild hinner (outer ++ [step]) origin horigin
          refine ⟨step :: groups, ?_, .child hchild hreaches⟩
          rw [hgroups, List.append_assoc, List.singleton_append]

/-! ## Numbers of iterations -/

/-- The events of a loop from an iteration on. An event has the number of
the iteration that wrote its row; only the loop itself has an event without
one, and that is the last. -/
inductive Numbered (e : Engine σ) (step : Step) : (index : Nat) → List (Event σ) → Prop
  | done {index : Nat} : Numbered e step index []
  | own {index : Nat} (cause : Cause σ) (hcause : cause.OfLoop) :
      Numbered e step index [.own step none cause]
  | iteration {index : Nat} {event : Event σ} {rest : List (Event σ)} (frame : LoopFrame)
      (q : Progress σ) (hindex : frame.index = index)
      (hrow : (e.iteration step (e.core step (e.childrenOf step)) frame q).1.rows =
        [event.row e []])
      (hnumber : event.iteration = some (index + 1))
      (hrest : Numbered e step (index + 1) rest) : Numbered e step index (event :: rest)

mutual

/-- What a step may report: its numbers are those of iterations, and below
its group are the events of the group. -/
inductive Reported (e : Engine σ) : Step → List (Event σ) → Prop
  | run {step : Step} {events : List (Event σ)}
      (hloop : step.isLoop = true → e.Numbered step 0 events)
      (honce : step.isLoop = false → events.map Event.iteration = [none])
      (hgroup : ∀ iteration below, .group step iteration below ∈ events →
        GroupReported e step.steps below) : Reported e step events

/-- What the steps of a group may report, up to one that ends the group. -/
inductive GroupReported (e : Engine σ) : List Step → List (Event σ) → Prop
  | ended {steps : List Step} : GroupReported e steps []
  | child {child : Step} {rest : List Step} {events later : List (Event σ)}
      (hchild : Reported e child events) (hrest : GroupReported e rest later) :
      GroupReported e (child :: rest) (events ++ later)

end

theorem numbered_iteration (frame : LoopFrame) (q : Progress σ) {rest : List (Event σ)}
    (hrest : e.Numbered step (frame.index + 1) rest) :
    e.Numbered step frame.index
      (e.iterationEvent step (e.groupEvents step.steps) frame q :: rest) := by
  have hcore := core_writes (fun child (_ : child ∈ step.steps) => e.runner_rows child)
  have hrow := iteration_writes hcore frame q
  have hnumber : (e.iterationEvent step (e.groupEvents step.steps) frame q).iteration =
      some (frame.index + 1) := by
    unfold iterationEvent
    cases e.gatedEvent step (e.groupEvents step.steps) (some frame) _ <;> rfl
  exact .iteration frame q rfl hrow hnumber hrest

theorem numbered_unless {index : Nat} {events : List (Event σ)} (stop : Bool)
    (h : e.Numbered step index events) :
    e.Numbered step index (if stop then [] else events) := by
  cases stop with
  | true => exact .done
  | false => exact h

theorem numbered_checkEvents {index : Nat} {condition : String} {store : Store}
    {last : Option LoopFrame} {next : List (Event σ)} (h : e.Numbered step index next) :
    e.Numbered step index (e.checkEvents step condition store last next) := by
  unfold checkEvents
  split
  · exact .own _ trivial
  · exact .done
  · exact h

theorem forEvents_numbered (spec : LoopSpec) (condition : String) (remaining index : Nat)
    (p : Progress σ) :
    e.Numbered step index
      (e.forEvents step (e.groupEvents step.steps) spec condition remaining index p) := by
  induction remaining generalizing index p with
  | zero => exact .done
  | succ remaining ih =>
      rw [forEvents]
      exact numbered_iteration (forFrame spec condition index) p
        (numbered_unless _ (ih (index + 1) _))

theorem whileEvents_numbered (condition : String) (limit remaining completed : Nat)
    (p : Progress σ) :
    e.Numbered step completed
      (e.whileEvents step (e.groupEvents step.steps) condition limit remaining completed p) := by
  induction remaining generalizing completed p with
  | zero =>
      rw [whileEvents]
      exact numbered_checkEvents (.own _ trivial)
  | succ remaining ih =>
      rw [whileEvents]
      exact numbered_checkEvents (numbered_iteration
        (e.whileFrame condition limit completed p.store) p
        (numbered_unless _ (ih (completed + 1) _)))

theorem eventsOf_numbered (hloop : step.isLoop = true) (frame : Option LoopFrame)
    (p : Progress σ) : e.Numbered step 0 (e.eventsOf step frame p) := by
  rw [eventsOf_eq, dispatchEvents]
  cases hfor : step.forEach with
  | some text =>
      dsimp only
      split
      · exact .own _ trivial
      · split
        · exact .own _ trivial
        · exact forEvents_numbered _ _ _ 0 p
  | none =>
      cases hwhile : step.whileTrue with
      | some condition =>
          dsimp only
          split
          · exact .own _ trivial
          · exact whileEvents_numbered condition _ _ 0 p
      | none => simp [Step.isLoop, hfor, hwhile] at hloop

theorem eventsOf_unnumbered (hloop : step.isLoop = false) (frame : Option LoopFrame)
    (p : Progress σ) : (e.eventsOf step frame p).map Event.iteration = [none] := by
  rw [Step.isLoop, Bool.or_eq_false_iff, Option.isSome_eq_false_iff, Option.isNone_iff_eq_none,
    Option.isSome_eq_false_iff, Option.isNone_iff_eq_none] at hloop
  rw [eventsOf_eq, dispatchEvents, hloop.1, hloop.2, List.map_singleton, gatedEvent_iteration]

theorem groupEvents_reported {steps : List Step}
    (hsteps : ∀ child ∈ steps, ∀ frame p, e.Reported child (e.eventsOf child frame p))
    (frame : Option LoopFrame) (p : Progress σ) :
    e.GroupReported steps (e.groupEvents steps frame p) := by
  induction steps generalizing p with
  | nil => exact .ended
  | cons child rest ih =>
      have hchild := hsteps child List.mem_cons_self frame p
      have hrest := ih fun other hother => hsteps other (List.mem_cons_of_mem _ hother)
      rw [groupEvents, eventsOf.groupEvents]
      dsimp only
      split
      · exact .child hchild .ended
      · exact .child hchild (hrest _)

theorem eventsOf_reported (e : Engine σ) (step : Step) (frame : Option LoopFrame)
    (p : Progress σ) : e.Reported step (e.eventsOf step frame p) := by
  induction step using Step.induction generalizing frame p with
  | h step ih =>
      refine .run (fun hloop => eventsOf_numbered hloop frame p)
        (fun hloop => eventsOf_unnumbered hloop frame p) ?_
      intro iteration below hgroup
      rcases (mem_eventsOf hgroup).own_or_group with ⟨_, _, howner⟩ | ⟨_, inside, q, hbelow⟩
      · cases howner
      · cases hbelow
        exact groupEvents_reported ih inside q

/-! ## The names of a run -/

/-- **Every row is named for its step and the groups around it.** The rows
of a run are those of its events, each written once with its full name.
Listed from the top, their names are those of their origins: the groups of
an origin lead from the step that is run to the step of the row, and its
number is that of the iteration of the step which wrote the row, if one
did. -/
theorem row_names (e : Engine σ) (step : Step) (frame : Option LoopFrame) (p : Progress σ) :
    let rows := (e.runner step frame p).1.rows
    let events := e.eventsOf step frame p
    let origins := events.flatMap (Event.origins [])
    rows = events.map (Event.row e []) ∧
      (rows.flatMap Row.tree).map Row.name = origins.map Origin.name ∧
      (∀ origin ∈ origins, step.Reaches origin.groups origin.step) ∧
      e.Reported step events := by
  intro rows events origins
  have hrows : rows = events.map (Event.row e []) := e.runner_rows step frame p
  refine ⟨hrows, ?_, ?_, e.eventsOf_reported step frame p⟩
  · rw [hrows]
    exact Event.trees_names fun event _ => event.tree_names e []
  · intro origin horigin
    obtain ⟨event, hevent, horigin⟩ := List.mem_flatMap.mp horigin
    obtain ⟨groups, hgroups, hreaches⟩ := origins_reached hevent [] origin horigin
    rwa [hgroups]

end Engine

end Scenario
