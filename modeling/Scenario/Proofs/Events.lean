import Scenario.Proofs.Attempts
import Scenario.Proofs.Position

/-!
# What a run reports

A run reports events. An event is about one step: about the step itself, for
a cause (`Cause`), or about its group, over the events of the steps of the
group. In an iteration of a loop it also has the number of the iteration.
`Engine.eventsOf` lists the events of a run in order, and follows the run:
an event is in the list only if the conditions, iterations and faults before
it led there. The row of an event is written at once, with the names of all
groups around it (`Event.row`).

Two views of the events are used. Proofs about order and names follow
`eventsOf`; proofs about what holds of every event need only the ways in
which a step can report one (`Engine.StepEvent`), and go by induction on the
step with `mem_eventsOf` for the step and `mem_groupEvents` for its group.
-/

namespace Scenario

variable {σ : Type}

/-! ## Events -/

/-- Why a step has a row of its own. -/
inductive Cause (σ : Type)
  /-- The condition of the step is false. -/
  | skipped (condition : String) (store : Store)
  /-- The condition of the step or of its loop cannot be evaluated. -/
  | unevaluable (condition : String) (error : ConditionError) (store : Store)
      (frame : Option LoopFrame)
  /-- The loop has no iterations. -/
  | emptyLoop (kind : LoopKind)
  /-- The specification of the loop cannot be read. -/
  | unreadable (text : String) (error : LoopSpecError)
  /-- The condition of the loop holds at its limit. -/
  | exceeded (condition : String) (limit : Nat) (frame : Option LoopFrame)
  /-- The action was attempted. -/
  | attempted (frame : Option LoopFrame) (start : Progress σ)
  /-- The action was attempted under a retry policy. -/
  | retried (policy : RetryPolicy) (frame : Option LoopFrame) (start : Progress σ)

/-- What a step reports, in an iteration of its loop if that has one. -/
inductive Event (σ : Type)
  | own (step : Step) (iteration : Option Nat) (cause : Cause σ)
  | group (step : Step) (iteration : Option Nat) (below : List (Event σ))

/-- The row that a step has for a cause. -/
def Cause.row (e : Engine σ) (step : Step) : Cause σ → Row
  | skipped condition store => e.skippedRow step condition store
  | unevaluable condition error store frame =>
    step.faultRow (e.conditionFault step condition error store frame)
  | emptyLoop kind => Engine.emptyLoopRow step kind
  | unreadable text error => step.faultRow (e.forSpecFault step text error)
  | exceeded condition limit frame =>
    step.faultRow (e.maxIterationsFault step condition limit frame)
  | attempted frame start => (e.attempt step frame start).1
  | retried policy frame start => (e.retry step policy frame start).1

/-- The name of a step with the number of its iteration. -/
def Step.title (step : Step) : (iteration : Option Nat) → String
  | none => step.name
  | some n => step.name ++ s!" (iteration {n})"

/-- The name of a step after those of the groups around it, of which the
first is the outermost. -/
def Step.fullTitle (groups : List Step) (step : Step) (iteration : Option Nat) : String :=
  String.intercalate " -> " (groups.map Step.name ++ [step.title iteration])

namespace Event

def iteration : Event σ → Option Nat
  | own _ iteration _ => iteration
  | group _ iteration _ => iteration

/-- The event in an iteration of the loop of its step. -/
def numbered (n : Nat) : Event σ → Event σ
  | own step _ cause => own step (some n) cause
  | group step _ below => group step (some n) below

/-- The causes of an event and of all events below it, each with its step. -/
def causes : Event σ → List (Step × Cause σ)
  | own step _ cause => [(step, cause)]
  | group _ _ below => causesOf below
where
  causesOf : List (Event σ) → List (Step × Cause σ)
    | [] => []
    | event :: rest => event.causes ++ causesOf rest

/-- The row of an event below some groups. -/
def row (e : Engine σ) (groups : List Step) : Event σ → Row
  | own step iteration cause =>
    { cause.row e step with name := step.fullTitle groups iteration }
  | group step iteration below =>
    { Engine.groupRow step (rows (groups ++ [step]) below) with
        name := step.fullTitle groups iteration }
where
  rows (groups : List Step) : List (Event σ) → List Row
    | [] => []
    | event :: rest => event.row e groups :: rows groups rest

end Event

namespace Engine

/-- The event of a step inside of its loop and condition; `below` are the
events of its group. -/
def coreEvent (step : Step) (below : Option LoopFrame → Progress σ → List (Event σ))
    (frame : Option LoopFrame) (p : Progress σ) : Event σ :=
  if step.hasChildren then .group step none (below frame p)
  else
    match step.retry with
    | some policy => .own step none (.retried policy frame p)
    | none => .own step none (.attempted frame p)

/-- The event of a step inside of its loop. -/
def gatedEvent (e : Engine σ) (step : Step)
    (below : Option LoopFrame → Progress σ → List (Event σ)) (frame : Option LoopFrame)
    (p : Progress σ) : Event σ :=
  match step.onlyIf with
  | none => coreEvent step below frame p
  | some condition =>
    match Condition.evaluate e.env p.store condition with
    | .ok true => coreEvent step below frame p
    | .ok false => .own step none (.skipped condition p.store)
    | .error error => .own step none (.unevaluable condition error p.store frame)

/-- The event of one iteration. -/
def iterationEvent (e : Engine σ) (step : Step)
    (below : Option LoopFrame → Progress σ → List (Event σ)) (frame : LoopFrame)
    (p : Progress σ) : Event σ :=
  (e.gatedEvent step below (some frame) { p with store := frame.bind p.store }).numbered
    frame.iteration

/-- The events of the iterations from `index` on. -/
def forEvents (e : Engine σ) (step : Step)
    (below : Option LoopFrame → Progress σ → List (Event σ)) (spec : LoopSpec)
    (condition : String) : (remaining index : Nat) → Progress σ → List (Event σ)
  | 0, _, _ => []
  | remaining + 1, index, p =>
    let frame := forFrame spec condition index
    let r := e.iteration step (e.core step (e.childrenOf step)) frame p
    e.iterationEvent step below frame p ::
      if r.1.error.isSome then []
      else forEvents e step below spec condition remaining (index + 1) r.2

/-- The position after some iterations of a `while` loop. -/
def lastFrame (e : Engine σ) (condition : String) (limit completed : Nat) (store : Store) :
    Option LoopFrame :=
  if completed = 0 then none else some (e.whileFrame condition limit (completed - 1) store)

/-- The events of a `while` loop from a check of its condition on; `next` are
those if the condition holds. -/
def checkEvents (e : Engine σ) (step : Step) (condition : String) (store : Store)
    (last : Option LoopFrame) (next : List (Event σ)) : List (Event σ) :=
  match Condition.evaluate e.env store condition with
  | .error error => [.own step none (.unevaluable condition error store last)]
  | .ok false => []
  | .ok true => next

/-- The events of the iterations after `completed` others. -/
def whileEvents (e : Engine σ) (step : Step)
    (below : Option LoopFrame → Progress σ → List (Event σ)) (condition : String)
    (limit : Nat) : (remaining completed : Nat) → Progress σ → List (Event σ)
  | 0, completed, p =>
    let last := e.lastFrame condition limit completed p.store
    e.checkEvents step condition p.store last [.own step none (.exceeded condition limit last)]
  | remaining + 1, completed, p =>
    let last := e.lastFrame condition limit completed p.store
    let frame := e.whileFrame condition limit completed p.store
    let r := e.iteration step (e.core step (e.childrenOf step)) frame p
    e.checkEvents step condition p.store last
      (e.iterationEvent step below frame p ::
        if r.1.error.isSome then []
        else whileEvents e step below condition limit remaining (completed + 1) r.2)

/-- The events of a step, given those of its group. -/
def dispatchEvents (e : Engine σ) (step : Step)
    (below : Option LoopFrame → Progress σ → List (Event σ)) (frame : Option LoopFrame)
    (p : Progress σ) : List (Event σ) :=
  match step.forEach, step.whileTrue with
  | some text, _ =>
    match LoopSpec.parse e.env p.store text with
    | .error error => [.own step none (.unreadable text error)]
    | .ok spec =>
      if spec.isEmpty then [.own step none (.emptyLoop .forEach)]
      else e.forEvents step below spec (p.store.substitute e.env text) spec.length 0 p
  | none, some condition =>
    let limit := e.limits.loopLimit step.maxIterations
    let events := e.whileEvents step below condition limit limit 0 p
    if events.isEmpty then [.own step none (.emptyLoop .whileTrue)] else events
  | none, none => [e.gatedEvent step below frame p]

/-- The events of a run of a step, in order. -/
def eventsOf (e : Engine σ) : Step → Option LoopFrame → Progress σ → List (Event σ)
  | ⟨name, description, action, args, options, result, onlyIf, forEach, whileTrue, maxIterations,
      retry, extract, steps, continueOnFailure, critical⟩ =>
    e.dispatchEvents
      ⟨name, description, action, args, options, result, onlyIf, forEach, whileTrue,
        maxIterations, retry, extract, steps, continueOnFailure, critical⟩
      (groupEvents steps)
where
  groupEvents : List Step → Option LoopFrame → Progress σ → List (Event σ)
    | [], _, _ => []
    | child :: rest, frame, p =>
      let (run, q) := e.runner child frame p
      e.eventsOf child frame p ++
        if run.error.isSome && !child.continueOnFailure then [] else groupEvents rest frame q

/-- The events of the steps of a group. -/
abbrev groupEvents (e : Engine σ) :
    List Step → Option LoopFrame → Progress σ → List (Event σ) :=
  eventsOf.groupEvents e

theorem eventsOf_eq (e : Engine σ) (step : Step) :
    e.eventsOf step = e.dispatchEvents step (e.groupEvents step.steps) := by
  obtain ⟨⟩ := step
  rw [eventsOf]

/-! ## What a step can report

The functions above follow a run from its start. For what holds of every
event it is enough to know the ways in which a step can report one. -/

/-- An event of a step inside of its loop, at a position around it. -/
inductive BodyEvent (e : Engine σ) (step : Step) (frame : Option LoopFrame) : Event σ → Prop
  | group (q : Progress σ) (hgroup : step.hasChildren = true) :
      BodyEvent e step frame (.group step none (e.groupEvents step.steps frame q))
  | retried {policy : RetryPolicy} (q : Progress σ) (hgroup : step.hasChildren = false)
      (hretry : step.retry = some policy) :
      BodyEvent e step frame (.own step none (.retried policy frame q))
  | attempted (q : Progress σ) (hgroup : step.hasChildren = false) (hretry : step.retry = none) :
      BodyEvent e step frame (.own step none (.attempted frame q))
  | skipped {condition : String} (q : Progress σ) (hif : step.onlyIf = some condition)
      (hfalse : Condition.evaluate e.env q.store condition = .ok false) :
      BodyEvent e step frame (.own step none (.skipped condition q.store))
  | unevaluable {condition : String} {error : ConditionError} (q : Progress σ)
      (hif : step.onlyIf = some condition)
      (herror : Condition.evaluate e.env q.store condition = .error error) :
      BodyEvent e step frame (.own step none (.unevaluable condition error q.store frame))

/-- An event of a step, at a position around it and its loop. -/
inductive StepEvent (e : Engine σ) (step : Step) (frame : Option LoopFrame) : Event σ → Prop
  | once {event : Event σ} (hevent : e.BodyEvent step frame event) : StepEvent e step frame event
  | iteration {event : Event σ} (own : LoopFrame) (hevent : e.BodyEvent step (some own) event) :
      StepEvent e step frame (event.numbered own.iteration)
  | emptyLoop (kind : LoopKind) : StepEvent e step frame (.own step none (.emptyLoop kind))
  | unreadable {text : String} {error : LoopSpecError} (q : Progress σ)
      (hfor : step.forEach = some text) (hparse : LoopSpec.parse e.env q.store text = .error error) :
      StepEvent e step frame (.own step none (.unreadable text error))
  | unchecked {condition : String} {error : ConditionError} (completed : Nat) (q : Progress σ)
      (hfor : step.forEach = none) (hwhile : step.whileTrue = some condition)
      (herror : Condition.evaluate e.env q.store condition = .error error) :
      StepEvent e step frame (.own step none (.unevaluable condition error q.store
        (e.lastFrame condition (e.limits.loopLimit step.maxIterations) completed q.store)))
  | exceeded {condition : String} (q : Progress σ) (hfor : step.forEach = none)
      (hwhile : step.whileTrue = some condition) :
      StepEvent e step frame (.own step none (.exceeded condition
        (e.limits.loopLimit step.maxIterations)
        (e.lastFrame condition (e.limits.loopLimit step.maxIterations)
          (e.limits.loopLimit step.maxIterations) q.store)))

/-- An event of a step is about the step itself or about a run of its
group. -/
theorem StepEvent.own_or_group {e : Engine σ} {step : Step} {frame : Option LoopFrame}
    {event : Event σ} (h : e.StepEvent step frame event) :
    (∃ iteration cause, event = .own step iteration cause) ∨
      ∃ iteration inside q,
        event = .group step iteration (e.groupEvents step.steps inside q) := by
  cases h with
  | once hevent =>
      cases hevent with
      | group q => exact .inr ⟨_, _, q, rfl⟩
      | retried | attempted | skipped | unevaluable => exact .inl ⟨_, _, rfl⟩
  | iteration own hevent =>
      cases hevent with
      | group q => exact .inr ⟨_, _, q, rfl⟩
      | retried | attempted | skipped | unevaluable => exact .inl ⟨_, _, rfl⟩
  | emptyLoop | unreadable | unchecked | exceeded => exact .inl ⟨_, _, rfl⟩

section

variable (e : Engine σ) (step : Step)

theorem coreEvent_bodyEvent (frame : Option LoopFrame) (q : Progress σ) :
    e.BodyEvent step frame (coreEvent step (e.groupEvents step.steps) frame q) := by
  unfold coreEvent
  cases hgroup : step.hasChildren with
  | true => exact .group q hgroup
  | false =>
      cases hretry : step.retry with
      | some policy => exact .retried q hgroup hretry
      | none => exact .attempted q hgroup hretry

theorem gatedEvent_bodyEvent (frame : Option LoopFrame) (q : Progress σ) :
    e.BodyEvent step frame (e.gatedEvent step (e.groupEvents step.steps) frame q) := by
  unfold gatedEvent
  cases hif : step.onlyIf with
  | none => exact e.coreEvent_bodyEvent step frame q
  | some condition =>
      dsimp only
      split
      · exact e.coreEvent_bodyEvent step frame q
      · next hfalse => exact .skipped q hif hfalse
      · next herror => exact .unevaluable q hif herror

theorem iterationEvent_stepEvent (frame : Option LoopFrame) (own : LoopFrame) (q : Progress σ) :
    e.StepEvent step frame (e.iterationEvent step (e.groupEvents step.steps) own q) :=
  .iteration own (e.gatedEvent_bodyEvent step (some own) _)

variable {e step}

theorem mem_forEvents {frame : Option LoopFrame} {spec : LoopSpec} {condition : String}
    {remaining index : Nat} {p : Progress σ} {event : Event σ}
    (h : event ∈ e.forEvents step (e.groupEvents step.steps) spec condition remaining index p) :
    e.StepEvent step frame event := by
  induction remaining generalizing index p with
  | zero => cases h
  | succ remaining ih =>
      unfold forEvents at h
      rcases List.mem_cons.mp h with rfl | hlater
      · exact e.iterationEvent_stepEvent step frame _ p
      · exact ih (List.mem_ite_nil_left.mp hlater).2

theorem mem_checkEvents {frame : Option LoopFrame} {condition : String}
    (hfor : step.forEach = none) (hwhile : step.whileTrue = some condition) {completed : Nat}
    {q : Progress σ} {next : List (Event σ)} {event : Event σ}
    (h : event ∈ e.checkEvents step condition q.store
      (e.lastFrame condition (e.limits.loopLimit step.maxIterations) completed q.store) next) :
    e.StepEvent step frame event ∨ event ∈ next := by
  unfold checkEvents at h
  split at h
  · next error herror =>
      rw [List.mem_singleton.mp h]
      exact .inl (.unchecked completed q hfor hwhile herror)
  · cases h
  · exact .inr h

/-- All iterations together are as many as the limit allows. -/
theorem mem_whileEvents {frame : Option LoopFrame} {condition : String}
    (hfor : step.forEach = none) (hwhile : step.whileTrue = some condition)
    {remaining completed : Nat}
    (hlimit : completed + remaining = e.limits.loopLimit step.maxIterations) {p : Progress σ}
    {event : Event σ}
    (h : event ∈ e.whileEvents step (e.groupEvents step.steps) condition
      (e.limits.loopLimit step.maxIterations) remaining completed p) :
    e.StepEvent step frame event := by
  induction remaining generalizing completed p with
  | zero =>
      rw [Nat.add_zero] at hlimit
      rw [whileEvents] at h
      rcases mem_checkEvents hfor hwhile h with hevent | hnext
      · exact hevent
      · rw [List.mem_singleton.mp hnext, hlimit]
        exact .exceeded p hfor hwhile
  | succ remaining ih =>
      rw [whileEvents] at h
      rcases mem_checkEvents hfor hwhile h with hevent | hnext
      · exact hevent
      · rcases List.mem_cons.mp hnext with rfl | hlater
        · exact e.iterationEvent_stepEvent step frame _ p
        · exact ih (by omega) (List.mem_ite_nil_left.mp hlater).2

/-- A step reports its events in one of these ways. -/
theorem mem_eventsOf {frame : Option LoopFrame} {p : Progress σ} {event : Event σ}
    (h : event ∈ e.eventsOf step frame p) : e.StepEvent step frame event := by
  rw [eventsOf_eq, dispatchEvents] at h
  cases hfor : step.forEach with
  | some text =>
      rw [hfor] at h
      dsimp only at h
      split at h
      · next error hparse =>
          rw [List.mem_singleton.mp h]
          exact .unreadable p hfor hparse
      · split at h
        · rw [List.mem_singleton.mp h]
          exact .emptyLoop .forEach
        · exact mem_forEvents h
  | none =>
      cases hwhile : step.whileTrue with
      | some condition =>
          rw [hfor, hwhile] at h
          dsimp only at h
          split at h
          · rw [List.mem_singleton.mp h]
            exact .emptyLoop .whileTrue
          · exact mem_whileEvents hfor hwhile (Nat.zero_add _) h
      | none =>
          rw [hfor, hwhile] at h
          rw [List.mem_singleton.mp h]
          exact .once (e.gatedEvent_bodyEvent step frame p)

/-- A group reports the events of its steps. -/
theorem mem_groupEvents {steps : List Step} {frame : Option LoopFrame} {p : Progress σ}
    {event : Event σ} (h : event ∈ e.groupEvents steps frame p) :
    ∃ child ∈ steps, ∃ q, event ∈ e.eventsOf child frame q := by
  induction steps generalizing p with
  | nil => cases h
  | cons child rest ih =>
      unfold groupEvents eventsOf.groupEvents at h
      rcases List.mem_append.mp h with hfirst | hlater
      · exact ⟨child, List.mem_cons_self, p, hfirst⟩
      · obtain ⟨other, hother, q, hevent⟩ := ih (List.mem_ite_nil_left.mp hlater).2
        exact ⟨other, List.mem_cons_of_mem _ hother, q, hevent⟩

end

end Engine

end Scenario
