import Scenario.Proofs.EventRows
import Scenario.Proofs.FaultContext
import Scenario.Proofs.Retrying
import Scenario.Proofs.Writing

/-!
# What a row keeps of the fault of an action

An action that ends in a fault says what it knows in the context of the
fault, and the engine adds what it knows in turn. The row keeps category,
code, message and data, all names of the context and all suggestions; the
engine's own suggestions come after them. Values are another matter. The
step and its action give way to entries of the action, but the position in
a loop and the diagnosis of references are written over them. An entry of
the action is kept exactly if none of these has its name, or the same value
(`Fault.Completes.kept_iff`).

This is so for every attempt (`attempt_error`). The row of a step has the
result of its last attempt (`Cause.EndsWith`), and the row of every cause is
a leaf of the run.
-/

namespace Scenario

variable {σ : Type}

namespace Fault

/-- A fault with all that another says, apart from values that entries
replace. -/
structure Completes (given : Fault) (entries : List (String × Json)) (shown : Fault) : Prop where
  category_eq : shown.category = given.category
  code_eq : shown.code = given.code
  message_eq : shown.message = given.message
  suggestions_prefix : given.suggestions <+: shown.suggestions
  keys_prefix : given.context.keys <+: shown.context.keys
  replaced : ∀ key value, (key, value) ∈ entries → shown.context.get? key = some value
  kept_iff : ∀ key value, given.context.get? key = some value →
    (shown.context.get? key = some value ↔ ∀ other, (key, other) ∈ entries → other = value)

theorem withDefault_eq (fault : Fault) (name : String) (value : Json) :
    fault.withDefault name value =
      { fault with context := (fault.withDefault name value).context } := by
  unfold withDefault
  split <;> rfl

/-- A position changes the context only. -/
theorem locate_eq (fault : Fault) (step : Step) (frame : Option LoopFrame) :
    fault.locate step frame = { fault with context := (fault.locate step frame).context } := by
  unfold locate
  rw [fault.withDefault_eq]
  cases step.action with
  | none => cases frame <;> rfl
  | some action =>
      dsimp only
      rw [withDefault_eq]
      cases frame <;> rfl

theorem explain_completes (given : Fault) (step : Step) (frame : Option LoopFrame)
    (diagnosis : Option Diagnosis) :
    given.Completes (replacing frame diagnosis)
      ((given.locate step frame).explain diagnosis) := by
  have hplace := given.locate_eq step frame
  refine ⟨?_, ?_, ?_, ?_, ?_, ?_, ?_⟩
  · rw [hplace]
    cases diagnosis <;> rfl
  · rw [explain_code, locate_code]
  · rw [hplace]
    cases diagnosis <;> rfl
  · rw [hplace]
    cases diagnosis with
    | none => exact List.prefix_rfl
    | some d => exact List.prefix_append _ _
  · rw [context_eq]
    exact (keys_prefix_locate_none given step).trans (OrderedMap.keys_prefix_insertAll _ _)
  · intro key value hentry
    exact get?_of_mem_replacing hentry given step
  · intro key value hown
    by_cases hreplaced : key ∈ (replacing frame diagnosis).map Prod.fst
    · obtain ⟨⟨name, other⟩, hother, rfl⟩ := List.mem_map.mp hreplaced
      have hget := get?_of_mem_replacing hother given step
      constructor
      · intro hkept another hanother
        rw [get?_of_mem_replacing hanother given step] at hkept
        exact Option.some.inj hkept
      · intro hsame
        rw [hget, hsame other hother]
    · constructor
      · intro _ other hother
        exact absurd (List.mem_map_of_mem hother) hreplaced
      · intro _
        rw [context_eq, OrderedMap.get?_insertAll_of_not_mem hreplaced]
        exact get?_locate_none_of_some hown step

end Fault

/-- The last attempt that is made for a cause, if the row of the cause has
its result. -/
inductive Cause.EndsWith (e : Engine σ) (step : Step) :
    Cause σ → Option LoopFrame → Progress σ → Prop
  | attempted (frame : Option LoopFrame) (p : Progress σ) :
      EndsWith e step (.attempted frame p) frame p
  | retried {policy : RetryPolicy} {base : Duration} {frame : Option LoopFrame}
      {start : Progress σ} {n : Nat}
      (hmakes : RetryStart.Makes ⟨e, step, policy, base, frame, start⟩ n
        (e.retry step policy frame start))
      (hevaluable : ∀ text error,
        ¬RetryStart.Unevaluable ⟨e, step, policy, base, frame, start⟩ n text error) :
      EndsWith e step (.retried policy frame start) frame
        (RetryStart.before ⟨e, step, policy, base, frame, start⟩ n)

theorem Cause.EndsWith.row_result {e : Engine σ} {step : Step} {cause : Cause σ}
    {frame : Option LoopFrame} {p : Progress σ} (h : cause.EndsWith e step frame p) :
    (cause.row e step).result = (e.attempt step frame p).1.result := by
  cases h with
  | attempted => rfl
  | retried hmakes hevaluable => exact hmakes.result_eq hevaluable

namespace Engine

/-- What an attempt makes of the fault of its action. -/
theorem attempt_error {e : Engine σ} {step : Step} {p : Progress σ} {call : ActionCall σ}
    {given : Fault} (hcall : e.call? step p = some call)
    (herror : (call.result p).outcome = .error given) (frame : Option LoopFrame) :
    (e.attempt step frame p).1.result =
      ⟨.error ((given.locate step frame).explain (e.diagnoseInputs step (call.after p).store)),
        (call.result p).data⟩ := by
  obtain ⟨hresult, -, -⟩ := attempt_of_call hcall frame
  have hnothing : step.extraction? (call.result p) = none := by
    rw [Step.extraction?, herror]
  rw [hresult, e.extracted_of_none hnothing]
  dsimp only
  generalize call.result p = result at herror ⊢
  obtain ⟨outcome, data⟩ := result
  obtain rfl : outcome = .error given := herror
  rfl

/-- **What becomes of the fault of an action.** The row of an attempt has
the data of the action and a fault that completes what the action said. If
the attempt is the last for a step, a leaf of the run has this result, at
any depth of groups and loops. -/
theorem fault_details (e : Engine σ) (step : Step) (frame : Option LoopFrame) (p : Progress σ)
    {call : ActionCall σ} {given : Fault} (hcall : e.call? step p = some call)
    (herror : (call.result p).outcome = .error given) :
    let entries := Fault.replacing frame (e.diagnoseInputs step (call.after p).store)
    let out := (e.attempt step frame p).1.result
    (∃ shown, out = ⟨.error shown, (call.result p).data⟩ ∧ given.Completes entries shown) ∧
      ∀ (outer : Step) (position : Option LoopFrame) (q : Progress σ),
        ∀ event ∈ e.eventsOf outer position q, ∀ cause, (step, cause) ∈ event.causes →
          cause.EndsWith e step frame p →
            ∃ leaf ∈ (e.runner outer position q).1.rows.flatMap Row.leaves, leaf.result = out := by
  intro entries out
  refine ⟨⟨_, attempt_error hcall herror frame, given.explain_completes step frame _⟩, ?_⟩
  intro outer position q event hevent cause hcause hends
  obtain ⟨leaf, hleaf, hresult⟩ := Event.leaf_of_cause e [] hcause
  refine ⟨leaf, ?_, hresult.trans hends.row_result⟩
  rw [e.runner_rows outer position q, List.flatMap_map]
  exact List.mem_flatMap.mpr ⟨event, hevent, hleaf⟩

/-! ### An action with details of its own -/

/-- A fault that names an item and a step. -/
def complaint : Fault where
  category := .execution
  code := "BROKEN"
  message := "does not start"
  context := .ofList [("item", .string "lamp"), ("step", .string "switch")]
  suggestions := ["look at the plug"]

/-- An engine whose only action ends in the fault. -/
def complaining : Engine Unit where
  catalog := .ofList [("start", fun _ _ store state =>
    (⟨.error complaint, some (.ofNat 7)⟩, store, state))]

/-- The fault is completed in a loop, with a reference that is not there. -/
theorem fault_details_complaining :
    let step : Step :=
      { name := "start", action := some "start", args := [.string "${ghost}"] }
    let frame : LoopFrame :=
      { kind := .forEach, index := 0, item := some (.ofNat 1), condition := some "1" }
    let p : Progress Unit := ⟨.empty, (), []⟩
    let given : ActionResult := ⟨.error complaint, some (.ofNat 7)⟩
    let call : ActionCall Unit :=
      ⟨fun _ _ store state => (given, store, state),
        p.store.substituteItems complaining.env step.args,
        p.store.substituteOptions complaining.env step.options⟩
    let entries := Fault.replacing (some frame) (complaining.diagnoseInputs step p.store)
    let out := (complaining.attempt step (some frame) p).1.result
    (complaining.call? step p = some call ∧ (call.result p).outcome = .error complaint) ∧
      (∃ shown, out = ⟨.error shown, some (.ofNat 7)⟩ ∧ complaint.Completes entries shown) ∧
      ∃ leaf ∈ (complaining.runner step (some frame) p).1.rows.flatMap Row.leaves,
        leaf.result = out := by
  intro step frame p given call entries out
  have hcall : complaining.call? step p = some call := rfl
  have herror : (call.result p).outcome = .error complaint := rfl
  obtain ⟨hshown, hleaf⟩ := fault_details complaining step (some frame) p hcall herror
  have hevents : complaining.eventsOf step (some frame) p =
      [.own step none (.attempted (some frame) p)] := by
    rw [eventsOf_eq]
    rfl
  refine ⟨⟨hcall, herror⟩, hshown, ?_⟩
  exact hleaf step (some frame) p (.own step none (.attempted (some frame) p))
    (by rw [hevents]; exact List.mem_singleton_self _) (.attempted (some frame) p)
    (by rw [Event.causes_own]; exact List.mem_singleton_self _) (.attempted (some frame) p)

/-- The action gives a name to the item and to the step. In a loop the first
is lost, the second is not. -/
theorem loop_replaces_item :
    let step : Step := { name := "start", action := some "start", forEach := some "1" }
    let rows := (complaining.runStep step ⟨.empty, (), []⟩).1.rows
    let faults := (rows.flatMap Row.leaves).filterMap Row.fault?
    let said (name : String) (fault : Fault) : Option String :=
      match fault.context.get? name with
      | some (.string text) => some text
      | _ => none
    said "item" complaint = some "lamp" ∧ said "step" complaint = some "switch" ∧
      faults.map (fun fault => fault.code) = [complaint.code] ∧
      faults.map (said "item") = [none] ∧ faults.map (said "step") = [some "switch"] := by
  decide +kernel

end Engine

end Scenario
