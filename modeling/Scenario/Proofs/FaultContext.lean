import Scenario.Proofs.Dispatch

/-!
# The context of a fault

The engine adds to the context of a fault in two ways. The step and its
action are defaults, which give way to entries of the same name. The
position in a loop and the diagnosis of references do not: they replace what
was there (`Fault.replacing`).
-/

namespace Scenario

namespace OrderedMap

variable {β : Type}

theorem insertAll_append (m : OrderedMap β) (first second : List (String × β)) :
    m.insertAll (first ++ second) = (m.insertAll first).insertAll second :=
  List.foldl_append

/-- Inserting keeps all names and their order. -/
theorem keys_prefix_insert (m : OrderedMap β) (name : String) (value : β) :
    m.keys <+: (m.insert name value).keys := by
  rw [keys_insert]
  split
  · exact List.prefix_rfl
  · exact List.prefix_append _ _

theorem keys_prefix_insertAll (m : OrderedMap β) (pairs : List (String × β)) :
    m.keys <+: (m.insertAll pairs).keys := by
  induction pairs generalizing m with
  | nil => exact List.prefix_rfl
  | cons pair rest ih => exact (m.keys_prefix_insert pair.1 pair.2).trans (ih _)

end OrderedMap

namespace Fault

/-! ## Defaults -/

theorem get?_withDefault_of_ne {name key : String} (h : key ≠ name) (fault : Fault)
    (value : Json) : (fault.withDefault name value).context.get? key = fault.context.get? key := by
  unfold withDefault
  split
  · rfl
  · rw [withContext, OrderedMap.get?_insert, if_neg h]

/-- Outside of loops only the step and its action are added. -/
theorem get?_locate_none {key : String} (hstep : key ≠ "step") (haction : key ≠ "action")
    (fault : Fault) (step : Step) :
    (fault.locate step none).context.get? key = fault.context.get? key := by
  unfold locate
  cases step.action with
  | none => exact get?_withDefault_of_ne hstep fault _
  | some action =>
      exact (get?_withDefault_of_ne haction _ _).trans (get?_withDefault_of_ne hstep fault _)

theorem get?_withDefault_of_some {key : String} {own : Json} {fault : Fault}
    (h : fault.context.get? key = some own) (name : String) (value : Json) :
    (fault.withDefault name value).context.get? key = some own := by
  unfold withDefault
  split
  · exact h
  · next hnew =>
      have hne : key ≠ name := by
        rintro rfl
        exact hnew (by rw [OrderedMap.contains, h, Option.isSome_some])
      rw [withContext, OrderedMap.get?_insert, if_neg hne, h]

/-- A default gives way to what the fault says itself. -/
theorem get?_locate_none_of_some {key : String} {own : Json} {fault : Fault}
    (h : fault.context.get? key = some own) (step : Step) :
    (fault.locate step none).context.get? key = some own := by
  unfold locate
  cases step.action with
  | none => exact get?_withDefault_of_some h _ _
  | some action => exact get?_withDefault_of_some (get?_withDefault_of_some h _ _) _ _

theorem keys_prefix_withDefault (fault : Fault) (name : String) (value : Json) :
    fault.context.keys <+: (fault.withDefault name value).context.keys := by
  unfold withDefault
  split
  · exact List.prefix_rfl
  · exact fault.context.keys_prefix_insert name value

theorem keys_prefix_locate_none (fault : Fault) (step : Step) :
    fault.context.keys <+: (fault.locate step none).context.keys := by
  unfold locate
  cases step.action with
  | none => exact keys_prefix_withDefault fault _ _
  | some action =>
      exact (keys_prefix_withDefault fault _ _).trans (keys_prefix_withDefault _ _ _)

/-! ## Entries that replace others -/

/-- The entries that are written over what a fault says itself. -/
def replacing (frame : Option LoopFrame) (diagnosis : Option Diagnosis) : List (String × Json) :=
  (frame.map LoopFrame.context).getD [] ++
    (diagnosis.map fun d => ("variable_context", d.toJson)).toList

theorem nodup_replacing (frame : Option LoopFrame) (diagnosis : Option Diagnosis) :
    ((replacing frame diagnosis).map Prod.fst).Nodup := by
  unfold replacing
  cases frame with
  | none => cases diagnosis <;> simp
  | some frame =>
      obtain ⟨kind, index, item, condition, limit⟩ := frame
      cases item <;> cases condition <;> cases limit <;> cases diagnosis <;>
        simp [LoopFrame.context]

/-- The context of a fault at a position, with a diagnosis. -/
theorem context_eq (fault : Fault) (step : Step) (frame : Option LoopFrame)
    (diagnosis : Option Diagnosis) :
    ((fault.locate step frame).explain diagnosis).context =
      (fault.locate step none).context.insertAll (replacing frame diagnosis) := by
  have hlocate : (fault.locate step frame).context =
      (fault.locate step none).context.insertAll ((frame.map LoopFrame.context).getD []) := by
    cases frame <;> rfl
  rw [replacing, OrderedMap.insertAll_append, ← hlocate]
  cases diagnosis <;> rfl

/-- An entry that replaces others is there with its value. -/
theorem get?_of_mem_replacing {frame : Option LoopFrame} {diagnosis : Option Diagnosis}
    {key : String} {value : Json} (h : (key, value) ∈ replacing frame diagnosis) (fault : Fault)
    (step : Step) : ((fault.locate step frame).explain diagnosis).context.get? key = some value := by
  have hget := OrderedMap.get?_insertAll_of_mem (nodup_replacing frame diagnosis) h
  rw [context_eq]
  exact hget _

end Fault

end Scenario
