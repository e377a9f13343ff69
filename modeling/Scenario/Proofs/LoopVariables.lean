import Scenario.Proofs.Attempts

/-!
# What a loop leaves of its variables

A loop binds `iteration`, `index` and, if it has items, `item` before every
iteration, whatever the body did to them before, and gives all three back
once at its end. So each of them reads after the loop as it did before
(`get?_restoreLoopVariables`).

The whole store comes back if nothing else wrote to it. Binding only
changes the values of the three names, or adds them behind all others;
`Store.BoundOver` is this relation, and giving the names back undoes it
(`BoundOver.restore`), the order of the names included. A nested loop gives
back the store of the outer iteration, which is bound over the first store
as well.
-/

namespace Scenario

variable {σ : Type}

namespace Store

/-! ## Giving names back -/

/-- Gives one name what it has in `saved`. -/
def giveBack (saved store : Store) (name : String) : Store :=
  match saved.get? name with
  | some value => store.insert name value
  | none => store.erase name

theorem restoreLoopVariables_eq (saved store : Store) :
    saved.restoreLoopVariables store = loopVariables.foldl (giveBack saved) store := rfl

theorem get?_giveBack (saved store : Store) (name other : String) :
    (giveBack saved store name).get? other =
      if other = name then saved.get? other else store.get? other := by
  unfold giveBack
  split
  · next value hvalue =>
      rw [OrderedMap.get?_insert]
      split
      · next h => rw [h, hvalue]
      · rfl
  · next hnone =>
      rw [OrderedMap.get?_erase]
      split
      · next h => rw [h, hnone]
      · rfl

theorem get?_foldl_giveBack (saved : Store) (names : List String) (store : Store)
    (other : String) :
    (names.foldl (giveBack saved) store).get? other =
      if other ∈ names then saved.get? other else store.get? other := by
  induction names generalizing store with
  | nil => simp
  | cons name rest ih =>
      rw [List.foldl_cons, ih, get?_giveBack]
      by_cases hrest : other ∈ rest
      · simp [hrest]
      · simp [hrest]

/-- After a loop its variables read as they did before. -/
theorem get?_restoreLoopVariables (saved store : Store) {name : String}
    (h : name ∈ loopVariables) :
    (saved.restoreLoopVariables store).get? name = saved.get? name := by
  rw [restoreLoopVariables_eq, get?_foldl_giveBack, if_pos h]

/-- A name that is given back keeps its place if it had one, and otherwise
is gone. -/
theorem keys_giveBack {saved store : Store} {added : List String}
    (hkeys : store.keys = saved.keys ++ added) (name : String) :
    (giveBack saved store name).keys = saved.keys ++ added.filter fun key => key != name := by
  have hnodup : (saved.keys ++ added).Nodup := hkeys ▸ store.nodup
  have hdisjoint : ∀ key ∈ saved.keys, key ∉ added := fun key hsaved hadded =>
    (List.nodup_append.mp hnodup).2.2 key hsaved key hadded rfl
  unfold giveBack
  split
  · next value hvalue =>
      have hmem : name ∈ saved.keys := OrderedMap.mem_keys_iff.mpr (by rw [hvalue]; rfl)
      have hkept : added.filter (fun key => key != name) = added :=
        List.filter_eq_self.mpr fun key hkey =>
          bne_iff_ne.mpr fun h => hdisjoint name hmem (h ▸ hkey)
      rw [OrderedMap.keys_insert, hkeys, if_pos (List.mem_append_left added hmem), hkept]
  · next hnone =>
      have hfresh : name ∉ saved.keys := fun hmem => by
        rw [OrderedMap.mem_keys_iff, hnone] at hmem
        cases hmem
      have hkept : saved.keys.filter (fun key => key != name) = saved.keys :=
        List.filter_eq_self.mpr fun key hkey => bne_iff_ne.mpr fun h => hfresh (h ▸ hkey)
      rw [OrderedMap.keys_erase, hkeys, List.filter_append, hkept]

theorem keys_foldl_giveBack {saved : Store} (names : List String) {store : Store}
    {added : List String} (hkeys : store.keys = saved.keys ++ added) :
    (names.foldl (giveBack saved) store).keys =
      saved.keys ++ added.filter fun key => decide (key ∉ names) := by
  induction names generalizing store added with
  | nil =>
      have hall : added.filter (fun key => decide (key ∉ [])) = added :=
        List.filter_eq_self.mpr fun key _ => by simp
      rw [List.foldl_nil, hall, hkeys]
  | cons name rest ih =>
      rw [List.foldl_cons, ih (keys_giveBack hkeys name), List.filter_filter]
      congr 2
      funext key
      by_cases h : key = name <;> simp [h]

/-! ## Stores that differ by loop variables -/

/-- Nothing but loop variables was written since `saved`: other names have
their values, and the names that were added are loop variables. -/
structure BoundOver (saved store : Store) : Prop where
  outside : ∀ name, name ∉ loopVariables → store.get? name = saved.get? name
  added : ∃ added, store.keys = saved.keys ++ added ∧ ∀ name ∈ added, name ∈ loopVariables

theorem BoundOver.refl (saved : Store) : saved.BoundOver saved :=
  ⟨fun _ _ => rfl, [], (List.append_nil _).symm, fun _ hname => by cases hname⟩

theorem BoundOver.insert {saved store : Store} (h : saved.BoundOver store) {name : String}
    (hname : name ∈ loopVariables) (value : Json) : saved.BoundOver (store.insert name value) := by
  obtain ⟨added, hkeys, hadded⟩ := h.added
  refine ⟨fun other hother => ?_, ?_⟩
  · have hne : other ≠ name := fun heq => hother (heq ▸ hname)
    rw [OrderedMap.get?_insert, if_neg hne]
    exact h.outside other hother
  · rw [OrderedMap.keys_insert]
    split
    · exact ⟨added, hkeys, hadded⟩
    · refine ⟨added ++ [name], by rw [hkeys, List.append_assoc], fun other hother => ?_⟩
      rcases List.mem_append.mp hother with hold | hnew
      · exact hadded other hold
      · rw [List.mem_singleton.mp hnew]
        exact hname

theorem BoundOver.bind {saved store : Store} (h : saved.BoundOver store) (frame : LoopFrame) :
    saved.BoundOver (frame.bind store) := by
  have hcounted := (h.insert (by decide : "iteration" ∈ loopVariables) (.ofNat frame.iteration))
    |>.insert (by decide : "index" ∈ loopVariables) (.ofNat frame.index)
  unfold LoopFrame.bind
  dsimp only
  split
  · next item _ => exact hcounted.insert (by decide) item
  · exact hcounted

/-- Giving the loop variables back undoes binding them. -/
theorem BoundOver.restore {saved store : Store} (h : saved.BoundOver store) :
    saved.restoreLoopVariables store = saved := by
  obtain ⟨added, hkeys, hadded⟩ := h.added
  have hgone : added.filter (fun key => decide (key ∉ loopVariables)) = [] :=
    List.filter_eq_nil_iff.mpr fun key hkey => by simpa using hadded key hkey
  refine OrderedMap.ext_get? ?_ fun name => ?_
  · rw [restoreLoopVariables_eq, keys_foldl_giveBack loopVariables hkeys, hgone, List.append_nil]
  · rw [restoreLoopVariables_eq, get?_foldl_giveBack]
    split
    · rfl
    · next hname => exact h.outside name hname

end Store

/-! ## Runs whose attempts keep the store -/

/-- The run keeps the store whenever every attempt that is listed for it
does. -/
def Engine.WritesInAttempts (e : Engine σ) (run : Runner σ) (trace : Tracer σ) : Prop :=
  ∀ frame p, (∀ a ∈ trace frame p, a.KeepsStore e) → (run frame p).2.store = p.store

namespace Engine

theorem attemptsFrom_store {e : Engine σ} {step : Step} {policy : RetryPolicy} {base : Duration}
    {frame : Option LoopFrame} {remaining index : Nat} {logs : List String} {p : Progress σ}
    (h : ∀ a ∈ e.retryAttempts step policy base frame remaining index p, a.KeepsStore e) :
    (e.attemptsFrom step policy base frame remaining index logs p).2.store = p.store := by
  induction remaining generalizing index logs p with
  | zero =>
      have hfirst : (e.attempt step frame p).2.store = p.store :=
        h ⟨step, frame, p⟩ (List.mem_singleton.mpr rfl)
      unfold attemptsFrom
      dsimp only
      split <;> exact hfirst
  | succ remaining ih =>
      unfold retryAttempts at h
      dsimp only at h
      have hfirst : (e.attempt step frame p).2.store = p.store :=
        h ⟨step, frame, p⟩ List.mem_cons_self
      unfold attemptsFrom
      dsimp only
      split
      · exact hfirst
      · exact hfirst
      · next hagain =>
          rw [if_pos hagain] at h
          exact (ih fun a ha => h a (List.mem_cons_of_mem _ ha)).trans hfirst

theorem retry_store {e : Engine σ} {step : Step} {policy : RetryPolicy}
    {frame : Option LoopFrame} {p : Progress σ}
    (h : ∀ base, Duration.parse? policy.delay = some base →
      ∀ a ∈ e.retryAttempts step policy base frame (policy.maxAttempts - 1) 0 p, a.KeepsStore e) :
    (e.retry step policy frame p).2.store = p.store := by
  unfold retry
  split
  · rfl
  · next base hbase => exact attemptsFrom_store (h base hbase)

theorem conditional_writesInAttempts {e : Engine σ} {run : Runner σ} {trace : Tracer σ}
    (hbody : e.WritesInAttempts run trace) (step : Step) (condition : String) :
    e.WritesInAttempts (e.conditional step condition run)
      (e.conditionalAttempts step condition trace) := by
  intro frame p h
  unfold conditionalAttempts at h
  unfold conditional
  split
  · next hcheck =>
      rw [hcheck] at h
      exact hbody frame p h
  · rfl
  · rfl

theorem iteration_store {e : Engine σ} {run : Runner σ} {trace : Tracer σ}
    (hbody : e.WritesInAttempts run trace) {step : Step} {frame : LoopFrame} {p : Progress σ}
    (h : ∀ a ∈ e.iterationAttempts step trace frame p, a.KeepsStore e) :
    (e.iteration step run frame p).2.store = frame.bind p.store := by
  rw [iteration_eq]
  unfold iterationAttempts at h
  unfold gated
  dsimp only at h ⊢
  cases hif : step.onlyIf with
  | none =>
      rw [hif] at h
      exact hbody _ _ h
  | some condition =>
      rw [hif] at h
      exact conditional_writesInAttempts hbody step condition _ _ h

/-- The iterations of a `for` loop leave the store bound over the one before
the loop. -/
theorem forIterations_boundOver {e : Engine σ} {run : Runner σ} {trace : Tracer σ}
    (hbody : e.WritesInAttempts run trace) {step : Step} {spec : LoopSpec} {condition : String}
    {remaining index : Nat} {done : List Row} {p : Progress σ} {saved : Store}
    (hsaved : saved.BoundOver p.store)
    (h : ∀ a ∈ e.forAttempts step run trace spec condition remaining index p, a.KeepsStore e) :
    saved.BoundOver (e.forIterations step run spec condition remaining index done p).2.store := by
  induction remaining generalizing index done p with
  | zero => exact hsaved
  | succ remaining ih =>
      unfold forAttempts at h
      dsimp only at h
      have hiteration := iteration_store hbody fun a ha => h a (List.mem_append_left _ ha)
      have hbound := hiteration ▸ hsaved.bind (forFrame spec condition index)
      unfold forIterations
      dsimp only
      split
      · exact hbound
      · next hfault =>
          refine ih hbound fun a ha => h a (List.mem_append_right _ ?_)
          rw [forFrame, hfault]
          exact ha

theorem whileIterations_boundOver {e : Engine σ} {run : Runner σ} {trace : Tracer σ}
    (hbody : e.WritesInAttempts run trace) {step : Step} {condition : String} {limit : Nat}
    {remaining completed : Nat} {done : List Row} {p : Progress σ} {saved : Store}
    (hsaved : saved.BoundOver p.store)
    (h : ∀ a ∈ e.whileAttempts step run trace condition limit remaining completed p,
      a.KeepsStore e) :
    saved.BoundOver
      (e.whileIterations step run condition limit remaining completed done p).2.store := by
  induction remaining generalizing completed done p with
  | zero =>
      unfold whileIterations
      dsimp only
      split <;> exact hsaved
  | succ remaining ih =>
      unfold whileAttempts at h
      dsimp only at h
      unfold whileIterations
      dsimp only
      split
      · exact hsaved
      · exact hsaved
      · next hcheck =>
          rw [hcheck] at h
          dsimp only at h
          have hiteration := iteration_store hbody fun a ha => h a (List.mem_append_left _ ha)
          have hbound := hiteration ▸ hsaved.bind (e.whileFrame condition limit completed p.store)
          split
          · exact hbound
          · next hfault =>
              refine ih hbound fun a ha => h a (List.mem_append_right _ ?_)
              rw [hfault]
              exact ha

theorem forLoop_store {e : Engine σ} {run : Runner σ} {trace : Tracer σ}
    (hbody : e.WritesInAttempts run trace) {step : Step} {text : String} {p : Progress σ}
    (h : ∀ spec, LoopSpec.parse e.env p.store text = .ok spec →
      ∀ a ∈ e.forAttempts step run trace spec (p.store.substitute e.env text) spec.length 0 p,
        a.KeepsStore e) :
    (e.forLoop step text run p).2.store = p.store := by
  unfold forLoop
  split
  · rfl
  · next spec hspec =>
      split
      · rfl
      · exact (forIterations_boundOver hbody (.refl p.store) (h spec hspec)).restore

theorem whileLoop_store {e : Engine σ} {run : Runner σ} {trace : Tracer σ}
    (hbody : e.WritesInAttempts run trace) {step : Step} {condition : String} {p : Progress σ}
    (h : let limit := e.limits.loopLimit step.maxIterations
      ∀ a ∈ e.whileAttempts step run trace condition limit limit 0 p, a.KeepsStore e) :
    (e.whileLoop step condition run p).2.store = p.store := by
  rw [whileLoop_eq]
  exact (whileIterations_boundOver hbody (.refl p.store) h).restore

/-! ### Steps -/

theorem runChildren_store {e : Engine σ} {parent : String} {steps : List Step}
    (hsteps : ∀ child ∈ steps, e.WritesInAttempts (e.runner child) (e.attemptsOf child))
    {frame : Option LoopFrame} {done : GroupRun} {p : Progress σ}
    (h : ∀ a ∈ e.groupAttempts steps frame p, a.KeepsStore e) :
    (runChildren parent (steps.map fun child => (child, e.runner child)) frame done p).2.store =
      p.store := by
  induction steps generalizing done p with
  | nil => rfl
  | cons child rest ih =>
      unfold groupAttempts attemptsOf.groupAttempts at h
      dsimp only at h
      have hchild : (e.runner child frame p).2.store = p.store :=
        hsteps child List.mem_cons_self frame p fun a ha => h a (List.mem_append_left _ ha)
      rw [List.map_cons]
      unfold runChildren
      dsimp only
      split
      · exact hchild
      · next hstop =>
          rw [if_neg hstop] at h
          exact (ih (fun other hother => hsteps other (List.mem_cons_of_mem _ hother))
            fun a ha => h a (List.mem_append_right _ ha)).trans hchild

theorem core_writesInAttempts {e : Engine σ} {step : Step}
    (hsteps : ∀ child ∈ step.steps, e.WritesInAttempts (e.runner child) (e.attemptsOf child)) :
    e.WritesInAttempts (e.core step (e.childrenOf step))
      (e.coreAttempts step (e.groupAttempts step.steps)) := by
  intro frame p h
  unfold coreAttempts at h
  rw [core_eq]
  split
  · next hgroup =>
      rw [if_pos hgroup] at h
      exact runChildren_store hsteps h
  · next hleaf =>
      rw [if_neg hleaf] at h
      split
      · next policy hpolicy =>
          rw [hpolicy] at h
          refine retry_store fun base hbase => ?_
          simpa only [hbase] using h
      · next hpolicy =>
          rw [hpolicy] at h
          exact h ⟨step, frame, p⟩ (List.mem_singleton.mpr rfl)

theorem dispatch_writesInAttempts {e : Engine σ} {step : Step}
    (hsteps : ∀ child ∈ step.steps, e.WritesInAttempts (e.runner child) (e.attemptsOf child)) :
    e.WritesInAttempts (e.dispatch step (e.childrenOf step))
      (e.dispatchAttempts step (e.groupAttempts step.steps)) := by
  have hcore := core_writesInAttempts hsteps
  intro frame p h
  unfold dispatchAttempts at h
  dsimp only at h
  rw [dispatch_eq]
  split
  · next text _ _ hfor =>
      refine forLoop_store hcore fun spec hspec => ?_
      rw [hfor] at h
      simpa only [hspec] using h
  · next condition _ hfor hwhile =>
      rw [hfor, hwhile] at h
      exact whileLoop_store hcore h
  · next condition hfor hwhile hif =>
      rw [hfor, hwhile, hif] at h
      exact conditional_writesInAttempts hcore step condition frame p h
  · next hfor hwhile hif =>
      rw [hfor, hwhile, hif] at h
      exact hcore frame p h

/-- A run writes to the store only in its attempts. -/
theorem runner_writesInAttempts (e : Engine σ) (step : Step) :
    e.WritesInAttempts (e.runner step) (e.attemptsOf step) := by
  induction step using Step.induction with
  | h step ih =>
      rw [runner_eq, attemptsOf_eq]
      exact dispatch_writesInAttempts ih

/-! ## Loops give their variables back -/

theorem forLoop_get? (e : Engine σ) (step : Step) (text : String) (run : Runner σ)
    (p : Progress σ) {name : String} (hname : name ∈ loopVariables) :
    (e.forLoop step text run p).2.store.get? name = p.store.get? name := by
  unfold forLoop
  split
  · rfl
  · split
    · rfl
    · exact Store.get?_restoreLoopVariables p.store _ hname

theorem whileLoop_get? (e : Engine σ) (step : Step) (condition : String) (run : Runner σ)
    (p : Progress σ) {name : String} (hname : name ∈ loopVariables) :
    (e.whileLoop step condition run p).2.store.get? name = p.store.get? name := by
  rw [whileLoop_eq]
  exact Store.get?_restoreLoopVariables p.store _ hname

/-- **Loops are transparent.** However a loop ends and whatever its body
does, the variables of loops read after it as they did before, so that the
rest of an outer iteration still sees its own. If no attempt of the body
writes to the store, the loop leaves all of it as it was, the order of the
names included. -/
theorem loop_restores_store (e : Engine σ) (step : Step) (frame : Option LoopFrame)
    (p : Progress σ) (hloop : step.forEach.isSome = true ∨ step.whileTrue.isSome = true) :
    (∀ name ∈ loopVariables,
        (e.runner step frame p).2.store.get? name = p.store.get? name) ∧
      ((∀ a ∈ e.attemptsOf step frame p, a.KeepsStore e) →
        (e.runner step frame p).2.store = p.store) := by
  refine ⟨fun name hname => ?_, e.runner_writesInAttempts step frame p⟩
  rw [runner_eq, dispatch_eq]
  split
  · exact e.forLoop_get? step _ _ p hname
  · exact e.whileLoop_get? step _ _ p hname
  · next hfor hwhile _ => simp [hfor, hwhile] at hloop
  · next hfor hwhile _ => simp [hfor, hwhile] at hloop

/-- An engine whose only action writes nothing. -/
def noting : Engine Unit where
  catalog := Catalog.empty.insert "note" (.pure fun _ _ => ⟨.passed, none⟩)

/-- A loop in a loop, and a step after the inner one. -/
def nested : Step where
  name := "outer"
  forEach := some "1..2"
  steps := [
    { name := "inner", action := some "note", forEach := some "[a, b]" },
    { name := "after", action := some "note" }]

/-- The loops leave an `item` that was there before them, and no `index` or
`iteration`. -/
theorem loop_restores_store_nested :
    let p : Progress Unit := ⟨OrderedMap.empty.insert "item" (.string "mine"), (), []⟩
    (nested.forEach.isSome = true ∨ nested.whileTrue.isSome = true) ∧
      (∀ a ∈ noting.attemptsOf nested none p, a.KeepsStore noting) ∧
      (∀ name ∈ loopVariables,
        (noting.runner nested none p).2.store.get? name = p.store.get? name) ∧
      (noting.runner nested none p).2.store = p.store := by
  intro p
  have hloop : nested.forEach.isSome = true ∨ nested.whileTrue.isSome = true := .inl rfl
  have hquiet : Catalog.KeepsStore noting.catalog :=
    Catalog.keepsStore_empty.insert (Action.pure_keepsStore _) "note"
  have hattempts : ∀ a ∈ noting.attemptsOf nested none p, a.KeepsStore noting :=
    attemptsOf_keepStore hquiet (by decide) none p
  obtain ⟨hvariables, hstore⟩ := loop_restores_store noting nested none p hloop
  exact ⟨hloop, hattempts, hvariables, hstore hattempts⟩

end Engine

end Scenario
