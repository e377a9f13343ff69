import Scenario.Engine.Dispatch

/-!
# Rows and the leaves below them

A run reports a tree of rows, and three readers look at it: the status of
a row, the search for its first fault, and the counting of its leaves.
They can only agree if the row of a group says what its children say.
`Row.Coherent` is that condition: a group has at least one child, and its
outcome is that of its first child with trouble.

Two facts carry everything else. Going down to the leaves keeps the first
trouble (`firstTrouble?_leaves`), so the outcome of a group is the outcome
of a leaf; and the recursive search for a fault finds the first leaf with
one (`Coherent.firstFault?_eq`). Renaming rows changes neither.
-/

namespace Scenario

namespace Row

/-! ## Trees as lists of leaves -/

theorem leavesOf_eq (rows : List Row) : leaves.leavesOf rows = rows.flatMap leaves := by
  induction rows with
  | nil => rfl
  | cons row rows ih => rw [leaves.leavesOf, ih, List.flatMap_cons]

theorem leaves_eq (row : Row) :
    row.leaves = if row.children = [] then [row] else row.children.flatMap leaves := by
  obtain ⟨name, action, result, logs, attempts, children⟩ := row
  cases children with
  | nil => simp [leaves]
  | cons first rest => simp [leaves, leavesOf_eq]

theorem leaves_of_leaf {row : Row} (h : row.children = []) : row.leaves = [row] := by
  rw [leaves_eq, if_pos h]

theorem leaves_of_group {row : Row} (h : row.children ≠ []) :
    row.leaves = row.children.flatMap leaves := by
  rw [leaves_eq, if_neg h]

/-- Rows by induction: what holds of a row whenever it holds of its children
holds of every row. -/
theorem induction {motive : Row → Prop}
    (h : ∀ row : Row, (∀ child ∈ row.children, motive child) → motive row) (row : Row) :
    motive row :=
  h row fun child _ => Row.induction h child
termination_by sizeOf row
decreasing_by
  rename_i hchild
  cases row
  have := List.sizeOf_lt_of_mem hchild
  simp only [Row.mk.sizeOf_spec] at *
  omega

/-- The fault that a row itself carries. -/
def fault? (row : Row) : Option Fault :=
  row.result.outcome.fault?

theorem firstFaultOf?_eq (rows : List Row) :
    firstFault?.firstFaultOf? rows = rows.findSome? firstFault? := by
  induction rows with
  | nil => rfl
  | cons row rows ih =>
      rw [firstFault?.firstFaultOf?, List.findSome?_cons, ih]
      cases row.firstFault? <;> rfl

theorem firstFault?_eq (row : Row) :
    row.firstFault? = row.fault?.or (row.children.findSome? firstFault?) := by
  obtain ⟨name, action, result, logs, attempts, children⟩ := row
  rw [firstFault?, firstFaultOf?_eq, fault?]
  cases result.outcome.fault? <;> rfl

/-! ## Trouble -/

theorem isTrouble_iff {row : Row} :
    row.isTrouble = true ↔ row.status = .failed ∨ row.status = .error := by
  unfold isTrouble
  cases row.status <;> simp

/-- The outcome of the first row with trouble. -/
def firstTrouble? (rows : List Row) : Option Outcome :=
  (rows.find? isTrouble).map fun row => row.result.outcome

theorem firstTrouble?_singleton (row : Row) :
    firstTrouble? [row] = if row.isTrouble then some row.result.outcome else none := by
  unfold firstTrouble?
  cases h : row.isTrouble <;> simp [h]

theorem firstTrouble?_append (rows rows' : List Row) :
    firstTrouble? (rows ++ rows') = (firstTrouble? rows).or (firstTrouble? rows') := by
  simp only [firstTrouble?, List.find?_append]
  cases rows.find? isTrouble <;> rfl

theorem firstTrouble?_cons (row : Row) (rows : List Row) :
    firstTrouble? (row :: rows) = (firstTrouble? [row]).or (firstTrouble? rows) :=
  firstTrouble?_append [row] rows

theorem firstTrouble?_eq_none_iff {rows : List Row} :
    firstTrouble? rows = none ↔ ∀ row ∈ rows, row.isTrouble = false := by
  simp [firstTrouble?]

/-- The first trouble is a failure or an error. -/
theorem status_of_firstTrouble? {rows : List Row} {outcome : Outcome}
    (h : firstTrouble? rows = some outcome) :
    outcome.status = .failed ∨ outcome.status = .error := by
  obtain ⟨row, hrow, rfl⟩ := Option.map_eq_some_iff.mp h
  exact isTrouble_iff.mp (List.find?_some hrow)

/-- If the first trouble is an error, no other fault comes before it. -/
theorem findSome?_fault_of_firstTrouble? {rows : List Row} {fault : Fault}
    (h : firstTrouble? rows = some (.error fault)) : rows.findSome? fault? = some fault := by
  induction rows with
  | nil => cases h
  | cons row rows ih =>
      rw [firstTrouble?_cons, firstTrouble?_singleton] at h
      rw [List.findSome?_cons, fault?]
      cases ho : row.result.outcome with
      | error own =>
          have htrouble : row.isTrouble = true :=
            isTrouble_iff.mpr (Or.inr (by rw [status, ActionResult.status, ho]; rfl))
          rw [htrouble, ho] at h
          simpa [Outcome.fault?] using h
      | failed failure =>
          have htrouble : row.isTrouble = true :=
            isTrouble_iff.mpr (Or.inl (by rw [status, ActionResult.status, ho]; rfl))
          rw [htrouble, ho] at h
          simp at h
      | passed | skipped =>
          have hcalm : row.isTrouble = false := by
            simp [isTrouble, status, ActionResult.status, ho, Outcome.status]
          rw [hcalm] at h
          exact ih (by simpa using h)

theorem groupOutcome_eq (rows : List Row) :
    Engine.groupOutcome rows = (firstTrouble? rows).getD .passed := by
  unfold Engine.groupOutcome firstTrouble?
  cases rows.find? isTrouble <;> rfl

/-! ## Coherent rows -/

/-- The row of a group says what the rows below it say. -/
inductive Coherent : Row → Prop
  | leaf {row : Row} (hleaf : row.children = []) : Coherent row
  | group {row : Row} (hne : row.children ≠ [])
      (hchildren : ∀ child ∈ row.children, Coherent child)
      (houtcome : row.result.outcome = Engine.groupOutcome row.children) : Coherent row

/-- What holds of each row and its leaves, holds of a list and its leaves. -/
theorem firstTrouble?_flatMap {rows : List Row}
    (h : ∀ row ∈ rows, firstTrouble? row.leaves = firstTrouble? [row]) :
    firstTrouble? (rows.flatMap leaves) = firstTrouble? rows := by
  induction rows with
  | nil => rfl
  | cons row rows ih =>
      rw [List.flatMap_cons, firstTrouble?_append, firstTrouble?_cons row rows,
        h row List.mem_cons_self, ih fun other hother => h other (List.mem_cons_of_mem _ hother)]

theorem Coherent.firstTrouble?_eq {row : Row} (h : row.Coherent) :
    firstTrouble? row.leaves = firstTrouble? [row] := by
  induction h with
  | leaf hleaf => rw [leaves_of_leaf hleaf]
  | @group row hne hchildren houtcome ih =>
      rw [leaves_of_group hne, firstTrouble?_flatMap ih, firstTrouble?_singleton, houtcome,
        groupOutcome_eq]
      cases hfirst : firstTrouble? row.children with
      | none =>
          have hstatus : row.status = .passed := by
            rw [status, ActionResult.status, houtcome, groupOutcome_eq, hfirst]; rfl
          simp [isTrouble, hstatus]
      | some outcome =>
          have htrouble : row.isTrouble = true := by
            rw [isTrouble_iff, status, ActionResult.status, houtcome, groupOutcome_eq, hfirst]
            exact status_of_firstTrouble? hfirst
          simp [htrouble]

/-- Going down to the leaves keeps the first trouble. -/
theorem firstTrouble?_leaves {rows : List Row} (h : ∀ row ∈ rows, row.Coherent) :
    firstTrouble? (rows.flatMap leaves) = firstTrouble? rows :=
  firstTrouble?_flatMap fun row hrow => (h row hrow).firstTrouble?_eq

/-- No row is in trouble exactly when no leaf is. -/
theorem calm_iff_leaves_calm {rows : List Row} (h : ∀ row ∈ rows, row.Coherent) :
    (∀ row ∈ rows, row.isTrouble = false) ↔
      ∀ leaf ∈ rows.flatMap leaves, leaf.isTrouble = false := by
  rw [← firstTrouble?_eq_none_iff, ← firstTrouble?_eq_none_iff, firstTrouble?_leaves h]

/-- A row is an error exactly when its first leaf with trouble is one. -/
theorem Coherent.isError_iff {row : Row} (h : row.Coherent) :
    row.status = .error ↔
      ∃ leaf, row.leaves.find? isTrouble = some leaf ∧ leaf.status = .error := by
  have hfirst := h.firstTrouble?_eq
  rw [firstTrouble?_singleton] at hfirst
  constructor
  · intro hstatus
    rw [if_pos (isTrouble_iff.mpr (Or.inr hstatus))] at hfirst
    obtain ⟨leaf, hleaf, houtcome⟩ := Option.map_eq_some_iff.mp hfirst
    refine ⟨leaf, hleaf, ?_⟩
    rw [status, ActionResult.status, houtcome]
    exact hstatus
  · rintro ⟨leaf, hleaf, hstatus⟩
    rw [firstTrouble?, hleaf] at hfirst
    by_cases htrouble : row.isTrouble = true
    · rw [if_pos htrouble] at hfirst
      rw [status, ActionResult.status, ← Option.some.inj hfirst]
      exact hstatus
    · rw [if_neg htrouble] at hfirst
      cases hfirst

/-! ## The first fault -/

/-- The fault of the first leaf that has one. -/
def leafFault? (rows : List Row) : Option Fault :=
  (rows.flatMap leaves).findSome? fault?

theorem leafFault?_append (rows rows' : List Row) :
    leafFault? (rows ++ rows') = (leafFault? rows).or (leafFault? rows') := by
  simp only [leafFault?, List.flatMap_append, List.findSome?_append]

theorem leafFault?_of_leaf {row : Row} (h : row.children = []) :
    leafFault? [row] = row.fault? := by
  simp [leafFault?, leaves_of_leaf h]

theorem leafFault?_of_group {row : Row} (h : row.children ≠ []) :
    leafFault? [row] = leafFault? row.children := by
  simp [leafFault?, leaves_of_group h]

/-- A row carries a fault exactly when it is an error. -/
theorem isSome_fault? (row : Row) : row.fault?.isSome = (row.status == .error) := by
  unfold fault? status ActionResult.status
  cases row.result.outcome <;> rfl

theorem fault?_eq_some_iff {row : Row} {fault : Fault} :
    row.fault? = some fault ↔ row.result.outcome = .error fault := by
  unfold fault?
  cases row.result.outcome <;> simp [Outcome.fault?]

theorem fault?_eq_none_iff {row : Row} : row.fault? = none ↔ row.status ≠ .error := by
  rw [Option.eq_none_iff_forall_not_mem, ← beq_eq_false_iff_ne, ← isSome_fault?]
  cases row.fault? <;> simp

theorem leafFault?_eq_none_iff {rows : List Row} :
    leafFault? rows = none ↔ ∀ leaf ∈ rows.flatMap leaves, leaf.status ≠ .error := by
  simp only [leafFault?, List.findSome?_eq_none_iff, fault?_eq_none_iff]

/-- The first leaf with a fault is the first one that is an error. -/
theorem leafFault?_eq_bind_find? (rows : List Row) :
    leafFault? rows =
      ((rows.flatMap leaves).find? fun leaf => leaf.status == .error).bind
        fun leaf => leaf.result.outcome.fault? := by
  unfold leafFault?
  induction rows.flatMap leaves with
  | nil => rfl
  | cons leaf rest ih =>
      rw [List.findSome?_cons, List.find?_cons, ih]
      rw [← isSome_fault?]
      cases hfault : leaf.fault? with
      | none => rfl
      | some fault => exact hfault.symm

theorem findSome?_firstFault? {rows : List Row}
    (h : ∀ row ∈ rows, row.firstFault? = row.leaves.findSome? fault?) :
    rows.findSome? firstFault? = leafFault? rows := by
  induction rows with
  | nil => rfl
  | cons row rows ih =>
      rw [leafFault?, List.flatMap_cons, List.findSome?_append, List.findSome?_cons,
        h row List.mem_cons_self, ih fun other hother => h other (List.mem_cons_of_mem _ hother)]
      cases row.leaves.findSome? fault? <;> rfl

/-- The search from the top finds the fault of the first leaf with one: a
group that is an error itself repeats the fault of its first leaf with
trouble, and no fault can come before that. -/
theorem Coherent.firstFault?_eq {row : Row} (h : row.Coherent) :
    row.firstFault? = row.leaves.findSome? fault? := by
  induction h with
  | leaf hleaf => rw [Row.firstFault?_eq, leaves_of_leaf hleaf, hleaf]; simp
  | @group row hne hchildren houtcome ih =>
      rw [Row.firstFault?_eq, findSome?_firstFault? ih, leaves_of_group hne, fault?, houtcome,
        groupOutcome_eq, ← firstTrouble?_leaves hchildren, leafFault?]
      cases hfirst : firstTrouble? (row.children.flatMap leaves) with
      | none => rfl
      | some outcome =>
          cases outcome with
          | error fault => rw [findSome?_fault_of_firstTrouble? hfirst]; rfl
          | passed | failed | skipped => rfl

theorem firstFaultOf?_leaves {rows : List Row} (h : ∀ row ∈ rows, row.Coherent) :
    firstFault?.firstFaultOf? rows = leafFault? rows := by
  rw [firstFaultOf?_eq, findSome?_firstFault? fun row hrow => (h row hrow).firstFault?_eq]

/-! ## Renaming -/

@[simp] theorem withSuffix_fault? (suffix : String) (row : Row) :
    (row.withSuffix suffix).fault? = row.fault? := rfl

theorem Coherent.withSuffix {row : Row} (h : row.Coherent) (suffix : String) :
    (row.withSuffix suffix).Coherent := by
  cases h with
  | leaf hleaf => exact .leaf hleaf
  | group hne hchildren houtcome => exact .group hne hchildren houtcome

theorem leafFault?_withSuffix (suffix : String) (rows : List Row) :
    leafFault? (rows.map (Row.withSuffix suffix)) = leafFault? rows := by
  induction rows with
  | nil => rfl
  | cons row rows ih =>
      have hrow : leafFault? [row.withSuffix suffix] = leafFault? [row] := by
        by_cases hleaf : row.children = []
        · have hsuffixed : (row.withSuffix suffix).children = [] := hleaf
          rw [leafFault?_of_leaf hsuffixed, leafFault?_of_leaf hleaf, withSuffix_fault?]
        · have hsuffixed : (row.withSuffix suffix).children ≠ [] := hleaf
          rw [leafFault?_of_group hsuffixed, leafFault?_of_group hleaf]
          rfl
      rw [List.map_cons, ← List.singleton_append, leafFault?_append, hrow, ih,
        ← leafFault?_append, List.singleton_append]

theorem withinAll_eq (parent : String) (rows : List Row) :
    within.withinAll parent rows = rows.map (Row.within parent) := by
  induction rows with
  | nil => rfl
  | cons row rows ih => rw [within.withinAll, ih, List.map_cons]

@[simp] theorem within_children (parent : String) (row : Row) :
    (row.within parent).children = row.children.map (Row.within parent) := by
  obtain ⟨name, action, result, logs, attempts, children⟩ := row
  rw [within, withinAll_eq]

@[simp] theorem within_result (parent : String) (row : Row) :
    (row.within parent).result = row.result := by
  obtain ⟨name, action, result, logs, attempts, children⟩ := row
  rw [within]

@[simp] theorem within_fault? (parent : String) (row : Row) :
    (row.within parent).fault? = row.fault? := by
  rw [fault?, within_result, fault?]

@[simp] theorem within_isTrouble (parent : String) (row : Row) :
    (row.within parent).isTrouble = row.isTrouble := by
  unfold isTrouble status
  rw [within_result]

theorem leaves_within (parent : String) (row : Row) :
    (row.within parent).leaves = row.leaves.map (Row.within parent) := by
  induction row using Row.induction with
  | h row ih =>
      by_cases hleaf : row.children = []
      · rw [leaves_of_leaf hleaf, leaves_of_leaf (by simp [hleaf]), List.map_singleton]
      · rw [leaves_of_group hleaf, leaves_of_group (by simp [hleaf]), within_children,
          List.flatMap_map, List.map_flatMap]
        rw [List.flatMap_def, List.flatMap_def, List.map_congr_left ih]

theorem leafFault?_within (parent : String) (rows : List Row) :
    leafFault? (rows.map (Row.within parent)) = leafFault? rows := by
  have hleaves : (rows.map (Row.within parent)).flatMap leaves =
      (rows.flatMap leaves).map (Row.within parent) := by
    simp only [List.flatMap_map, List.map_flatMap, leaves_within]
  rw [leafFault?, hleaves, List.findSome?_map, leafFault?]
  congr 1
  funext leaf
  exact within_fault? parent leaf

theorem firstTrouble?_within (parent : String) (rows : List Row) :
    firstTrouble? (rows.map (Row.within parent)) = firstTrouble? rows := by
  induction rows with
  | nil => rfl
  | cons row rows ih =>
      rw [List.map_cons, firstTrouble?_cons, ih, firstTrouble?_cons row rows,
        firstTrouble?_singleton, firstTrouble?_singleton, within_isTrouble, within_result]

theorem Coherent.within {row : Row} (h : row.Coherent) (parent : String) :
    (row.within parent).Coherent := by
  induction h with
  | leaf hleaf => exact .leaf (by simp [hleaf])
  | @group row hne hchildren houtcome ih =>
      refine .group (by simp [hne]) ?_ ?_
      · intro child hchild
        rw [within_children] at hchild
        obtain ⟨below, hbelow, rfl⟩ := List.mem_map.mp hchild
        exact ih below hbelow
      · rw [within_result, within_children, houtcome, groupOutcome_eq, groupOutcome_eq,
          firstTrouble?_within]

end Row

end Scenario
