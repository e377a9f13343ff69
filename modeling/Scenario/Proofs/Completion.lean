import Mathlib.Data.List.Nodup
import Scenario.Proofs.TableForm

/-!
# Objects completed with null

An array of objects is a table whose columns are the names of all objects,
each of them once (`Table.mem_columns`, `Table.nodup_columns`). A row has a cell
for every column, null where its object lacks the name, and is made an object
again by the same columns. So no field is lost or moved, and an object gains
null under the names that only other objects have (`Table.completes_rebuilt`).

An extraction that selects nothing gives the completed objects in their order.
That is the array as it was exactly if all objects have the same names
(`Extraction.fromTable_completes`).
-/

namespace Scenario

namespace Json

theorem mem_iff_field?_eq {fields : List (String × Json)} {name : String} {value : Json}
    (h : (fields.map Prod.fst).Nodup) :
    (name, value) ∈ fields ↔ field? name fields = some value := by
  induction fields with
  | nil => simp [field?]
  | cons field rest ih =>
      obtain ⟨key, first⟩ := field
      rw [List.map_cons, List.nodup_cons] at h
      obtain ⟨hfresh, hrest⟩ := h
      by_cases hkey : key = name
      · subst hkey
        have hnot : (key, value) ∉ rest := fun hmem =>
          hfresh (List.mem_map.mpr ⟨(key, value), hmem, rfl⟩)
        simp [field?, hnot, eq_comm]
      · simp [field?, hkey, Ne.symm hkey, ih hrest]

theorem IsSorted.eq_of_mem_iff {left right : List (String × Json)} (hleft : IsSorted left)
    (hright : IsSorted right) (h : ∀ name value, (name, value) ∈ left ↔ (name, value) ∈ right) :
    left = right := by
  refine fields_ext hleft hright fun name => Option.ext fun value => ?_
  rw [← mem_iff_field?_eq hleft.nodup, ← mem_iff_field?_eq hright.nodup]
  exact h name value

/-- Among the objects of `rows`, fields with null for each name that only
other objects have, and with nothing else that is new. -/
structure Completes (rows : List (List (String × Json))) (fields completed : List (String × Json)) :
    Prop where
  sorted : IsSorted completed
  mem_iff : ∀ name value, (name, value) ∈ completed ↔
    (name, value) ∈ fields ∨
      value = .null ∧ name ∉ fields.map Prod.fst ∧ ∃ other ∈ rows, name ∈ other.map Prod.fst

/-- Fields that lack no name are left as they are. -/
theorem Completes.eq_self_iff {rows : List (List (String × Json))}
    {fields completed : List (String × Json)} (h : Completes rows fields completed)
    (hsorted : IsSorted fields) :
    completed = fields ↔
      ∀ other ∈ rows, ∀ name ∈ other.map Prod.fst, name ∈ fields.map Prod.fst := by
  constructor
  · rintro rfl other hother name hname
    -- a name that only others have would stand with null in the completed fields
    by_contra hlacks
    have hnull := (h.mem_iff name .null).mpr (.inr ⟨rfl, hlacks, other, hother, hname⟩)
    exact hlacks (List.mem_map.mpr ⟨(name, .null), hnull, rfl⟩)
  · intro hall
    refine h.sorted.eq_of_mem_iff hsorted fun name value => ?_
    rw [h.mem_iff, or_iff_left]
    rintro ⟨-, hlacks, other, hother, hname⟩
    exact hlacks (hall other hother name hname)

end Json

namespace Table

open Json

/-! ## The columns of objects -/

theorem mem_addNames {names : List String} {fields : List (String × Json)} {name : String} :
    name ∈ addNames names fields ↔ name ∈ names ∨ name ∈ fields.map Prod.fst := by
  induction fields generalizing names with
  | nil => simp [addNames]
  | cons field rest ih =>
      obtain ⟨key, value⟩ := field
      rw [addNames_cons, ih, List.map_cons, List.mem_cons]
      split
      · next hthere =>
          constructor
          · tauto
          · rintro (hname | rfl | hname)
            · exact .inl hname
            · exact .inl hthere
            · exact .inr hname
      · rw [List.mem_append, List.mem_singleton]
        tauto

theorem nodup_addNames {names : List String} (h : names.Nodup) (fields : List (String × Json)) :
    (addNames names fields).Nodup := by
  induction fields generalizing names with
  | nil => exact h
  | cons field rest ih =>
      obtain ⟨key, value⟩ := field
      rw [addNames_cons]
      apply ih
      split
      · exact h
      · next hnew =>
          rw [← List.concat_eq_append]
          exact List.Nodup.concat hnew h

/-- The names of all objects in order of their first appearance. -/
def columns (rows : List (List (String × Json))) : List String :=
  rows.foldl addNames []

theorem mem_columns {rows : List (List (String × Json))} {name : String} :
    name ∈ columns rows ↔ ∃ fields ∈ rows, name ∈ fields.map Prod.fst := by
  -- the induction is on the rows, from whatever names the earlier ones left
  have hfold : ∀ names, name ∈ rows.foldl addNames names ↔
      name ∈ names ∨ ∃ fields ∈ rows, name ∈ fields.map Prod.fst := by
    induction rows with
    | nil => simp
    | cons fields rest ih =>
        intro names
        rw [List.foldl_cons, ih, mem_addNames, List.exists_mem_cons_iff, or_assoc]
  exact (hfold []).trans (or_iff_right List.not_mem_nil)

theorem nodup_columns (rows : List (List (String × Json))) : (columns rows).Nodup := by
  have hfold : ∀ names : List String, names.Nodup → (rows.foldl addNames names).Nodup := by
    induction rows with
    | nil => exact fun _ h => h
    | cons fields rest ih => exact fun names h => ih _ (nodup_addNames h fields)
  exact hfold [] List.nodup_nil

/-! ## From an object to a row and back -/

/-- The value under a name, null if there is none. -/
def valueUnder (fields : List (String × Json)) (name : String) : Json :=
  (field? name fields).getD .null

theorem ofObjects_objects (rows : List (List (String × Json))) :
    ofObjects (rows.map .object) =
      .ok ⟨columns rows, rows.map fun fields => (columns rows).map (valueUnder fields)⟩ := by
  have hfields : ∀ fields, rowFields (.object fields) = .ok (id fields) := fun _ => rfl
  unfold ofObjects
  rw [mapM_map_eq_ok hfields rows, List.map_id]
  rfl

/-- The cells of a row stand below the headers they were made for. -/
theorem rowPairs_map (t : Table) (value : String → Json) :
    t.rowPairs (t.headers.map value) = t.headers.map fun name => (name, value name) := by
  refine List.ext_getElem? fun i => ?_
  rw [rowPairs, List.getElem?_map, List.getElem?_zipIdx, List.getElem?_map]
  cases hname : t.headers[i]? with
  | none => rfl
  | some name => simp [cellOf, hname]

/-- The fields of the object that a row of an object becomes. -/
def rebuilt (rows : List (List (String × Json))) (fields : List (String × Json)) :
    List (String × Json) :=
  fieldsOf ((columns rows).map fun name => (name, valueUnder fields name))

theorem mem_rebuilt {rows : List (List (String × Json))} {fields : List (String × Json)}
    {name : String} {value : Json} :
    (name, value) ∈ rebuilt rows fields ↔
      name ∈ columns rows ∧ value = valueUnder fields name := by
  let pairs := (columns rows).map fun name => (name, valueUnder fields name)
  have hnames : pairs.map Prod.fst = columns rows := by
    rw [List.map_map]
    exact List.map_id _
  have hsorted : IsSorted (rebuilt rows fields) := isSorted_fieldsOf pairs
  rw [mem_iff_field?_eq hsorted.nodup]
  by_cases hname : name ∈ columns rows
  · have hpair : (name, valueUnder fields name) ∈ pairs := List.mem_map.mpr ⟨name, hname, rfl⟩
    have hfield := field?_fieldsOf_of_mem (hnames ▸ nodup_columns rows) hpair
    rw [rebuilt, hfield]
    simp [hname, eq_comm]
  · have hnone : name ∉ pairs.map Prod.fst := by rwa [hnames]
    rw [rebuilt, field?_fieldsOf_of_not_mem hnone]
    simp [hname]

theorem completes_rebuilt {rows : List (List (String × Json))} {fields : List (String × Json)}
    (hsorted : IsSorted fields) (hmem : fields ∈ rows) :
    Completes rows fields (rebuilt rows fields) := by
  refine ⟨isSorted_fieldsOf _, fun name value => ?_⟩
  have hown : name ∈ fields.map Prod.fst ↔ (field? name fields).isSome = true :=
    isSome_field?_iff.symm
  rw [mem_rebuilt, mem_columns, mem_iff_field?_eq hsorted.nodup, hown, valueUnder]
  cases hfield : field? name fields with
  | some old =>
      have hname : ∃ other ∈ rows, name ∈ other.map Prod.fst :=
        ⟨fields, hmem, isSome_field?_iff.mp (by rw [hfield]; rfl)⟩
      simp only [hname, Option.isSome_some, not_true_eq_false, true_and, false_and, and_false,
        or_false, Option.getD_some, Option.some.injEq]
      exact eq_comm
  | none =>
      simp only [Option.isSome_none, Bool.false_eq_true, not_false_eq_true, true_and, reduceCtorEq,
        false_or, Option.getD_none]
      exact and_comm

end Table

namespace Extraction

open Table

theorem fromTable_objects (spec : Extraction) (rows : List (List (String × Json))) :
    { spec with row := none, column := none, filter := none }.fromTable
        (.array (rows.map .object)) =
      .ok (.array ((rows.map (rebuilt rows)).map .object)) := by
  let t : Table := ⟨columns rows, rows.map fun fields => (columns rows).map (valueUnder fields)⟩
  have hload : Table.load (.array (rows.map .object)) spec.delimiter = .ok t := by
    cases rows with
    | nil => rfl
    | cons fields rest => exact ofObjects_objects (fields :: rest)
  have hrow : ∀ fields, t.rowObject ((columns rows).map (valueUnder fields)) =
      .object (rebuilt rows fields) := by
    intro fields
    rw [rowObject_eq, rowPairs_map]
    rfl
  have hrows : t.rows.map t.rowObject = (rows.map (rebuilt rows)).map .object := by
    rw [List.map_map, List.map_map]
    exact List.map_congr_left fun fields _ => hrow fields
  rw [fromTable_of_load { spec with row := none, column := none, filter := none } hload, ← hrows]
  rfl

/-- **Objects that lack names.** Without a selection, an array of objects is
given back with each object completed by the names of the others. It is the
same array exactly if all objects have the same names. -/
theorem fromTable_completes (spec : Extraction) {rows : List (List (String × Json))}
    (hsorted : ∀ fields ∈ rows, Json.IsSorted fields) :
    let whole := { spec with row := none, column := none, filter := none }
    (∃ completed, whole.fromTable (.array (rows.map .object)) =
        .ok (.array (completed.map .object)) ∧
      List.Forall₂ (Json.Completes rows) rows completed) ∧
    (whole.fromTable (.array (rows.map .object)) = .ok (.array (rows.map .object)) ↔
      ∀ fields ∈ rows, ∀ other ∈ rows, ∀ name,
        name ∈ fields.map Prod.fst ↔ name ∈ other.map Prod.fst) := by
  intro whole
  have hwhole : whole.fromTable (.array (rows.map .object)) =
      .ok (.array ((rows.map (rebuilt rows)).map .object)) := spec.fromTable_objects rows
  have hcompletes : ∀ fields ∈ rows, Json.Completes rows fields (rebuilt rows fields) :=
    fun fields hfields => completes_rebuilt (hsorted fields hfields) hfields
  refine ⟨⟨rows.map (rebuilt rows), hwhole, ?_⟩, ?_⟩
  · rw [List.forall₂_map_right_iff, List.forall₂_same]
    exact hcompletes
  · have hsame : whole.fromTable (.array (rows.map .object)) = .ok (.array (rows.map .object)) ↔
        rows.map (rebuilt rows) = rows.map id := by
      rw [hwhole, Except.ok.injEq, Json.array.injEq,
        (List.map_injective_iff.mpr fun _ _ => Json.object.inj).eq_iff, List.map_id]
    rw [hsame, List.map_inj_left]
    constructor
    · intro h fields hfields other hother name
      have hnames := fun fields hfields =>
        ((hcompletes fields hfields).eq_self_iff (hsorted fields hfields)).mp (h fields hfields)
      exact ⟨hnames other hother fields hfields name, hnames fields hfields other hother name⟩
    · intro h fields hfields
      refine ((hcompletes fields hfields).eq_self_iff (hsorted fields hfields)).mpr ?_
      exact fun other hother name hname => (h fields hfields other hother name).mpr hname

/-- Two objects without a common name, and one that has a null of its own. -/
def strangers : List (List (String × Json)) :=
  [[("a", .ofNat 1)], [], [("b", .null), ("c", .array [])]]

/-- Each of them gets null for what only the others have. -/
theorem fromTable_completes_strangers :
    (∀ fields ∈ strangers, Json.IsSorted fields) ∧
    { kind := .csv : Extraction }.fromTable (.array (strangers.map .object)) =
      .ok (.array ([[("a", .ofNat 1), ("b", .null), ("c", .null)],
        [("a", .null), ("b", .null), ("c", .null)],
        [("a", .null), ("b", .null), ("c", .array [])]].map .object)) ∧
    List.Forall₂ (Json.Completes strangers) strangers
      [[("a", .ofNat 1), ("b", .null), ("c", .null)],
        [("a", .null), ("b", .null), ("c", .null)],
        [("a", .null), ("b", .null), ("c", .array [])]] := by
  have hsorted : ∀ fields ∈ strangers, Json.IsSorted fields := by
    unfold Json.IsSorted
    decide +kernel
  have hwhole : { kind := .csv : Extraction }.fromTable (.array (strangers.map .object)) =
      .ok (.array ([[("a", .ofNat 1), ("b", .null), ("c", .null)],
        [("a", .null), ("b", .null), ("c", .null)],
        [("a", .null), ("b", .null), ("c", .array [])]].map .object)) := by rfl
  refine ⟨hsorted, hwhole, ?_⟩
  obtain ⟨⟨completed, hcompleted, hrows⟩, -⟩ := fromTable_completes { kind := .csv } hsorted
  have hobjects := Json.array.inj (Except.ok.inj (hwhole.symm.trans hcompleted))
  obtain rfl := (List.map_injective_iff.mpr fun _ _ => Json.object.inj) hobjects
  exact hrows

end Extraction

end Scenario
