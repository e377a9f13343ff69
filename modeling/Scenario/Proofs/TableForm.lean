import Mathlib.Data.List.Forall2
import Mathlib.Data.List.Perm.Basic
import Scenario.Proofs.Selection

/-!
# One table in several forms

A rectangular table can be written as arrays, with the headers apart or in
front, and as objects. Arrays load as the table itself. Objects load as the
table with its columns in another order, since the fields of an object are
sorted (`Table.load_write`).

No selection depends on the order of the columns: cells are found by the names
of their columns, and rows are given as objects (`Table.Rearranged.select`). So
all forms give the same value or fail for the same reason, where only the
headers may be listed in another order (`Table.fromTable_write`).
-/

namespace Scenario

/-- The same reason, with the headers listed in any order. -/
inductive SelectionError.Alike : SelectionError → SelectionError → Prop
  | refl (e : SelectionError) : Alike e e
  | unknownColumn (column : String) {headers headers' : List String} (h : headers.Perm headers') :
    Alike (.unknownColumn column headers) (.unknownColumn column headers')

/-- What a table can be written as. -/
inductive TableForm
  /-- `headers` with `records`. -/
  | records
  /-- `headers` with `rows`. -/
  | rows
  /-- An array of arrays with the headers in front. -/
  | arrays
  /-- An array of arrays under `rows`. -/
  | rowsOfArrays
  /-- An array of objects. -/
  | objects
  /-- An array of objects under `rows`. -/
  | rowsOfObjects
  deriving Repr, DecidableEq

namespace Table

/-- Different headers, and rows of their length, of which there is one. -/
structure IsRectangular (t : Table) : Prop where
  nodup : t.headers.Nodup
  rows_ne_nil : t.rows ≠ []
  length_eq : ∀ row ∈ t.rows, row.length = t.headers.length

/-- The headers and the rows, all as arrays. -/
def asArrays (t : Table) : List Json :=
  .ofStrings t.headers :: t.rows.map .array

/-- The rows as objects. -/
def asObjects (t : Table) : List Json :=
  t.rows.map fun row => .ofFields (t.headers.zip row)

def write (t : Table) : TableForm → Json
  | .records => .ofFields [("headers", .ofStrings t.headers), ("records", .array (t.rows.map .array))]
  | .rows => .ofFields [("headers", .ofStrings t.headers), ("rows", .array (t.rows.map .array))]
  | .arrays => .array t.asArrays
  | .rowsOfArrays => .ofFields [("rows", .array t.asArrays)]
  | .objects => .array t.asObjects
  | .rowsOfObjects => .ofFields [("rows", .array t.asObjects)]

/-! ## Columns in another order -/

/-- Rows below two header rows that hold the same under every name. -/
def SameCells (headers headers' : List String) (row row' : List Json) : Prop :=
  ∀ name i i', headers[i]? = some name → headers'[i']? = some name →
    cellOf row i = cellOf row' i'

/-- A table with its columns in another order. -/
structure Rearranged (t t' : Table) : Prop where
  headers : t.headers.Perm t'.headers
  rows : List.Forall₂ (SameCells t.headers t'.headers) t.rows t'.rows

theorem Rearranged.refl {t : Table} (h : t.headers.Nodup) : t.Rearranged t := by
  refine ⟨.refl _, List.forall₂_same.mpr fun row _ name i i' hi hi' => ?_⟩
  obtain ⟨hlt, -⟩ := List.getElem?_eq_some_iff.mp hi
  rw [(List.getElem?_inj hlt h).mp (hi.trans hi'.symm)]

theorem map_eq_map_of_forall₂ {α β γ : Type} {R : α → β → Prop} {f : α → γ} {g : β → γ}
    {as : List α} {bs : List β} (h : List.Forall₂ R as bs) (hR : ∀ a b, R a b → f a = g b) :
    as.map f = bs.map g := by
  rw [← List.forall₂_eq_eq_eq, List.forall₂_map_left_iff, List.forall₂_map_right_iff]
  exact h.imp hR

/-- Rows that hold the same are the same objects. -/
theorem rowObject_eq_of_sameCells {t t' : Table} {row row' : List Json}
    (hheaders : t.headers.Perm t'.headers) (h : SameCells t.headers t'.headers row row') :
    t.rowObject row = t'.rowObject row' := by
  rw [rowObject_eq, rowObject_eq]
  refine congrArg Json.object (Json.fields_ext (Json.isSorted_fieldsOf _)
    (Json.isSorted_fieldsOf _) fun name => ?_)
  by_cases hmem : name ∈ t.headers
  · obtain ⟨i, hi⟩ := exists_lastAt hmem
    obtain ⟨i', hi'⟩ := exists_lastAt (hheaders.mem_iff.mp hmem)
    calc
      _ = some (cellOf row i) := get?_rowObject hi row
      _ = some (cellOf row' i') := congrArg some (h name i i' hi.here hi'.here)
      _ = _ := (get?_rowObject hi' row').symm
  · have hmem' : name ∉ t'.headers := fun h' => hmem (hheaders.mem_iff.mpr h')
    rw [Json.field?_fieldsOf_of_not_mem (by rwa [map_fst_rowPairs]),
      Json.field?_fieldsOf_of_not_mem (by rwa [map_fst_rowPairs])]

theorem map_rowObject_eq {t t' : Table} {rows rows' : List (List Json)}
    (hheaders : t.headers.Perm t'.headers)
    (h : List.Forall₂ (SameCells t.headers t'.headers) rows rows') :
    rows.map t.rowObject = rows'.map t'.rowObject :=
  map_eq_map_of_forall₂ h fun _ _ hrow => rowObject_eq_of_sameCells hheaders hrow

/-- A column is found in both tables, with the same cells, or in neither. -/
theorem Rearranged.columnIndex {t t' : Table} (h : t.Rearranged t') (column : String) :
    (∃ i i', t.columnIndex column = .ok i ∧ t'.columnIndex column = .ok i' ∧
      t.headers[i]? = some column ∧ t'.headers[i']? = some column) ∨
    (t.columnIndex column = .error (.unknownColumn column t.headers) ∧
      t'.columnIndex column = .error (.unknownColumn column t'.headers)) := by
  by_cases hmem : column ∈ t.headers
  · obtain ⟨i, hi⟩ := exists_firstAt hmem
    obtain ⟨i', hi'⟩ := exists_firstAt (h.headers.mem_iff.mp hmem)
    exact .inl ⟨i, i', columnIndex_eq_ok_iff.mpr hi, columnIndex_eq_ok_iff.mpr hi', hi.here,
      hi'.here⟩
  · have hmem' : column ∉ t'.headers := fun h' => hmem (h.headers.mem_iff.mpr h')
    exact .inr ⟨columnIndex_eq_error hmem, columnIndex_eq_error hmem'⟩

/-! ## Selections do not see the order of columns -/

/-- The same value, or the same reason for none. -/
inductive SameSelection : Except SelectionError Json → Except SelectionError Json → Prop
  | value (v : Json) : SameSelection (.ok v) (.ok v)
  | failure {e e' : SelectionError} (h : e.Alike e') : SameSelection (.error e) (.error e')

/-- Whatever is made of the place of a column, if both places make the same. -/
theorem Rearranged.sameSelection {t t' : Table} (h : t.Rearranged t') (column : String)
    {f f' : Nat → Json}
    (hf : ∀ i i', t.headers[i]? = some column → t'.headers[i']? = some column → f i = f' i') :
    SameSelection (do return f (← t.columnIndex column))
      (do return f' (← t'.columnIndex column)) := by
  rcases h.columnIndex column with ⟨i, i', hindex, hindex', hi, hi'⟩ | ⟨hindex, hindex'⟩
  · rw [hindex, hindex']
    simp only [bind, Except.bind, pure, Except.pure, hf i i' hi hi']
    exact .value _
  · rw [hindex, hindex']
    exact .failure (.unknownColumn column h.headers)

theorem getElem?_of_forall₂ {α β : Type} {R : α → β → Prop} {as : List α} {bs : List β}
    (h : List.Forall₂ R as bs) (i : Nat) :
    (as[i]? = none ∧ bs[i]? = none) ∨ ∃ a b, as[i]? = some a ∧ bs[i]? = some b ∧ R a b := by
  induction h generalizing i with
  | nil => exact .inl ⟨rfl, rfl⟩
  | cons hab _ ih =>
      cases i with
      | zero => exact .inr ⟨_, _, rfl, rfl, hab⟩
      | succ i => exact ih i

theorem Rearranged.select {t t' : Table} (h : t.Rearranged t') (spec : Extraction) :
    SameSelection (t.select spec) (t'.select spec) := by
  unfold Table.select
  cases spec.row with
  | some index =>
      rcases getElem?_of_forall₂ h.rows index with ⟨hnone, hnone'⟩ | ⟨row, row', hrow, hrow', hcells⟩
      · simp only [hnone, hnone', h.rows.length_eq]
        exact .failure (.refl _)
      · simp only [hrow, hrow']
        cases spec.column with
        | some column => exact h.sameSelection column (hcells column)
        | none =>
            dsimp only
            rw [rowObject_eq_of_sameCells h.headers hcells]
            exact .value _
  | none =>
      cases spec.column with
      | some column =>
          exact h.sameSelection column fun i i' hi hi' => congrArg Json.array
            (map_eq_map_of_forall₂ h.rows fun row row' hrow => hrow column i i' hi hi')
      | none =>
          cases spec.filter with
          | some text =>
              dsimp only
              cases Filter.parse text with
              | error e => exact .failure (.refl e)
              | ok filter =>
                  -- The filter keeps the same rows: it looks at the cells of one name.
                  refine h.sameSelection filter.column fun i i' hi hi' => congrArg Json.array ?_
                  refine map_rowObject_eq h.headers (List.rel_filter (fun row row' hrow => ?_) h.rows)
                  dsimp only
                  rw [hrow filter.column i i' hi hi']
          | none =>
              dsimp only
              rw [map_rowObject_eq h.headers h.rows]
              exact .value _

/-! ## Loading what was written -/

theorem mapM_map_eq_ok {α β γ ε : Type} {f : β → Except ε γ} {g : α → β} {h : α → γ}
    (hf : ∀ a, f (g a) = .ok (h a)) (as : List α) : (as.map g).mapM f = .ok (as.map h) := by
  induction as with
  | nil => rfl
  | cons a as ih =>
      rw [List.map_cons, List.mapM_cons, hf, ih]
      rfl

theorem ofRecords_arrays (t : Table) :
    ofRecords (t.headers.map .string) (t.rows.map .array) = .ok t := by
  have hheaders : (t.headers.map Json.string).map Json.display = t.headers := by
    rw [List.map_map]
    exact List.map_id _
  have hrecord : ∀ values, record (.array values) = .ok (id values) := fun _ => rfl
  have hrows := mapM_map_eq_ok hrecord t.rows
  unfold ofRecords
  rw [hheaders, hrows, List.map_id]
  rfl

theorem addNames_cons (names : List String) (name : String) (value : Json)
    (rest : List (String × Json)) :
    addNames names ((name, value) :: rest) =
      addNames (if name ∈ names then names else names ++ [name]) rest :=
  rfl

/-- Different names that are all new are put at the end. -/
theorem addNames_of_new {names : List String} {fields : List (String × Json)}
    (hnodup : (fields.map Prod.fst).Nodup) (hnew : ∀ name ∈ fields.map Prod.fst, name ∉ names) :
    addNames names fields = names ++ fields.map Prod.fst := by
  induction fields generalizing names with
  | nil => exact (List.append_nil _).symm
  | cons field rest ih =>
      obtain ⟨name, value⟩ := field
      rw [List.map_cons, List.nodup_cons] at hnodup
      rw [List.map_cons, List.forall_mem_cons] at hnew
      have hrest : ∀ other ∈ rest.map Prod.fst, other ∉ names ++ [name] := by
        intro other hother hmem
        rcases List.mem_append.mp hmem with hmem | hmem
        · exact hnew.2 other hother hmem
        · exact hnodup.1 (List.mem_singleton.mp hmem ▸ hother)
      rw [addNames_cons, if_neg hnew.1, ih hnodup.2 hrest, List.map_cons, List.append_assoc]
      rfl

/-- Names that are all there change nothing. -/
theorem addNames_of_subset {names : List String} {fields : List (String × Json)}
    (h : ∀ name ∈ fields.map Prod.fst, name ∈ names) : addNames names fields = names := by
  induction fields with
  | nil => rfl
  | cons field rest ih =>
      rw [List.map_cons, List.forall_mem_cons] at h
      rw [addNames_cons, if_pos h.1, ih h.2]

theorem foldl_addNames_of_subset {names : List String} {rows : List (List (String × Json))}
    (h : ∀ fields ∈ rows, ∀ name ∈ fields.map Prod.fst, name ∈ names) :
    rows.foldl addNames names = names := by
  induction rows with
  | nil => rfl
  | cons fields rest ih =>
      rw [List.forall_mem_cons] at h
      rw [List.foldl_cons, addNames_of_subset h.1, ih h.2]

/-- The fields of a row of a table. -/
def rowFieldsOf (t : Table) (row : List Json) : List (String × Json) :=
  Json.fieldsOf (t.headers.zip row)

theorem map_fst_zip_headers {t : Table} (ht : t.IsRectangular) {row : List Json}
    (hrow : row ∈ t.rows) : (t.headers.zip row).map Prod.fst = t.headers :=
  List.map_fst_zip (ht.length_eq row hrow).ge

theorem mem_names_rowFieldsOf {t : Table} (ht : t.IsRectangular) {row : List Json}
    (hrow : row ∈ t.rows) {name : String} :
    name ∈ (t.rowFieldsOf row).map Prod.fst ↔ name ∈ t.headers := by
  rw [rowFieldsOf, Json.mem_names_fieldsOf, map_fst_zip_headers ht hrow]

/-- The field of a header is the cell below it. -/
theorem field?_rowFieldsOf {t : Table} (ht : t.IsRectangular) {row : List Json}
    (hrow : row ∈ t.rows) {name : String} {i : Nat} (hi : t.headers[i]? = some name) :
    (Json.field? name (t.rowFieldsOf row)).getD .null = cellOf row i := by
  obtain ⟨hlt, -⟩ := List.getElem?_eq_some_iff.mp hi
  rw [← ht.length_eq row hrow] at hlt
  have hcell : row[i]? = some row[i] := List.getElem?_eq_getElem hlt
  have hmem : (name, row[i]) ∈ t.headers.zip row :=
    List.mem_iff_getElem?.mpr ⟨i, List.getElem?_zip_eq_some.mpr ⟨hi, hcell⟩⟩
  have hnodup : ((t.headers.zip row).map Prod.fst).Nodup := by
    rw [map_fst_zip_headers ht hrow]
    exact ht.nodup
  rw [rowFieldsOf, Json.field?_fieldsOf_of_mem hnodup hmem, cellOf, hcell]

/-- The columns of the objects are those of the first row: every row has the
same fields. -/
theorem headers_perm_names {t : Table} (ht : t.IsRectangular) :
    t.headers.Perm ((t.rows.map t.rowFieldsOf).foldl addNames []) := by
  obtain ⟨first, rest, hrows⟩ := List.exists_cons_of_ne_nil ht.rows_ne_nil
  have hfirst : first ∈ t.rows := hrows ▸ List.mem_cons_self
  have hnodup : ((t.rowFieldsOf first).map Prod.fst).Nodup :=
    (Json.isSorted_fieldsOf _).nodup
  have hrest : ∀ fields ∈ rest.map t.rowFieldsOf, ∀ name ∈ fields.map Prod.fst,
      name ∈ (t.rowFieldsOf first).map Prod.fst :=
    List.forall_mem_map.mpr fun row hrow name hname => by
      have hrow : row ∈ t.rows := hrows ▸ List.mem_cons_of_mem first hrow
      exact (mem_names_rowFieldsOf ht hfirst).mpr ((mem_names_rowFieldsOf ht hrow).mp hname)
  have hnames : (t.rows.map t.rowFieldsOf).foldl addNames [] =
      (t.rowFieldsOf first).map Prod.fst := by
    rw [hrows, List.map_cons, List.foldl_cons,
      addNames_of_new hnodup fun _ _ => List.not_mem_nil, List.nil_append,
      foldl_addNames_of_subset hrest]
  rw [hnames]
  exact (List.perm_ext_iff_of_nodup ht.nodup hnodup).mpr fun name =>
    (mem_names_rowFieldsOf ht hfirst).symm

theorem ofObjects_asObjects {t : Table} (ht : t.IsRectangular) :
    ∃ t', ofObjects t.asObjects = .ok t' ∧ t.Rearranged t' := by
  have hfields : ∀ row, rowFields (.ofFields (t.headers.zip row)) = .ok (t.rowFieldsOf row) :=
    fun _ => rfl
  let headers := (t.rows.map t.rowFieldsOf).foldl addNames []
  refine ⟨⟨headers, (t.rows.map t.rowFieldsOf).map fun fields =>
    headers.map fun name => (Json.field? name fields).getD .null⟩, ?_, headers_perm_names ht, ?_⟩
  · unfold ofObjects asObjects
    rw [mapM_map_eq_ok hfields t.rows]
    rfl
  · rw [List.forall₂_map_right_iff, List.forall₂_map_right_iff, List.forall₂_same]
    intro row hrow name i i' hi hi'
    rw [← field?_rowFieldsOf ht hrow hi, cellOf, List.getElem?_map, hi']
    rfl

/-- Whatever a table is written as loads, up to the order of the columns. -/
theorem load_write {t : Table} (ht : t.IsRectangular) (form : TableForm)
    (delimiter : Option Char) :
    ∃ t', load (t.write form) delimiter = .ok t' ∧ t.Rearranged t' := by
  have hrecords : ∃ t', ofRecords (t.headers.map .string) (t.rows.map .array) = .ok t' ∧
      t.Rearranged t' := ⟨t, ofRecords_arrays t, .refl ht.nodup⟩
  have hobjects : ∃ t', ofItems t.asObjects = .ok t' ∧ t.Rearranged t' := by
    obtain ⟨first, rest, hrows⟩ := List.exists_cons_of_ne_nil ht.rows_ne_nil
    have hitems : ofItems t.asObjects = ofObjects t.asObjects := by
      rw [asObjects, hrows]
      rfl
    rw [hitems]
    exact ofObjects_asObjects ht
  cases form with
  | records => exact hrecords
  | rows => exact hrecords
  | arrays => exact hrecords
  | rowsOfArrays => exact hrecords
  | objects => exact hobjects
  | rowsOfObjects => exact hobjects

/-- **One table in several forms.** All forms of a rectangular table give the
value that is selected from the table itself, or all fail for the reason why
there is none, with the headers listed in any order. -/
theorem fromTable_write {t : Table} (ht : t.IsRectangular) (spec : Extraction) :
    (∃ value, t.select spec = .ok value ∧
      ∀ form, spec.fromTable (t.write form) = .ok value) ∨
    ∃ e, t.select spec = .error e ∧
      ∀ form, ∃ e', spec.fromTable (t.write form) = .error (.selection e') ∧ e.Alike e' := by
  have hforms : ∀ form, ∃ selected, spec.fromTable (t.write form) =
      selected.mapError .selection ∧ SameSelection (t.select spec) selected := fun form => by
    obtain ⟨t', hload, ht'⟩ := load_write ht form spec.delimiter
    exact ⟨t'.select spec, spec.fromTable_of_load hload, ht'.select spec⟩
  cases hselect : t.select spec with
  | ok value =>
      refine .inl ⟨value, rfl, fun form => ?_⟩
      obtain ⟨selected, hform, hsame⟩ := hforms form
      rw [hselect] at hsame
      cases hsame
      exact hform
  | error e =>
      refine .inr ⟨e, rfl, fun form => ?_⟩
      obtain ⟨selected, hform, hsame⟩ := hforms form
      rw [hselect] at hsame
      cases hsame with
      | failure he => exact ⟨_, hform, he⟩

/-- A table whose headers are not sorted. -/
def roster : Table :=
  ⟨["name", "age"], [[.string "ada", .ofNat 36], [.string "bob", .ofNat 7]]⟩

/-- The filter keeps the same row in every form. -/
theorem fromTable_write_roster :
    roster.IsRectangular ∧ ∀ form,
      { kind := .csv, filter := some "age == 36" : Extraction }.fromTable (roster.write form) =
        .ok (.array [.ofFields [("name", .string "ada"), ("age", .ofNat 36)]]) := by
  have hroster : roster.IsRectangular := ⟨by decide, by simp [roster], by simp [roster]⟩
  have hselect : roster.select { kind := .csv, filter := some "age == 36" } =
      .ok (.array [.ofFields [("name", .string "ada"), ("age", .ofNat 36)]]) := by
    have hparse : Filter.parse "age == 36" = .ok ⟨"age", .equal, "36"⟩ := by decide +kernel
    have hindex : roster.columnIndex "age" = .ok 1 := by rfl
    have hada : Filter.accepts ⟨"age", .equal, "36"⟩ (.ofNat 36) = true := by decide +kernel
    have hbob : Filter.accepts ⟨"age", .equal, "36"⟩ (.ofNat 7) = false := by decide +kernel
    have hkept : roster.rows.filter (fun row =>
        Filter.accepts ⟨"age", .equal, "36"⟩ (cellOf row 1)) = [[.string "ada", .ofNat 36]] := by
      simp [roster, cellOf, hada, hbob]
    simp only [select, hparse, bind, Except.bind, hindex, hkept]
    rfl
  refine ⟨hroster, fun form => ?_⟩
  rcases fromTable_write hroster { kind := .csv, filter := some "age == 36" } with
    ⟨value, hvalue, hforms⟩ | ⟨e, he, -⟩
  · obtain rfl := Except.ok.inj (hvalue.symm.trans hselect)
    exact hforms form
  · rw [hselect] at he
    cases he

end Table

end Scenario
