import Scenario.Extract
import Scenario.Proofs.Fields

/-!
# Four selections of one cell

A cell of a table is selected by itself, in its column, in its row, and in the
table as a whole. The first two look for the column among the headers and take
the first that has the name (`Table.columnIndex_eq_ok_iff`). The others make an
object of the row, and of two columns with one name the last is the field
(`Table.get?_rowObject`).

So the selections agree exactly if the first and the last column of the name
hold the same in that row (`Extraction.selections_agree_iff`), in particular if the
headers are different from each other.
-/

namespace Scenario

namespace Table

/-! ## Columns by name -/

/-- The first header with a name stands at a place. -/
structure FirstAt (headers : List String) (name : String) (i : Nat) : Prop where
  here : headers[i]? = some name
  not_before : ∀ k < i, headers[k]? ≠ some name

/-- The last header with a name stands at a place. -/
structure LastAt (headers : List String) (name : String) (i : Nat) : Prop where
  here : headers[i]? = some name
  not_after : ∀ k, i < k → headers[k]? ≠ some name

theorem findIdx?_eq_some_iff {headers : List String} {name : String} {i : Nat} :
    headers.findIdx? (· == name) = some i ↔ FirstAt headers name i := by
  rw [List.findIdx?_eq_some_iff_getElem]
  constructor
  · rintro ⟨hlt, hhere, hbefore⟩
    refine ⟨?_, fun k hk hname => hbefore k hk ?_⟩
    · rw [List.getElem?_eq_getElem hlt, eq_of_beq hhere]
    · rw [beq_iff_eq, List.getElem_eq_iff]
      exact hname
  · rintro ⟨hhere, hbefore⟩
    obtain ⟨hlt, hname⟩ := List.getElem?_eq_some_iff.mp hhere
    refine ⟨hlt, beq_iff_eq.mpr hname, fun k hk hname => hbefore k hk ?_⟩
    rw [List.getElem?_eq_getElem (hk.trans hlt), eq_of_beq hname]

theorem exists_firstAt {headers : List String} {name : String} (h : name ∈ headers) :
    ∃ i, FirstAt headers name i := by
  cases hindex : headers.findIdx? (· == name) with
  | some i => exact ⟨i, findIdx?_eq_some_iff.mp hindex⟩
  | none =>
      rw [List.findIdx?_eq_none_iff] at hindex
      exact absurd (hindex name h) (by simp)

/-- After the last header with a name the name does not occur. -/
theorem lastAt_iff {headers : List String} {name : String} {i : Nat} :
    LastAt headers name i ↔
      ∃ before after, headers = before ++ name :: after ∧ before.length = i ∧ name ∉ after := by
  constructor
  · rintro ⟨hhere, hafter⟩
    obtain ⟨hlt, hname⟩ := List.getElem?_eq_some_iff.mp hhere
    refine ⟨headers.take i, headers.drop (i + 1), ?_, List.length_take_of_le hlt.le, ?_⟩
    · rw [← hname, ← List.drop_eq_getElem_cons hlt, List.take_append_drop]
    · rw [List.mem_iff_getElem?]
      rintro ⟨k, hk⟩
      rw [List.getElem?_drop] at hk
      exact hafter (i + 1 + k) (by omega) hk
  · rintro ⟨before, after, rfl, rfl, hafter⟩
    refine ⟨by simp, fun k hk hname => hafter ?_⟩
    obtain ⟨later, rfl⟩ := Nat.exists_eq_add_of_lt hk
    rw [List.getElem?_append_right (by omega)] at hname
    have hlater : before.length + later + 1 - before.length = later + 1 := by omega
    rw [hlater, List.getElem?_cons_succ] at hname
    exact List.mem_of_getElem? hname

theorem exists_lastAt {headers : List String} {name : String} (h : name ∈ headers) :
    ∃ i, LastAt headers name i := by
  obtain ⟨after, before, hsplit, hafter⟩ :=
    List.eq_append_cons_of_mem (List.mem_reverse.mpr h)
  refine ⟨_, lastAt_iff.mpr ⟨before.reverse, after.reverse, ?_, rfl, by simpa using hafter⟩⟩
  rw [← List.reverse_reverse headers, hsplit]
  simp

theorem columnIndex_eq_ok_iff {t : Table} {column : String} {i : Nat} :
    t.columnIndex column = .ok i ↔ FirstAt t.headers column i := by
  rw [← findIdx?_eq_some_iff]
  unfold columnIndex
  cases t.headers.findIdx? (· == column) <;> simp

theorem columnIndex_eq_error {t : Table} {column : String} (h : column ∉ t.headers) :
    t.columnIndex column = .error (.unknownColumn column t.headers) := by
  have hnone : t.headers.findIdx? (· == column) = none :=
    List.findIdx?_eq_none_iff.mpr fun header hheader =>
      beq_eq_false_iff_ne.mpr (ne_of_mem_of_not_mem hheader h)
  unfold columnIndex
  rw [hnone]

/-! ## Rows as objects -/

/-- The pairs that a row becomes an object by. -/
def rowPairs (t : Table) (row : List Json) : List (String × Json) :=
  t.headers.zipIdx.map fun (header, i) => (header, cellOf row i)

theorem rowObject_eq (t : Table) (row : List Json) :
    t.rowObject row = .object (Json.fieldsOf (t.rowPairs row)) :=
  rfl

theorem map_fst_rowPairs (t : Table) (row : List Json) :
    (t.rowPairs row).map Prod.fst = t.headers := by
  rw [rowPairs, List.map_map]
  exact List.zipIdx_map_fst 0 t.headers

/-- The field of a row is its value in the last column of the name. -/
theorem get?_rowObject {t : Table} {name : String} {i : Nat} (h : LastAt t.headers name i)
    (row : List Json) : (t.rowObject row).get? name = some (cellOf row i) := by
  obtain ⟨before, after, hheaders, rfl, hafter⟩ := lastAt_iff.mp h
  have hnames : ∀ k, ((after.zipIdx k).map fun (header, i) => (header, cellOf row i)).map
      Prod.fst = after := fun k => by
    rw [List.map_map]
    exact List.zipIdx_map_fst k after
  rw [rowObject_eq, Json.get?, rowPairs, hheaders, List.zipIdx_append, List.zipIdx_cons,
    List.map_append, List.map_cons, Nat.zero_add]
  exact Json.field?_fieldsOf_of_last (by rwa [hnames])

end Table

namespace Extraction

open Table

theorem fromTable_of_load (spec : Extraction) {data : Json} {t : Table}
    (h : Table.load data spec.delimiter = .ok t) :
    spec.fromTable data = (t.select spec).mapError .selection := by
  unfold fromTable
  rw [h]
  dsimp only
  cases t.select spec <;> rfl

/-- What is selected of one column in one row: `cell` by itself and in its
column, `field` in its row and in the whole table. -/
structure Shows (spec : Extraction) (data : Json) (index : Nat) (column : String)
    (cell field : Json) : Prop where
  by_itself : { spec with row := some index, column := some column }.fromTable data = .ok cell
  in_row : ∃ object,
    { spec with row := some index, column := none }.fromTable data = .ok object ∧
      object.get? column = some field
  in_column : ∃ cells,
    { spec with row := none, column := some column }.fromTable data = .ok (.array cells) ∧
      cells[index]? = some cell
  in_table : ∃ objects object,
    { spec with row := none, column := none, filter := none }.fromTable data =
        .ok (.array objects) ∧
      objects[index]? = some object ∧ object.get? column = some field

theorem shows_of_load {spec : Extraction} {data : Json} {t : Table} {index : Nat}
    {row : List Json} {column : String} {first last : Nat}
    (hload : Table.load data spec.delimiter = .ok t) (hrow : t.rows[index]? = some row)
    (hfirst : FirstAt t.headers column first) (hlast : LastAt t.headers column last) :
    spec.Shows data index column (cellOf row first) (cellOf row last) := by
  have hcolumn := columnIndex_eq_ok_iff.mpr hfirst
  have hfield := get?_rowObject hlast row
  refine ⟨?_, ⟨t.rowObject row, ?_, hfield⟩,
    ⟨t.rows.map fun row => cellOf row first, ?_, by rw [List.getElem?_map, hrow]; rfl⟩,
    ⟨t.rows.map t.rowObject, t.rowObject row, ?_, by rw [List.getElem?_map, hrow]; rfl, hfield⟩⟩
  · rw [fromTable_of_load { spec with row := some index, column := some column } hload]
    simp only [select, hrow, hcolumn]
    rfl
  · rw [fromTable_of_load { spec with row := some index, column := none } hload]
    simp only [select, hrow]
    rfl
  · rw [fromTable_of_load { spec with row := none, column := some column } hload]
    simp only [select, hcolumn]
    rfl
  · rw [fromTable_of_load { spec with row := none, column := none, filter := none } hload]
    rfl

/-- The selections determine both values. -/
theorem Shows.unique {spec : Extraction} {data : Json} {index : Nat} {column : String}
    {cell cell' field field' : Json} (h : spec.Shows data index column cell field)
    (h' : spec.Shows data index column cell' field') : cell = cell' ∧ field = field' := by
  obtain ⟨object, hobject, hfield⟩ := h.in_row
  obtain ⟨object', hobject', hfield'⟩ := h'.in_row
  obtain rfl : object = object' := Except.ok.inj (hobject.symm.trans hobject')
  exact ⟨Except.ok.inj (h.by_itself.symm.trans h'.by_itself),
    Option.some.inj (hfield.symm.trans hfield')⟩

/-- **Four selections of one cell.** By itself and in its column a cell is the
one below the first header of the name, in its row and in the table it is the
one below the last. All four selections agree exactly if these hold the same, as
they do if no two headers are equal. -/
theorem selections_agree_iff (spec : Extraction) {data : Json} {t : Table} {index : Nat}
    {column : String} (hload : Table.load data spec.delimiter = .ok t)
    (hindex : index < t.rows.length) (hcolumn : column ∈ t.headers) :
    ∃ row first last, t.rows[index]? = some row ∧ FirstAt t.headers column first ∧
      LastAt t.headers column last ∧
      spec.Shows data index column (cellOf row first) (cellOf row last) ∧
      ((∃ value, spec.Shows data index column value value) ↔
        cellOf row first = cellOf row last) ∧
      (t.headers.Nodup → first = last) := by
  have hrow : t.rows[index]? = some t.rows[index] := List.getElem?_eq_getElem hindex
  obtain ⟨first, hfirst⟩ := exists_firstAt hcolumn
  obtain ⟨last, hlast⟩ := exists_lastAt hcolumn
  have hshows := shows_of_load hload hrow hfirst hlast
  refine ⟨t.rows[index], first, last, hrow, hfirst, hlast, hshows, ⟨?_, fun heq => ?_⟩,
    fun hnodup => ?_⟩
  · rintro ⟨value, hvalue⟩
    obtain ⟨hcell, hfield⟩ := hshows.unique hvalue
    rw [hcell, hfield]
  · rw [← heq] at hshows
    exact ⟨_, hshows⟩
  · obtain ⟨hlt, -⟩ := List.getElem?_eq_some_iff.mp hfirst.here
    exact (List.getElem?_inj hlt hnodup).mp (hfirst.here.trans hlast.here.symm)

/-- A table with a row that is too short and one that is too long. -/
def members : Json :=
  .ofFields [("headers", .ofStrings ["name", "age"]),
    ("records", .array [.array [.string "ada", .ofNat 36, .bool true], .array [.string "bob"]])]

/-- All four selections show the missing cell as null. -/
theorem selections_agree_iff_members :
    (Table.load members none =
        .ok ⟨["name", "age"], [[.string "ada", .ofNat 36, .bool true], [.string "bob"]]⟩ ∧
      1 < 2 ∧ "age" ∈ ["name", "age"]) ∧
    ∃ value, { kind := .csv : Extraction }.Shows members 1 "age" value value := by
  have hload : Table.load members none =
      .ok ⟨["name", "age"], [[.string "ada", .ofNat 36, .bool true], [.string "bob"]]⟩ := by rfl
  have hindex : 1 < 2 := by decide
  have hcolumn : "age" ∈ ["name", "age"] := by decide
  obtain ⟨row, first, last, -, -, -, -, hagree, hsame⟩ :=
    selections_agree_iff { kind := .csv } hload hindex hcolumn
  exact ⟨⟨hload, hindex, hcolumn⟩, hagree.mpr (by rw [hsame (by decide)])⟩

/-- A table with one header twice. -/
def twins : Json :=
  .ofFields [("headers", .ofStrings ["a", "a"]),
    ("rows", .array [.array [.ofNat 1, .ofNat 2]])]

/-- The cell is the first of the two and the field of its row is the second;
a filter looks at the first and keeps a row that does not show it. -/
theorem twins_disagree :
    Table.load twins none = .ok ⟨["a", "a"], [[.ofNat 1, .ofNat 2]]⟩ ∧
      { kind := .csv : Extraction }.Shows twins 0 "a" (.ofNat 1) (.ofNat 2) ∧
      (¬∃ value, { kind := .csv : Extraction }.Shows twins 0 "a" value value) ∧
      { kind := .csv, filter := some "a == 1" : Extraction }.fromTable twins =
        .ok (.array [.ofFields [("a", .ofNat 2)]]) := by
  have hload : Table.load twins none = .ok ⟨["a", "a"], [[.ofNat 1, .ofNat 2]]⟩ := by rfl
  have hshows : { kind := .csv : Extraction }.Shows twins 0 "a" (.ofNat 1) (.ofNat 2) :=
    ⟨by rfl, ⟨_, by rfl, by rfl⟩, ⟨_, by rfl, by rfl⟩, ⟨_, _, by rfl, by rfl, by rfl⟩⟩
  have hparse : Filter.parse "a == 1" = .ok ⟨"a", .equal, "1"⟩ := by decide +kernel
  have haccepts : Filter.accepts ⟨"a", .equal, "1"⟩ (.ofNat 1) = true := by decide +kernel
  have hkept : [[.ofNat 1, .ofNat 2]].filter (fun row =>
      Filter.accepts ⟨"a", .equal, "1"⟩ (cellOf row 0)) = [[.ofNat 1, .ofNat 2]] :=
    List.filter_eq_self.mpr (List.forall_mem_singleton.mpr haccepts)
  refine ⟨hload, hshows, ?_, ?_⟩
  · rintro ⟨value, hvalue⟩
    obtain ⟨hcell, hfield⟩ := hshows.unique hvalue
    rw [← hfield] at hcell
    simp [Json.ofNat] at hcell
  · rw [fromTable_of_load { kind := .csv, filter := some "a == 1" } hload]
    have hcolumn : Table.columnIndex ⟨["a", "a"], [[.ofNat 1, .ofNat 2]]⟩ "a" = .ok 0 := by rfl
    simp only [select, hparse, bind, Except.bind, hcolumn, hkept]
    rfl

end Extraction

end Scenario
