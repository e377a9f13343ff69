import Mathlib.Data.List.Perm.Basic
import Scenario.Proofs.Operand
import Scenario.Proofs.Selection

/-!
# Filters that say the opposite

The comparisons fall into three pairs of which exactly one holds, whatever the
operands are (`Filter.accepts_of_complements`). That is so by the cases of the
comparison and not by arithmetic: what is not a number is equal to nothing, but
in the order it is equal to everything, and a cell that is missing is compared
as the text `null`.

A filter is read at the sign between column and value if neither of them has a
sign, words aside, since all signs are looked for before the words
(`Filter.parse_comparison`). With an empty value the text ends at the sign. So
two filters with opposite signs are both read, and every row is kept by one of
them (`Extraction.filters_partition`).
-/

namespace Scenario

open Scenario.Text

/-- No comparison sign is spelled in a text. -/
def HasNoSign (text : List Char) : Prop :=
  ∀ op : Operator, op.isWord = false → ¬op.symbol.toList <:+: text

instance (text : List Char) : Decidable (HasNoSign text) :=
  decidable_of_iff
    (∀ op ∈ Operator.scanOrder, op.isWord = false → occursIn op.symbol.toList text = false)
    ⟨fun h op hop => occursIn_eq_false_iff.mp (h op (by cases op <;> decide) hop),
      fun h op _ hop => occursIn_eq_false_iff.mpr (h op hop)⟩

namespace Operator

/-- Operators of which exactly one holds. -/
inductive Complements : Operator → Operator → Prop
  | equality : Complements .equal .notEqual
  | least : Complements .atLeast .below
  | most : Complements .atMost .above

theorem Complements.isWord {op op' : Operator} (h : op.Complements op') :
    op.isWord = false ∧ op'.isWord = false := by
  cases h <;> exact ⟨rfl, rfl⟩

theorem Complements.apply_eq {op op' : Operator} (h : op.Complements op') (left right : String) :
    op'.apply left right = !op.apply left right := by
  cases h with
  | equality => simp [apply, bne]
  | least =>
      unfold apply
      cases order left right <;> rfl
  | most =>
      unfold apply
      cases order left right <;> rfl

/-! ## Signs between texts without signs -/

/-- Before a sign only signs are looked for. -/
theorem isWord_of_mem_earlier {op other : Operator} (hop : op.isWord = false)
    (hother : other ∈ op.earlier ++ [op]) : other.isWord = false := by
  have hsigns : ∀ other ∈ op.earlier ++ [op], other.isWord = false := by
    revert hop
    cases op <;> decide
  exact hsigns other hother

theorem mark_of_sign {op : Operator} (hop : op.isWord = false) : op.mark = op.symbol.toList := by
  rw [mark, hop, if_neg Bool.false_ne_true]

theorem margin_of_sign {op : Operator} (hop : op.isWord = false) : op.margin = [' '] := by
  rw [margin, hop, if_neg Bool.false_ne_true]

theorem governs_of_noSign {op : Operator} (hop : op.isWord = false) {left right : List Char}
    (hleft : HasNoSign left) (hright : HasNoSign right) : op.Governs left right := by
  constructor
  · intro other hother hinfix
    have hsign := isWord_of_mem_earlier hop hother
    rw [mark_of_sign hsign] at hinfix
    exact hleft other hsign (infix_of_infix_concat other.blank_not_mem_symbol hinfix)
  · intro other hother hinfix
    have hsign := isWord_of_mem_earlier hop (List.mem_append_left _ hother)
    rw [mark_of_sign hsign] at hinfix
    exact hright other hsign (infix_of_infix_cons other.blank_not_mem_symbol hinfix)

/-- Trimming takes at most what stands behind the symbol. -/
theorem trim_written (op : Operator) {left right : List Char} (hleft : trim left = left)
    (hne : left ≠ []) (hright : trim right = right) :
    ∃ rest, trim (op.written left right) = left ++ ' ' :: (op.symbol.toList ++ rest) ∧
      trim rest = right := by
  have hblank : isBlank ' ' = true := by decide
  have hsymbol : trim op.symbol.toList = op.symbol.toList := by cases op <;> decide
  have hsymbolNe : op.symbol.toList ≠ [] := by cases op <;> decide
  by_cases hempty : right = []
  · subst hempty
    have hstart : trim (left ++ [' '] ++ op.symbol.toList) = left ++ [' '] ++ op.symbol.toList :=
      trim_append_append hleft hne hsymbol hsymbolNe [' ']
    have hstartNe : left ++ [' '] ++ op.symbol.toList ≠ [] := by simp
    refine ⟨[], ?_, rfl⟩
    calc trim (op.written left [])
        = trim (left ++ [' '] ++ op.symbol.toList ++ [' ']) := by simp [written]
      _ = left ++ [' '] ++ op.symbol.toList := trim_concat_of_blank hblank hstart hstartNe
      _ = _ := by simp
  · refine ⟨' ' :: right, ?_, by rw [trim_cons_of_blank hblank, hright]⟩
    have hends := trim_append_append hleft hne hright hempty (' ' :: (op.symbol.toList ++ [' ']))
    simpa [written] using hends

theorem split?_trim_written {op : Operator} (hop : op.isWord = false) {left right : List Char}
    (hleft : trim left = left) (hne : left ≠ []) (hright : trim right = right)
    (h : op.Governs left right) :
    ∃ rest, split? (trim (op.written left right)) = some (op, left ++ [' '], rest) ∧
      trim rest = right := by
  obtain ⟨rest, htrim, hrest⟩ := op.trim_written hleft hne hright
  obtain ⟨hearlier, hsplit⟩ := split?_eq_some_iff.mp (split?_written_iff.mpr h)
  obtain ⟨-, hfirst⟩ := (splitFirst?_eq_some_iff op.mark_ne_nil).mp hsplit
  rw [margin_of_sign hop] at hfirst
  refine ⟨rest, split?_eq_some_iff.mpr ⟨fun other hother hinfix => ?_, ?_⟩, hrest⟩
  -- a sign that is not in the text is not in what trimming leaves of it
  · exact hearlier other hother <| List.IsInfix.trans hinfix <| trim_infix _
  · refine (splitFirst?_eq_some_iff op.mark_ne_nil).mpr ⟨?_, hfirst⟩
    rw [htrim, mark_of_sign hop]
    simp

end Operator

namespace Filter

/-- A text that a filter can have on either side of its sign. -/
structure IsPart (text : String) : Prop where
  trimmed_eq : trimmed text = text
  no_sign : HasNoSign text.toList

/-- A value without the quotes at its ends. -/
def bare (value : String) : String :=
  String.ofList (trimWhere (fun c => c == '"' || c == '\'') value.toList)

theorem parse_comparison {op : Operator} (hop : op.isWord = false) {column value : String}
    (hcolumn : IsPart column) (hne : column ≠ "") (hvalue : IsPart value) :
    parse (Condition.comparison column op value) = .ok ⟨column, op, bare value⟩ := by
  have hblank : isBlank ' ' = true := by decide
  have hnil : column.toList ≠ [] := fun hnil => hne (String.toList_inj.mp hnil)
  have hleft := trim_toList_of_trimmed hcolumn.trimmed_eq
  have hright := trim_toList_of_trimmed hvalue.trimmed_eq
  have hgoverns := Operator.governs_of_noSign hop hcolumn.no_sign hvalue.no_sign
  obtain ⟨rest, hsplit, hrest⟩ := Operator.split?_trim_written hop hleft hnil hright hgoverns
  have hname : trim (column.toList ++ [' ']) = column.toList :=
    trim_concat_of_blank hblank hleft hnil
  unfold parse
  rw [Condition.comparison_eq, String.toList_ofList, hsplit]
  dsimp only
  rw [hname, hrest, if_neg (by simpa using hnil), String.ofList_toList]
  rfl

theorem accepts_of_complements {op op' : Operator} (h : op.Complements op')
    (column value : String) (cell : Json) :
    accepts ⟨column, op', value⟩ cell = !accepts ⟨column, op, value⟩ cell := by
  have happly := h.apply_eq cell.display value
  unfold accepts
  dsimp only
  cases Double.read? cell.display.toList with
  | none => exact happly
  | some x =>
      cases Double.read? value.toList with
      | none => exact happly
      | some y =>
          -- of two numbers only equality is asked apart from the texts
          cases h with
          | equality => rfl
          | least => exact happly
          | most => exact happly

end Filter

namespace Table

/-! ## The rows that are kept -/

/-- The places of the rows whose cell in a column satisfies a filter. -/
def keptBy (t : Table) (f : Filter) (place : Nat) : List Nat :=
  (List.range t.rows.length).filter fun i => f.accepts (cellOf (t.rows.getD i []) place)

/-- The objects of the rows at some places. -/
def objectsAt (t : Table) (places : List Nat) : Json :=
  .array (places.map fun i => t.rowObject (t.rows.getD i []))

theorem keptBy_pairwise (t : Table) (f : Filter) (place : Nat) :
    (t.keptBy f place).Pairwise (· < ·) :=
  List.pairwise_lt_range.filter _

theorem keptBy_perm_of_complements {op op' : Operator} (h : op.Complements op') (t : Table)
    (column value : String) (place : Nat) :
    (t.keptBy ⟨column, op, value⟩ place ++ t.keptBy ⟨column, op', value⟩ place).Perm
      (List.range t.rows.length) := by
  unfold keptBy
  simp only [Filter.accepts_of_complements h]
  exact List.filter_append_perm _ _

theorem map_range_rows (t : Table) :
    (List.range t.rows.length).map (fun i => t.rows.getD i []) = t.rows := by
  refine List.ext_getElem (by simp) fun i _ hi => ?_
  simp [List.getD_eq_getElem?_getD, hi]

end Table

namespace Extraction

open Table

theorem fromTable_filter {spec : Extraction} {data : Json} {t : Table} {text : String}
    {f : Filter} {place : Nat} (hload : Table.load data spec.delimiter = .ok t)
    (hparse : Filter.parse text = .ok f) (hplace : FirstAt t.headers f.column place) :
    { spec with row := none, column := none, filter := some text }.fromTable data =
      .ok (t.objectsAt (t.keptBy f place)) := by
  have hindex := columnIndex_eq_ok_iff.mpr hplace
  have hrows : (t.rows.filter fun row => f.accepts (cellOf row place)).map t.rowObject =
      (t.keptBy f place).map fun i => t.rowObject (t.rows.getD i []) := by
    rw [← t.map_range_rows, List.filter_map, List.map_map, t.map_range_rows]
    rfl
  rw [fromTable_of_load { spec with row := none, column := none, filter := some text } hload]
  simp only [select, hparse, bind, Except.bind, hindex, hrows]
  rfl

/-- **Filters that say the opposite.** Two filters that differ in opposite
signs are both read, each gives its rows in the order of the table, and every
row of the table is in exactly one of them. -/
theorem filters_partition (spec : Extraction) {data : Json} {t : Table} {column value : String}
    {op op' : Operator} (hload : Table.load data spec.delimiter = .ok t)
    (hheader : column ∈ t.headers) (hcolumn : Filter.IsPart column) (hne : column ≠ "")
    (hvalue : Filter.IsPart value) (h : op.Complements op') :
    let filtered (o : Operator) : Extraction :=
      { spec with
        row := none, column := none, filter := some (Condition.comparison column o value) }
    ∃ place, FirstAt t.headers column place ∧
      let kept (o : Operator) := t.keptBy ⟨column, o, Filter.bare value⟩ place
      (∀ o ∈ [op, op'], (filtered o).fromTable data = .ok (t.objectsAt (kept o)) ∧
        (kept o).Pairwise (· < ·)) ∧
      (kept op ++ kept op').Perm (List.range t.rows.length) := by
  intro filtered
  obtain ⟨place, hplace⟩ := exists_firstAt hheader
  refine ⟨place, hplace, fun o ho => ⟨?_, keptBy_pairwise t _ place⟩,
    keptBy_perm_of_complements h t column (Filter.bare value) place⟩
  have hsign : o.isWord = false := by
    rcases List.mem_pair.mp ho with rfl | rfl
    · exact h.isWord.1
    · exact h.isWord.2
  exact fromTable_filter hload (Filter.parse_comparison hsign hcolumn hne hvalue) hplace

/-- Sizes as numbers, as numeric texts, as what is no number, and a missing
one; the header is one of the words that are operators elsewhere. -/
def sizes : Json :=
  .ofFields [("headers", .ofStrings ["name", "contains"]),
    ("records", .array [.array [.string "a", .string "1e1"], .array [.string "b"],
      .array [.string "c", .string "NaN"], .array [.string "d", .ofInt (-3)]])]

/-- What is no number counts as large enough, the text `null` does too, and
the negative number is the only one on the other side. -/
theorem filters_partition_sizes :
    (∃ rows, Table.load sizes none = .ok ⟨["name", "contains"], rows⟩ ∧ rows.length = 4) ∧
      (Filter.IsPart "contains" ∧ Filter.IsPart "'10'") ∧
      Operator.atLeast.Complements .below ∧
      { kind := .csv, filter := some "contains >= '10'" : Extraction }.fromTable sizes =
        .ok (.array [.ofFields [("name", .string "a"), ("contains", .string "1e1")],
          .ofFields [("name", .string "b"), ("contains", .null)],
          .ofFields [("name", .string "c"), ("contains", .string "NaN")]]) ∧
      { kind := .csv, filter := some "contains < '10'" : Extraction }.fromTable sizes =
        .ok (.array [.ofFields [("name", .string "d"), ("contains", .ofInt (-3))]]) := by
  let t : Table := ⟨["name", "contains"], [[.string "a", .string "1e1"], [.string "b"],
    [.string "c", .string "NaN"], [.string "d", .ofInt (-3)]]⟩
  have hload : Table.load sizes none = .ok t := by rfl
  have hcolumn : Filter.IsPart "contains" := ⟨by decide +kernel, by decide +kernel⟩
  have hvalue : Filter.IsPart "'10'" := ⟨by decide +kernel, by decide +kernel⟩
  have hheader : "contains" ∈ t.headers := by decide
  obtain ⟨place, hplace, hkept, -⟩ := filters_partition { kind := .csv } hload hheader hcolumn
    (by decide) hvalue .least
  obtain rfl : place = 1 := by
    have hindex : t.columnIndex "contains" = .ok 1 := by rfl
    exact Except.ok.inj ((columnIndex_eq_ok_iff.mpr hplace).symm.trans hindex)
  have hlarge : t.keptBy ⟨"contains", .atLeast, Filter.bare "'10'"⟩ 1 = [0, 1, 2] := by
    decide +kernel
  have hsmall : t.keptBy ⟨"contains", .below, Filter.bare "'10'"⟩ 1 = [3] := by
    decide +kernel
  refine ⟨⟨t.rows, hload, rfl⟩, ⟨hcolumn, hvalue⟩, .least, ?_, ?_⟩
  · have hresult := (hkept .atLeast (by simp)).1
    dsimp only at hresult
    rw [hlarge] at hresult
    exact hresult
  · have hresult := (hkept .below (by simp)).1
    dsimp only at hresult
    rw [hsmall] at hresult
    exact hresult

end Extraction

end Scenario
