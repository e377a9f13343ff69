import Mathlib.Data.String.Basic
import Scenario.Json.Basic
import Scenario.OrderedMap

/-!
# Objects and their fields

Fields that are set one after another end up sorted by name, whatever the
order (`Json.isSorted_fieldsOf`), and of a name that is set more than once the
last value is there (`Json.field?_fieldsOf_of_last`).

Sorted fields are determined by what they give to each name
(`Json.fields_ext`). So two objects that are put together in different orders
are equal as soon as the same can be read from them, and pairs with different
names may come in any order.
-/

namespace Scenario.Json

/-- The fields that are there after setting pairs one after another. -/
def fieldsOf (pairs : List (String × Json)) : List (String × Json) :=
  pairs.foldl (fun fields (name, value) => setField name value fields) []

/-! ## Reading fields that were set -/

theorem field?_eq_lookup (name : String) (fields : List (String × Json)) :
    field? name fields = OrderedMap.lookup name fields := by
  induction fields with
  | nil => rfl
  | cons field rest ih => rw [field?, OrderedMap.lookup, ih]

theorem isSome_field?_iff {name : String} {fields : List (String × Json)} :
    (field? name fields).isSome = true ↔ name ∈ fields.map Prod.fst := by
  rw [field?_eq_lookup, OrderedMap.lookup_isSome]

theorem field?_foldl_of_not_mem {name : String} {pairs : List (String × Json)}
    (h : name ∉ pairs.map Prod.fst) (fields : List (String × Json)) :
    field? name (pairs.foldl (fun fields (name, value) => setField name value fields) fields) =
      field? name fields := by
  induction pairs generalizing fields with
  | nil => rfl
  | cons pair rest ih =>
      rw [List.map_cons, List.mem_cons, not_or] at h
      rw [List.foldl_cons, ih h.2, field?_setField, if_neg h.1]

/-- The last value that is set for a name is the one that is read. -/
theorem field?_fieldsOf_of_last {name : String} {value : Json}
    {before after : List (String × Json)} (h : name ∉ after.map Prod.fst) :
    field? name (fieldsOf (before ++ (name, value) :: after)) = some value := by
  rw [fieldsOf, List.foldl_append, List.foldl_cons, field?_foldl_of_not_mem h, field?_setField,
    if_pos rfl]

theorem field?_fieldsOf_of_not_mem {name : String} {pairs : List (String × Json)}
    (h : name ∉ pairs.map Prod.fst) : field? name (fieldsOf pairs) = none :=
  field?_foldl_of_not_mem h []

/-- Of pairs with different names every one is read back. -/
theorem field?_fieldsOf_of_mem {name : String} {value : Json} {pairs : List (String × Json)}
    (hnodup : (pairs.map Prod.fst).Nodup) (h : (name, value) ∈ pairs) :
    field? name (fieldsOf pairs) = some value := by
  obtain ⟨before, after, rfl⟩ := List.append_of_mem h
  rw [List.map_append, List.map_cons, List.nodup_append, List.nodup_cons] at hnodup
  exact field?_fieldsOf_of_last hnodup.2.1.1

theorem mem_names_setField {name other : String} {value : Json}
    {fields : List (String × Json)} :
    other ∈ (setField name value fields).map Prod.fst ↔
      other = name ∨ other ∈ fields.map Prod.fst := by
  rw [← isSome_field?_iff, field?_setField, ← isSome_field?_iff]
  by_cases h : other = name <;> simp [h]

/-- The names of an object are those that were set. -/
theorem mem_names_fieldsOf {name : String} {pairs : List (String × Json)} :
    name ∈ (fieldsOf pairs).map Prod.fst ↔ name ∈ pairs.map Prod.fst := by
  have hset : ∀ fields : List (String × Json),
      name ∈ (pairs.foldl (fun fields (name, value) => setField name value fields) fields).map
          Prod.fst ↔ name ∈ fields.map Prod.fst ∨ name ∈ pairs.map Prod.fst := by
    induction pairs with
    | nil => simp
    | cons pair rest ih =>
        intro fields
        rw [List.foldl_cons, ih, mem_names_setField, List.map_cons, List.mem_cons]
        tauto
  exact (hset []).trans (or_iff_right List.not_mem_nil)

/-! ## Sorted fields -/

def IsSorted (fields : List (String × Json)) : Prop :=
  (fields.map Prod.fst).Pairwise (· < ·)

theorem IsSorted.nodup {fields : List (String × Json)} (h : IsSorted fields) :
    (fields.map Prod.fst).Nodup :=
  h.imp ne_of_lt

theorem isSorted_cons {name : String} {value : Json} {fields : List (String × Json)} :
    IsSorted ((name, value) :: fields) ↔
      (∀ other ∈ fields.map Prod.fst, name < other) ∧ IsSorted fields := by
  rw [IsSorted, List.map_cons, List.pairwise_cons]
  rfl

theorem IsSorted.setField {fields : List (String × Json)} (h : IsSorted fields) (name : String)
    (value : Json) : IsSorted (setField name value fields) := by
  induction fields with
  | nil => exact List.pairwise_singleton _ _
  | cons field rest ih =>
      obtain ⟨key, old⟩ := field
      obtain ⟨hkey, hrest⟩ := isSorted_cons.mp h
      unfold Scenario.setField
      split
      · next hlt =>
          refine isSorted_cons.mpr ⟨fun other hother => ?_, h⟩
          rcases List.mem_cons.mp hother with rfl | hother
          · exact hlt
          · exact hlt.trans (hkey other hother)
      · next hnot =>
          split
          · next heq => exact isSorted_cons.mpr ⟨heq ▸ hkey, hrest⟩
          · next hne =>
              refine isSorted_cons.mpr ⟨fun other hother => ?_, ih hrest⟩
              rcases mem_names_setField.mp hother with rfl | hother
              · exact lt_of_le_of_ne (not_lt.mp hnot) (Ne.symm hne)
              · exact hkey other hother

theorem isSorted_fieldsOf (pairs : List (String × Json)) : IsSorted (fieldsOf pairs) := by
  have hset : ∀ fields, IsSorted fields →
      IsSorted (pairs.foldl (fun fields (name, value) => Scenario.setField name value fields)
        fields) := by
    induction pairs with
    | nil => exact fun fields h => h
    | cons pair rest ih => exact fun fields h => ih _ (h.setField pair.1 pair.2)
  exact hset [] List.Pairwise.nil

/-- Sorted fields are equal if the same can be read from them. -/
theorem fields_ext {left right : List (String × Json)} (hleft : IsSorted left)
    (hright : IsSorted right) (h : ∀ name, field? name left = field? name right) :
    left = right := by
  have hmem : ∀ name, name ∈ left.map Prod.fst ↔ name ∈ right.map Prod.fst := fun name => by
    rw [← isSome_field?_iff, h, isSome_field?_iff]
  have hnames : left.map Prod.fst = right.map Prod.fst :=
    ((List.perm_ext_iff_of_nodup hleft.nodup hright.nodup).mpr hmem).eq_of_pairwise
      (fun a b _ _ hab hba => absurd hab (not_lt.mpr hba.le)) hleft hright
  exact OrderedMap.entries_ext hleft.nodup hnames fun name => by
    rw [← field?_eq_lookup, h, field?_eq_lookup]

end Scenario.Json
