import Mathlib.Data.List.Forall2
import Scenario.Proofs.Cut

/-!
# Values with their strings replaced

Substitution in a value exchanges the strings in it and nothing else: the
value that comes out is the one with the same arrays, the same names of fields
and the same other scalars, in which each string has become what stands for it
(`Store.substituteValue_eq_iff`).

A string has two readings, as a text with references in it and as one
reference to a value. They agree on the text (`Store.StandsFor.display_eq`),
since a text that is one reference has no stretch to keep: its cut is that
reference alone (`Store.substitute_of_whole`).
-/

namespace Scenario

namespace Json

/-! ## Values by induction -/

theorem induction {motive : Json → Prop} (null : motive .null) (bool : ∀ b, motive (.bool b))
    (number : ∀ n, motive (.number n)) (string : ∀ text, motive (.string text))
    (array : ∀ items, (∀ v ∈ items, motive v) → motive (.array items))
    (object : ∀ fields, (∀ field ∈ fields, motive field.2) → motive (.object fields)) :
    ∀ v, motive v
  | .null => null
  | .bool b => bool b
  | .number n => number n
  | .string text => string text
  | .array items => array items fun v _ => induction null bool number string array object v
  | .object fields =>
    object fields fun field _ => induction null bool number string array object field.2
termination_by v => sizeOf v
decreasing_by
  · rename_i hitem
    have := List.sizeOf_lt_of_mem hitem
    simp only [Json.array.sizeOf_spec]
    omega
  · rename_i hfield
    have := List.sizeOf_lt_of_mem hfield
    obtain ⟨name, v⟩ := field
    simp only [Json.object.sizeOf_spec, Prod.mk.sizeOf_spec] at *
    omega

/-- One value is another with every string in it exchanged for a value that
`leaf` allows. Names of fields are no strings of the value. -/
inductive Exchanged (leaf : String → Json → Prop) : Json → Json → Prop
  | null : Exchanged leaf .null .null
  | bool (b : Bool) : Exchanged leaf (.bool b) (.bool b)
  | number (n : Number) : Exchanged leaf (.number n) (.number n)
  | string {text : String} {w : Json} (h : leaf text w) : Exchanged leaf (.string text) w
  | array {items items' : List Json} (h : List.Forall₂ (Exchanged leaf) items items') :
    Exchanged leaf (.array items) (.array items')
  | object {fields fields' : List (String × Json)}
    (hnames : fields.map Prod.fst = fields'.map Prod.fst)
    (h : List.Forall₂ (Exchanged leaf) (fields.map Prod.snd) (fields'.map Prod.snd)) :
    Exchanged leaf (.object fields) (.object fields')

end Json

namespace Piece

/-- A text is one reference exactly if it is `${`, a stretch without braces,
and `}`. -/
theorem whole?_eq_some_iff {text inside : List Char} :
    whole? text = some inside ↔
      (∀ c ∈ inside, isBrace c = false) ∧ text = (reference inside).chars := by
  have hclosed : ∀ rest, closing? rest = some (inside, []) ↔
      (∀ c ∈ inside, isBrace c = false) ∧
        '$' :: '\x7b' :: rest = (reference inside).chars := by
    intro rest
    rw [closing?_eq_some_iff]
    simp [chars]
  unfold whole?
  split
  · next rest =>
      rw [← hclosed]
      split
      · next found hfound => rw [hfound]; simp
      · next hother =>
          refine ⟨fun h => (by cases h), fun h => absurd h (hother inside)⟩
  · next hother =>
      refine ⟨fun h => (by cases h), fun h => ?_⟩
      exact absurd h.2 (hother (inside ++ ['\x7d']))

end Piece

namespace Store

variable {env : Environment} {store : Store} {template : String}

/-! ## A string that is one reference -/

theorem wholeValue?_eq_some_iff {value : Json} :
    store.wholeValue? env template = some value ↔
      ∃ inside, (∀ c ∈ inside, Piece.isBrace c = false) ∧
        template.toList = (Piece.reference inside).chars ∧
        store.resolve env (String.ofList inside) = .ok value := by
  have hwhole : store.wholeValue? env template = some value ↔
      ∃ inside, Piece.whole? template.toList = some inside ∧
        store.resolve env (String.ofList inside) = .ok value := by
    unfold wholeValue?
    cases Piece.whole? template.toList with
    | none => simp
    | some inside =>
        cases hvalue : store.resolve env (String.ofList inside) <;>
          simp [hvalue, Except.toOption]
  simp only [hwhole, Piece.whole?_eq_some_iff, and_assoc]

/-- The text of a reference is the text of its value. -/
theorem substitute_of_whole {inside : List Char} {value : Json}
    (hbrace : ∀ c ∈ inside, Piece.isBrace c = false)
    (htext : template.toList = (Piece.reference inside).chars)
    (hvalue : store.resolve env (String.ofList inside) = .ok value) :
    store.substitute env template = value.display := by
  have hcut : Cut.ofText template.toList = ⟨[([], inside)], []⟩ := by
    rw [htext, ← List.append_nil (Piece.reference inside).chars,
      Cut.ofText_append_reference hbrace, Cut.ofText, Piece.ofText]
    rfl
  have hreplaced : store.replacement env inside = value.display.toList := by
    rw [replacement, hvalue]
  rw [substitute_eq, hcut, ← String.ofList_toList (s := value.display), ← hreplaced]
  simp [Cut.filled]

/-- A string that is one reference is the value of that reference, and stays as
it is if there is none. -/
theorem substituteValue_of_whole {inside : List Char}
    (hbrace : ∀ c ∈ inside, Piece.isBrace c = false)
    (htext : template.toList = (Piece.reference inside).chars) :
    store.substituteValue env (.string template) =
      match store.resolve env (String.ofList inside) with
      | .ok value => value
      | .error _ => .string template := by
  have hwhole : Piece.whole? template.toList = some inside :=
    Piece.whole?_eq_some_iff.mpr ⟨hbrace, htext⟩
  have hcut : Piece.ofText template.toList = [.reference inside] := by
    have hreference := Piece.ofText_reference hbrace []
    rw [Piece.ofText] at hreference
    rw [htext]
    exact hreference
  rw [substituteValue, substituteString, wholeValue?, hwhole]
  cases hvalue : store.resolve env (String.ofList inside) with
  | ok value => simp [hvalue, Except.toOption]
  | error failure =>
      have htextual : store.substitute env template = template := by
        rw [substitute, hcut, List.flatMap_singleton, pieceText, hvalue]
        dsimp only
        rw [← htext, String.ofList_toList]
      simp [hvalue, Except.toOption, htextual]

/-! ## What stands for a string -/

/-- A value stands for a string: it reads as the string with its references
replaced, a string that is one reference is the value which that reference has,
as it is stored, and any other string is a string still. -/
structure StandsFor (env : Environment) (store : Store) (template : String) (w : Json) :
    Prop where
  display_eq : w.display = store.substitute env template
  value_eq : ∀ inside value, (∀ c ∈ inside, Piece.isBrace c = false) →
    template.toList = '$' :: '\x7b' :: (inside ++ ['\x7d']) →
    store.resolve env (String.ofList inside) = .ok value → w = value
  text_of : (∀ inside value, (∀ c ∈ inside, Piece.isBrace c = false) →
      template.toList = '$' :: '\x7b' :: (inside ++ ['\x7d']) →
      store.resolve env (String.ofList inside) ≠ .ok value) →
    ∃ text, w = .string text

theorem standsFor_substituteString (env : Environment) (store : Store) (template : String) :
    store.StandsFor env template (store.substituteString env template) := by
  unfold substituteString
  cases hwhole : store.wholeValue? env template with
  | some value =>
      obtain ⟨inside, hbrace, htext, hvalue⟩ := wholeValue?_eq_some_iff.mp hwhole
      refine ⟨(substitute_of_whole hbrace htext hvalue).symm,
        fun other found hother hothertext hfound => ?_,
        fun hnone => absurd hvalue (hnone inside value hbrace htext)⟩
      exact Option.some.inj (hwhole.symm.trans
        (wholeValue?_eq_some_iff.mpr ⟨other, hother, hothertext, hfound⟩))
  | none =>
      refine ⟨rfl, fun inside value hbrace htext hvalue => ?_, fun _ => ⟨_, rfl⟩⟩
      rw [wholeValue?_eq_some_iff.mpr ⟨inside, hbrace, htext, hvalue⟩] at hwhole
      cases hwhole

/-- Nothing else stands for the string. -/
theorem StandsFor.eq_substituteString {w : Json} (h : store.StandsFor env template w) :
    w = store.substituteString env template := by
  unfold substituteString
  cases hwhole : store.wholeValue? env template with
  | some value =>
      obtain ⟨inside, hbrace, htext, hvalue⟩ := wholeValue?_eq_some_iff.mp hwhole
      exact h.value_eq inside value hbrace htext hvalue
  | none =>
      obtain ⟨text, rfl⟩ := h.text_of fun inside value hbrace htext hvalue => by
        rw [wholeValue?_eq_some_iff.mpr ⟨inside, hbrace, htext, hvalue⟩] at hwhole
        cases hwhole
      exact congrArg Json.string h.display_eq

/-! ## Values -/

theorem substituteItems_eq (env : Environment) (store : Store) (items : List Json) :
    store.substituteItems env items = items.map (store.substituteValue env) := by
  induction items with
  | nil => rfl
  | cons v items ih => rw [substituteItems, ih, List.map_cons]

theorem substituteFields_eq (env : Environment) (store : Store) (fields : List (String × Json)) :
    store.substituteFields env fields =
      fields.map fun field => (field.1, store.substituteValue env field.2) := by
  induction fields with
  | nil => rfl
  | cons field fields ih => rw [substituteFields, ih, List.map_cons]

theorem exchanged_substituteValue (env : Environment) (store : Store) (v : Json) :
    v.Exchanged (store.StandsFor env) (store.substituteValue env v) := by
  induction v using Json.induction with
  | null => exact .null
  | bool b => exact .bool b
  | number n => exact .number n
  | string text => exact .string (standsFor_substituteString env store text)
  | array items ih =>
      rw [substituteValue, substituteItems_eq]
      refine .array ?_
      rw [List.forall₂_map_right_iff, List.forall₂_same]
      exact ih
  | object fields ih =>
      rw [substituteValue, substituteFields_eq]
      refine .object (by rw [List.map_map]; rfl) ?_
      rw [List.map_map, List.forall₂_map_left_iff, List.forall₂_map_right_iff, List.forall₂_same]
      exact ih

/-- Values related item by item are those that a function gives, if it gives
the only related value for each item. -/
theorem map_eq_of_forall₂ {α β : Type} {R : α → β → Prop} {f : α → β} {as : List α} {bs : List β}
    (h : List.Forall₂ R as bs) (hf : ∀ a ∈ as, ∀ b, R a b → f a = b) : as.map f = bs := by
  have hequal : List.Forall₂ (fun a b => f a = b) as bs :=
    ((List.forall₂_and_left as bs).mpr ⟨hf, h⟩).imp fun a b hab => hab.1 b hab.2
  rwa [← List.forall₂_map_left_iff (R := Eq), List.forall₂_eq_eq_eq] at hequal

theorem substituteValue_of_exchanged {v w : Json} (h : v.Exchanged (store.StandsFor env) w) :
    store.substituteValue env v = w := by
  induction v using Json.induction generalizing w with
  | null => cases h; rfl
  | bool b => cases h; rfl
  | number n => cases h; rfl
  | string text =>
      cases h with
      | string h => exact h.eq_substituteString.symm
  | array items ih =>
      cases h with
      | array h =>
          rw [substituteValue, substituteItems_eq]
          exact congrArg Json.array (map_eq_of_forall₂ h fun v hv w => ih v hv)
  | object fields ih =>
      cases h with
      | object hnames h =>
          have hvalues : (fields.map Prod.snd).map (store.substituteValue env) = _ :=
            map_eq_of_forall₂ h (List.forall_mem_map.mpr fun field hfield w => ih field hfield)
          rw [substituteValue, substituteFields_eq]
          refine congrArg Json.object ((List.zip_of_prod ?_ ?_).trans
            (List.zip_of_prod hnames.symm hvalues.symm).symm)
          · rw [List.map_map]; rfl
          · rw [List.map_map, List.map_map]; rfl

/-- **Substituting in a value.** What comes out is the value with every string
exchanged for the value that stands for it, and that is the only such value. -/
theorem substituteValue_eq_iff (env : Environment) (store : Store) (v w : Json) :
    store.substituteValue env v = w ↔ v.Exchanged (store.StandsFor env) w :=
  ⟨fun h => h ▸ exchanged_substituteValue env store v, substituteValue_of_exchanged⟩

/-- The list is put in as it is stored, and the name of the field stays. -/
example :
    (substituteValue (fun _ => none)
        (.ofList [("list", .array [.string "$\x7bx\x7d"]), ("x", .ofNat 5)])
        (.object [("$\x7bx\x7d",
          .array [.string "$\x7blist\x7d", .string " $\x7bx\x7d"])])).compact =
      "\x7b\"$\x7bx\x7d\":[[\"$\x7bx\x7d\"],\" 5\"]\x7d" := by
  decide +kernel

end Store

end Scenario
