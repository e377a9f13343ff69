import Scenario.Proofs.Occurrence
import Scenario.Proofs.Resolution
import Scenario.Store.Substitution

/-!
# Texts with and without references

Cutting a text into pieces is one pass from the left, so what it makes of a
text is known from its parts: a character other than `$` stands for itself
(`Piece.ofText_append_of_plain`), and a name between `${` and `}` is a
reference whatever follows (`Piece.ofText_reference`). A text without `${`
has no reference at all, and nothing replaces any of it
(`Store.substitute_of_not_infix`).

A reference can spell a name if the name is not empty, has no blank at its
ends and no brace, and does not begin like the name of an environment
variable (`IsSpellable`). Such a reference is the variable
(`Store.resolve_of_get?`).
-/

namespace Scenario

open Scenario.Text

namespace Piece

theorem ofText_cons_of_ne {c : Char} (hc : c ≠ '$') (rest : List Char) :
    ofText (c :: rest) = .literal c :: ofText rest := by
  rw [ofText]
  rintro rest' rfl
  exact absurd rfl hc

/-- Characters other than `$` stand for themselves. -/
theorem ofText_append_of_plain {cs : List Char} (h : '$' ∉ cs) (rest : List Char) :
    ofText (cs ++ rest) = cs.map literal ++ ofText rest := by
  induction cs with
  | nil => rfl
  | cons c cs ih =>
      rw [List.mem_cons, not_or] at h
      rw [List.cons_append, ofText_cons_of_ne (Ne.symm h.1), ih h.2, List.map_cons,
        List.cons_append]

theorem closing?_append {inside : List Char} (h : ∀ c ∈ inside, isBrace c = false)
    (rest : List Char) : closing? (inside ++ '\x7d' :: rest) = some (inside, rest) := by
  have hopen : ∀ c ∈ inside, (!isBrace c) = true := fun c hc => by rw [h c hc]; rfl
  have hbrace : ¬(fun c => !isBrace c) '\x7d' = true := by decide
  unfold closing?
  rw [List.dropWhile_append_of_pos hopen, List.takeWhile_append_of_pos hopen,
    List.dropWhile_cons_of_neg (p := fun c => !isBrace c) hbrace,
    List.takeWhile_cons_of_neg (p := fun c => !isBrace c) hbrace, List.append_nil]
  rfl

/-- A stretch is closed exactly if it has no brace and a closing one follows. -/
theorem closing?_eq_some_iff {cs inside rest : List Char} :
    closing? cs = some (inside, rest) ↔
      (∀ c ∈ inside, isBrace c = false) ∧ cs = inside ++ '\x7d' :: rest := by
  constructor
  · intro h
    refine ⟨fun c hc => ?_, closing?_eq h⟩
    unfold closing? at h
    split at h
    · injection h with hpair
      injection hpair with hinside
      rw [← hinside] at hc
      simpa using List.mem_takeWhile_imp hc
    · cases h
  · rintro ⟨h, rfl⟩
    exact closing?_append h rest

/-- Between `${` and `}` a stretch without braces is a reference. -/
theorem ofText_reference {inside : List Char} (h : ∀ c ∈ inside, isBrace c = false)
    (rest : List Char) :
    ofText ('$' :: '\x7b' :: (inside ++ '\x7d' :: rest)) = .reference inside :: ofText rest := by
  rw [ofText]
  split
  · next heq =>
      rw [closing?_append h] at heq
      cases heq
      rfl
  · next heq =>
      rw [closing?_append h] at heq
      cases heq

/-- A text without an opening is all literal. -/
theorem ofText_of_not_infix {cs : List Char} (h : ¬['$', '\x7b'] <:+: cs) :
    ofText cs = cs.map literal := by
  induction cs with
  | nil => rw [ofText]; rfl
  | cons c cs ih =>
      rw [List.infix_cons_iff, not_or] at h
      rw [ofText, ih h.2, List.map_cons]
      rintro rest rfl rfl
      exact h.1 (List.prefix_append ['$', '\x7b'] rest)

end Piece

namespace Store

theorem flatMap_pieceText_literal (env : Environment) (store : Store) (cs : List Char) :
    (cs.map Piece.literal).flatMap (store.pieceText env) = cs := by
  rw [List.flatMap_map]
  exact List.flatMap_singleton' cs

/-- Nothing is replaced in a text without an opening. -/
theorem substitute_of_not_infix {text : String} (h : ¬['$', '\x7b'] <:+: text.toList)
    (env : Environment) (store : Store) : store.substitute env text = text := by
  rw [substitute, Piece.ofText_of_not_infix h, flatMap_pieceText_literal, String.ofList_toList]

end Store

/-! ## References to variables -/

/-- A name that stands between `${` and `}` as itself. -/
structure IsSpellable (name : String) : Prop where
  ne_empty : name ≠ ""
  trimmed_eq : trimmed name = name
  no_brace : ∀ c ∈ name.toList, Piece.isBrace c = false
  not_environment : environmentName? name.toList = none

instance (name : String) : Decidable (IsSpellable name) :=
  decidable_of_iff
    (name ≠ "" ∧ trimmed name = name ∧ (name.toList.all fun c => !Piece.isBrace c) = true ∧
      environmentName? name.toList = none)
    ⟨fun h => ⟨h.1, h.2.1, by simpa using h.2.2.1, h.2.2.2⟩,
      fun h => ⟨h.ne_empty, h.trimmed_eq, by simpa using h.no_brace, h.not_environment⟩⟩

namespace Store

/-- A reference that spells the name of a variable is that variable, also
if the name has dots. -/
theorem resolve_of_get? {store : Store} {name : String} {value : Json} (hname : IsSpellable name)
    (h : store.get? name = some value) (env : Environment) :
    store.resolve env name = .ok value := by
  refine resolve_of_name ?_ ?_ ?_
  · rw [hname.trimmed_eq]
    exact hname.ne_empty
  · rw [hname.trimmed_eq]
    exact hname.not_environment
  · rw [hname.trimmed_eq]
    exact h

theorem pieceText_of_get? {store : Store} {name : String} {value : Json}
    (hname : IsSpellable name) (h : store.get? name = some value) (env : Environment) :
    store.pieceText env (.reference name.toList) = value.display.toList := by
  rw [pieceText, String.ofList_toList, resolve_of_get? hname h]

end Store

end Scenario
