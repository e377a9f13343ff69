import Scenario.Proofs.Substitution

/-!
# Variables after an assignment

What an expression stands for depends on the store at two names only: the
expression itself, and the first segment of it as a path
(`Store.resolve_congr`). So an assignment is seen by the expressions that spell
its name and by the paths that start there, and by no other
(`Store.resolve_insert`).

The name itself comes before the path that it spells, so a name with dots or
brackets is read back whatever its first segment holds.
-/

namespace Scenario

open Scenario.Text

namespace Store

variable {env : Environment} {store : Store}

/-- Stores that agree at an expression and at its first segment agree on what
it stands for. -/
theorem resolve_congr {other : Store} {expression : String}
    (hname : store.get? (trimmed expression) = other.get? (trimmed expression))
    (hroot : ∀ root, (Json.splitPath (trimmed expression)).head? = some root →
      store.get? root = other.get? root) :
    store.resolve env expression = other.resolve env expression := by
  have hpath : store.followPath (trimmed expression) = other.followPath (trimmed expression) := by
    unfold followPath
    cases hsegments : Json.splitPath (trimmed expression) with
    | nil => rfl
    | cons root rest =>
        dsimp only
        rw [hroot root (by rw [hsegments]; rfl)]
  by_cases hblank : trimmed expression = ""
  · rw [resolve_of_blank hblank, resolve_of_blank hblank]
  · rw [resolve_of_ne_empty hblank, resolve_of_ne_empty hblank, hname, hpath]

theorem toList_reference (name : String) :
    ("$\x7b" ++ name ++ "\x7d").toList = (Piece.reference name.toList).chars := by
  simp [Piece.chars]

/-- **Reading back an assignment.** A reference to the assigned name is the
value, as a value and as a text, whatever else is stored; and an expression that
is another name and starts with another segment stands for what it stood for
before. -/
theorem resolve_insert {name : String} (hname : IsSpellable name) (env : Environment)
    (store : Store) (value : Json) :
    resolve env (store.insert name value) name = .ok value ∧
      substitute env (store.insert name value) ("$\x7b" ++ name ++ "\x7d") = value.display ∧
      substituteValue env (store.insert name value) (.string ("$\x7b" ++ name ++ "\x7d")) =
        value ∧
      ∀ expression, trimmed expression ≠ name →
        (Json.splitPath (trimmed expression)).head? ≠ some name →
        resolve env (store.insert name value) expression = store.resolve env expression := by
  have hvalue : resolve env (store.insert name value) name = .ok value :=
    resolve_of_get? hname (store.get?_insert_self name value) env
  have hinside : resolve env (store.insert name value) (String.ofList name.toList) = .ok value := by
    rw [String.ofList_toList, hvalue]
  have htext := toList_reference name
  refine ⟨hvalue, substitute_of_whole hname.no_brace htext hinside, ?_,
    fun expression hother hroot => ?_⟩
  · rw [substituteValue, substituteString,
      wholeValue?_eq_some_iff.mpr ⟨name.toList, hname.no_brace, htext, hinside⟩]
  · refine resolve_congr ?_ fun root hfirst => ?_
    · rw [OrderedMap.get?_insert, if_neg hother]
    · have hne : root ≠ name := fun heq => hroot (heq ▸ hfirst)
      rw [OrderedMap.get?_insert, if_neg hne]

/-- A variable with a dot in its name beside the root of the path that it
spells. -/
def profiles : Store :=
  .ofList [("user", .ofFields [("name", .string "nested")]), ("user.name", .string "old")]

/-- The name comes before the path, and the path is still there in brackets. -/
theorem resolve_insert_profiles :
    IsSpellable "user.name" ∧
      resolve (fun _ => none) (profiles.insert "user.name" (.bool true)) "user.name" =
        .ok (.bool true) ∧
      substitute (fun _ => none) (profiles.insert "user.name" (.bool true))
        "$\x7buser.name\x7d" = "true" ∧
      substituteValue (fun _ => none) (profiles.insert "user.name" (.bool true))
        (.string "$\x7buser.name\x7d") = .bool true ∧
      resolve (fun _ => none) (profiles.insert "user.name" (.bool true)) " user[name]" =
        .ok (.string "nested") := by
  have hname : IsSpellable "user.name" := by decide +kernel
  obtain ⟨hvalue, htext, hwhole, hother⟩ :=
    resolve_insert hname (fun _ => none) profiles (.bool true)
  refine ⟨hname, hvalue, htext, hwhole, ?_⟩
  rw [hother " user[name]" (by decide +kernel) (by decide +kernel)]
  rfl

end Store

end Scenario
