import Scenario.Store.Basic

/-!
# What an expression stands for

An expression is blank, asks the environment, is as a whole the name of a
variable, or is a path from one (`Store.expression_cases`), and each of these
decides alone what it resolves to. Read backwards, each way of failing says
what is wrong with the expression (`Store.resolve_eq_error_iff`).
-/

namespace Scenario

open Scenario.Text

namespace Store

variable {env : Environment} {store : Store} {expression : String}

/-- An expression that is followed segment by segment: there is something in
it, it does not ask the environment, and no variable has it for a name. -/
structure IsPath (store : Store) (expression : String) (segments : List String) : Prop where
  ne_empty : trimmed expression ≠ ""
  not_environment : environmentName? (trimmed expression).toList = none
  not_name : store.get? (trimmed expression) = none
  segments_eq : Json.splitPath (trimmed expression) = segments

/-- An expression is blank, asks the environment, names a variable, or is a
path. -/
theorem expression_cases (store : Store) (expression : String) :
    trimmed expression = "" ∨
      (∃ name, environmentName? (trimmed expression).toList = some name) ∨
      (trimmed expression ≠ "" ∧ environmentName? (trimmed expression).toList = none ∧
        ∃ value, store.get? (trimmed expression) = some value) ∨
      ∃ segments, store.IsPath expression segments := by
  by_cases hempty : trimmed expression = ""
  · exact .inl hempty
  cases henv : environmentName? (trimmed expression).toList with
  | some name => exact .inr (.inl ⟨name, rfl⟩)
  | none =>
      cases hname : store.get? (trimmed expression) with
      | some value => exact .inr (.inr (.inl ⟨hempty, rfl, value, rfl⟩))
      | none => exact .inr (.inr (.inr ⟨_, hempty, henv, hname, rfl⟩))

/-! ## One case after another -/

theorem resolve_of_blank (h : trimmed expression = "") :
    store.resolve env expression = .error .empty := by
  unfold resolve
  dsimp only
  rw [h]
  rfl

theorem resolve_of_ne_empty (h : trimmed expression ≠ "") :
    store.resolve env expression =
      match environmentName? (trimmed expression).toList with
      | some name =>
        match env name with
        | some value => .ok (.string value)
        | none => .error (.environment name)
      | none =>
        match store.get? (trimmed expression) with
        | some value => .ok value
        | none => store.followPath (trimmed expression) := by
  have hempty : ¬(trimmed expression).isEmpty = true := by
    simpa [String.isEmpty_iff] using h
  refine (if_neg hempty).trans ?_
  cases environmentName? (trimmed expression).toList with
  | some name => cases env name <;> rfl
  | none => cases store.get? (trimmed expression) <;> rfl

theorem resolve_of_environment {name : String}
    (h : environmentName? (trimmed expression).toList = some name) :
    store.resolve env expression =
      match env name with
      | some value => .ok (.string value)
      | none => .error (.environment name) := by
  have hne : trimmed expression ≠ "" := by
    intro hempty
    rw [hempty] at h
    cases h
  rw [resolve_of_ne_empty hne, h]

theorem resolve_of_name {value : Json} (hne : trimmed expression ≠ "")
    (henv : environmentName? (trimmed expression).toList = none)
    (h : store.get? (trimmed expression) = some value) :
    store.resolve env expression = .ok value := by
  rw [resolve_of_ne_empty hne, henv, h]

theorem IsPath.resolve_eq {segments : List String} (h : store.IsPath expression segments) :
    store.resolve env expression = store.followPath (trimmed expression) := by
  rw [resolve_of_ne_empty h.ne_empty, h.not_environment, h.not_name]

theorem IsPath.resolve_nil (h : store.IsPath expression []) :
    store.resolve env expression = .error .empty := by
  rw [h.resolve_eq, followPath, h.segments_eq]

theorem IsPath.resolve_of_unknown {root : String} {rest : List String}
    (h : store.IsPath expression (root :: rest)) (hroot : store.get? root = none) :
    store.resolve env expression = .error (.unknown root) := by
  rw [h.resolve_eq, followPath, h.segments_eq]
  dsimp only
  rw [hroot]

theorem IsPath.resolve_of_known {root : String} {rest : List String} {value : Json}
    (h : store.IsPath expression (root :: rest)) (hroot : store.get? root = some value) :
    store.resolve env expression = (value.walk rest).mapError (.path root) := by
  rw [h.resolve_eq, followPath, h.segments_eq]
  dsimp only
  rw [hroot]
  dsimp only
  cases value.walk rest <;> rfl

end Store

/-! ## Why an expression does not resolve -/

/-- What is wrong with an expression if resolving it fails in one way. -/
def Unresolved.AppliesTo (env : Environment) (store : Store) (expression : String) :
    Unresolved → Prop
  | .empty => trimmed expression = "" ∨ store.IsPath expression []
  | .environment name =>
    environmentName? (trimmed expression).toList = some name ∧ env name = none
  | .unknown root =>
    ∃ rest, store.IsPath expression (root :: rest) ∧ store.get? root = none
  | .path root failure =>
    ∃ rest value, store.IsPath expression (root :: rest) ∧ store.get? root = some value ∧
      value.walk rest = .error failure

namespace Store

variable {env : Environment} {store : Store} {expression : String} {failure : Unresolved}

theorem resolve_of_appliesTo (h : failure.AppliesTo env store expression) :
    store.resolve env expression = .error failure := by
  cases failure with
  | empty =>
      rcases h with hblank | hpath
      · exact resolve_of_blank hblank
      · exact hpath.resolve_nil
  | environment name =>
      obtain ⟨hname, hunset⟩ := h
      rw [resolve_of_environment hname, hunset]
  | unknown root =>
      obtain ⟨rest, hpath, hroot⟩ := h
      exact hpath.resolve_of_unknown hroot
  | path root failure =>
      obtain ⟨rest, value, hpath, hroot, hwalk⟩ := h
      rw [hpath.resolve_of_known hroot, hwalk]
      rfl

theorem appliesTo_of_resolve (h : store.resolve env expression = .error failure) :
    failure.AppliesTo env store expression := by
  rcases store.expression_cases expression with
    hblank | ⟨name, hname⟩ | ⟨hne, henv, value, hvalue⟩ | ⟨segments, hpath⟩
  · rw [resolve_of_blank hblank] at h
    cases h
    exact .inl hblank
  · rw [resolve_of_environment hname] at h
    cases hunset : env name with
    | none =>
        rw [hunset] at h
        cases h
        exact ⟨hname, hunset⟩
    | some value =>
        rw [hunset] at h
        cases h
  · rw [resolve_of_name hne henv hvalue] at h
    cases h
  · cases segments with
    | nil =>
        rw [hpath.resolve_nil] at h
        cases h
        exact .inr hpath
    | cons root rest =>
        cases hroot : store.get? root with
        | none =>
            rw [hpath.resolve_of_unknown hroot] at h
            cases h
            exact ⟨rest, hpath, hroot⟩
        | some value =>
            rw [hpath.resolve_of_known hroot] at h
            cases hwalk : value.walk rest with
            | ok found =>
                rw [hwalk] at h
                cases h
            | error failure =>
                rw [hwalk] at h
                cases h
                exact ⟨rest, value, hpath, hroot, hwalk⟩

/-- Resolving fails in one way exactly if that is what is wrong. -/
theorem resolve_eq_error_iff :
    store.resolve env expression = .error failure ↔ failure.AppliesTo env store expression :=
  ⟨appliesTo_of_resolve, resolve_of_appliesTo⟩

end Store

end Scenario
