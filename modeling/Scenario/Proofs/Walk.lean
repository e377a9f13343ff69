import Scenario.Json.Path

/-!
# Where a walk stops

A walk takes its first segment and goes on from the value there, and a failure
further on is that of the rest, seen from one segment earlier
(`Json.walk_cons`). So a path can be cut in two anywhere
(`Json.walk_append_eq_ok_iff`), and a failure names the one place where the path
leaves the value: what lies before it leads to a value, and that value refuses
the next segment (`Json.walk_eq_error_iff`).
-/

namespace Scenario

theorem mapError_eq_ok_iff {α ε ε' : Type} {x : Except ε α} {f : ε → ε'} {a : α} :
    x.mapError f = .ok a ↔ x = .ok a := by
  cases x with
  | ok v =>
      change Except.ok v = .ok a ↔ _
      simp
  | error e => exact ⟨nofun, nofun⟩

theorem mapError_eq_error_iff {α ε ε' : Type} {x : Except ε α} {f : ε → ε'} {b : ε'} :
    x.mapError f = .error b ↔ ∃ a, x = .error a ∧ f a = b := by
  cases x with
  | ok v => exact ⟨nofun, fun ⟨_, h, _⟩ => nomatch h⟩
  | error e =>
      change Except.error (f e) = .error b ↔ _
      simp

namespace Json

/-- A failure as it is seen from the start of a longer path. -/
def PathFailure.after (before : List String) (failure : PathFailure) : PathFailure :=
  { failure with resolved := before ++ failure.resolved }

theorem walk_nil (root : Json) : root.walk [] = .ok root := rfl

theorem walkAfter_eq (resolved : List String) (v : Json) (segments : List String) :
    walkAfter resolved v segments = (v.walk segments).mapError (.after resolved) := by
  induction segments generalizing resolved v with
  | nil => rfl
  | cons segment rest ih =>
      rw [walk, walkAfter, walkAfter]
      cases v.access segment with
      | error reason =>
          change _ = Except.error (PathFailure.after resolved _)
          simp [PathFailure.after]
      | ok child =>
          dsimp only
          rw [ih (resolved ++ [segment]) child, ih ([] ++ [segment]) child]
          cases child.walk rest with
          | ok w => rfl
          | error failure =>
              change Except.error (PathFailure.after _ failure) =
                Except.error (PathFailure.after resolved (PathFailure.after _ failure))
              simp [PathFailure.after]

theorem walk_cons (root : Json) (segment : String) (rest : List String) :
    root.walk (segment :: rest) =
      match root.access segment with
      | .ok child => (child.walk rest).mapError (.after [segment])
      | .error reason => .error ⟨reason, [], segment, root.availableKeys⟩ := by
  rw [walk, walkAfter]
  cases root.access segment with
  | error reason => rfl
  | ok child => exact walkAfter_eq [segment] child rest

/-- A path is followed to its end through the value at any place of it. -/
theorem walk_append_eq_ok_iff {root w : Json} {a b : List String} :
    root.walk (a ++ b) = .ok w ↔ ∃ v, root.walk a = .ok v ∧ v.walk b = .ok w := by
  rw [walk_append]
  cases root.walk a with
  | error failure => simp
  | ok v => simp [walkAfter_eq, mapError_eq_ok_iff]

/-- A walk fails at a segment that the value before it refuses. -/
theorem walk_of_refused {root v : Json} {resolved rest : List String} {segment : String}
    {reason : AccessFailure} (hwalk : root.walk resolved = .ok v)
    (hrefused : v.access segment = .error reason) :
    root.walk (resolved ++ segment :: rest) =
      .error ⟨reason, resolved, segment, v.availableKeys⟩ := by
  rw [walk_append, hwalk]
  dsimp only
  rw [walkAfter, hrefused]

/-- A walk that fails has followed all segments before the one that it names. -/
theorem refused_of_walk {root : Json} {segments : List String} {failure : PathFailure}
    (h : root.walk segments = .error failure) :
    failure.resolved ++ [failure.failedSegment] <+: segments ∧
      ∃ v, root.walk failure.resolved = .ok v ∧
        v.access failure.failedSegment = .error failure.reason ∧
        failure.availableKeys = v.availableKeys := by
  induction segments generalizing root failure with
  | nil => cases h
  | cons segment rest ih =>
      rw [walk_cons] at h
      cases haccess : root.access segment with
      | error reason =>
          rw [haccess] at h
          cases h
          exact ⟨⟨rest, rfl⟩, root, walk_nil root, haccess, rfl⟩
      | ok child =>
          rw [haccess] at h
          obtain ⟨inner, hinner, rfl⟩ := mapError_eq_error_iff.mp h
          obtain ⟨hbegins, v, hwalk, hrefused, hkeys⟩ := ih hinner
          refine ⟨List.cons_prefix_cons.mpr ⟨rfl, hbegins⟩, v, ?_, hrefused, hkeys⟩
          have hfirst : root.walk (segment :: inner.resolved) = .ok v := by
            rw [walk_cons, haccess]
            exact mapError_eq_ok_iff.mpr hwalk
          exact hfirst

/-- A walk fails with exactly the failure at the first segment that cannot be
followed. -/
theorem walk_eq_error_iff {root : Json} {segments : List String} {failure : PathFailure} :
    root.walk segments = .error failure ↔
      failure.resolved ++ [failure.failedSegment] <+: segments ∧
        ∃ v, root.walk failure.resolved = .ok v ∧
          v.access failure.failedSegment = .error failure.reason ∧
          failure.availableKeys = v.availableKeys := by
  refine ⟨refused_of_walk, ?_⟩
  rintro ⟨⟨rest, rfl⟩, v, hwalk, hrefused, hkeys⟩
  rw [List.append_assoc, List.singleton_append, walk_of_refused hwalk hrefused, ← hkeys]

/-- **Where a walk stops.** A path is followed in two parts as it is followed
in one. A walk that fails names the first segment that cannot be followed: the
path begins with what resolved and that segment, the first of these lead to a
value, and it is this value that refuses the segment, for the reason and with
the keys that are reported. -/
theorem walk_stops (root : Json) :
    (∀ a b w, root.walk (a ++ b) = .ok w ↔ ∃ v, root.walk a = .ok v ∧ v.walk b = .ok w) ∧
      ∀ segments failure, root.walk segments = .error failure ↔
        failure.resolved ++ [failure.failedSegment] <+: segments ∧
          ∃ v, root.walk failure.resolved = .ok v ∧
            v.access failure.failedSegment = .error failure.reason ∧
            failure.availableKeys = v.availableKeys :=
  ⟨fun _ _ _ => walk_append_eq_ok_iff, fun _ _ => walk_eq_error_iff⟩

end Json

end Scenario
