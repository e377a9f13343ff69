import Scenario.Action.Builtin
import Scenario.Proofs.Substitution

/-!
# Queries, and references to paths

A bar splits a query into its stages whatever stands on its two sides, so a
query with a bar is the one query after the other (`Query.run_append`).

A stage that is a dot and a path follows the path (`Query.run_path`); so does a
reference that is the name of a variable, a dot and a path
(`Store.resolve_path`). Both trim what they read, the stage from its dot on and
the reference from the name on, and since neither the dot nor the ends of the
name are blank, that leaves them with the same path: the written one without the
blanks at its end. What the two make of the walk along it is all that is left to
compare. Main statement: `Query.run_agrees`.
-/

namespace Scenario

open Scenario.Text

/-! ## Names at the start of a path -/

namespace Json

/-- A character that ends a segment. -/
def isSeparator (c : Char) : Bool :=
  c == '.' || c == '[' || c == ']'

theorem splitPath_eq (path : String) :
    splitPath path =
      ((splitWhere isSeparator path.toList).filter fun part => !part.isEmpty).map String.ofList :=
  rfl

/-- A name without separators is the first segment of the path that it begins. -/
theorem splitPath_root {name : String} (hne : name ≠ "")
    (h : ∀ c ∈ name.toList, isSeparator c = false) (path : List Char) :
    splitPath (String.ofList (name.toList ++ '.' :: path)) =
      name :: splitPath (String.ofList path) := by
  have hdot : isSeparator '.' = true := rfl
  have hpart : (!name.toList.isEmpty) = true := by simpa using hne
  rw [splitPath_eq, splitPath_eq, String.toList_ofList, String.toList_ofList,
    splitWhere_append_cons hdot, splitWhere_of_forall h, List.singleton_append,
    List.filter_cons_of_pos (p := fun part : List Char => !part.isEmpty) hpart, List.map_cons,
    String.ofList_toList]

end Json

/-- A name that a reference can spell at the start of a path. -/
structure IsRoot (name : String) : Prop extends IsSpellable name where
  no_separator : ∀ c ∈ name.toList, Json.isSeparator c = false

namespace IsRoot

variable {name : String} (h : IsRoot name)

include h

/-- Of a path behind the name only the end is trimmed. -/
theorem trimmed_path (path : String) :
    trimmed (name ++ "." ++ path) =
      String.ofList (name.toList ++ '.' :: path.toList.rdropWhile isBlank) := by
  have hlist : (name ++ "." ++ path).toList = name.toList ++ '.' :: path.toList := by simp
  have hstart := (trim_eq_self_iff.mp (trim_toList_of_trimmed h.trimmed_eq)).1
  rw [trimmed, hlist, trim_append_cons hstart (by decide)]

/-- With a path behind it the name does not ask the environment either. -/
theorem environmentName?_path (path : List Char) :
    environmentName? (name.toList ++ '.' :: path) = none := by
  have hmark {mark : List Char} (hdot : '.' ∉ mark) (hnone : dropStart? mark name.toList = none) :
      dropStart? mark (name.toList ++ '.' :: path) = none := by
    rw [dropStart?_eq_none_iff] at hnone ⊢
    intro hbegins
    rcases List.prefix_or_prefix_of_prefix hbegins (List.prefix_append name.toList ('.' :: path))
      with hname | ⟨rest, rfl⟩
    · exact hnone hname
    · -- a mark that reaches beyond the name has the dot
      rw [List.prefix_append_right_inj] at hbegins
      rcases List.prefix_cons_iff.mp hbegins with rfl | ⟨others, rfl, -⟩
      · rw [List.append_nil] at hnone
        exact hnone List.prefix_rfl
      · exact hdot (List.mem_append_right _ List.mem_cons_self)
  have hnone := h.not_environment
  unfold environmentName? at hnone ⊢
  rw [Option.map_eq_none_iff, Option.or_eq_none_iff] at hnone ⊢
  exact ⟨hmark (by decide) hnone.1, hmark (by decide) hnone.2⟩

end IsRoot

namespace Store

/-- A reference that begins with the name of a variable, and is not a name as a
whole, follows the path behind it. -/
theorem resolve_path {store : Store} {name path : String} {d : Json} (hname : IsRoot name)
    (hd : store.get? name = some d) (hfull : store.get? (trimmed (name ++ "." ++ path)) = none)
    (env : Environment) :
    store.resolve env (name ++ "." ++ path) =
      (d.walk (Json.splitPath (String.ofList (path.toList.rdropWhile isBlank)))).mapError
        (.path name) := by
  have htrim := hname.trimmed_path path
  have hpath : store.IsPath (name ++ "." ++ path)
      (name :: Json.splitPath (String.ofList (path.toList.rdropWhile isBlank))) := by
    refine ⟨?_, ?_, hfull, ?_⟩
    · rw [htrim]
      intro hempty
      have hlist := congrArg String.toList hempty
      simp at hlist
    · rw [htrim, String.toList_ofList]
      exact hname.environmentName?_path _
    · rw [htrim]
      exact Json.splitPath_root hname.ne_empty hname.no_separator _
  exact hpath.resolve_of_known hd

end Store

/-! ## Stages -/

namespace Query

theorem stages_append (left right : String) :
    stages (left ++ "|" ++ right) = stages left ++ stages right := by
  have hlist : (left ++ "|" ++ right).toList = left.toList ++ '|' :: right.toList := by simp
  unfold stages splitAt
  rw [hlist, splitWhere_append_cons (p := (· == '|')) rfl, List.map_append]

/-- A query with a bar is the query before it, and then the query behind it on
the result. -/
theorem run_append (data : Json) (left right : String) :
    run data (left ++ "|" ++ right) = (run data left).bind fun value => run value right := by
  unfold run
  rw [stages_append, List.foldlM_append]
  rfl

/-- What a query says of a path that it cannot follow. -/
def trouble (failure : Json.PathFailure) : String :=
  failure.reason.message ++ " at '" ++ failure.failedSegment ++ "'"

/-- A stage that is a dot and a path follows the path. -/
theorem stage_path (data : Json) (path : List Char) :
    stage data (String.ofList ('.' :: path)) =
      (data.walk (Json.splitPath (String.ofList path))).mapError trouble := by
  have hdotted (text : String) (h : text.toList.head? ≠ some '.') :
      String.ofList ('.' :: path) ≠ text := by
    rintro rfl
    rw [String.toList_ofList] at h
    exact h rfl
  have hempty : String.ofList ('.' :: path) ≠ "" := hdotted "" (by decide)
  have hlength : String.ofList ('.' :: path) ≠ "length" := hdotted "length" (by decide)
  unfold stage
  rw [String.toList_ofList, if_neg hlength]
  by_cases hdot : String.ofList ('.' :: path) = "."
  · -- the identity is the walk along the empty path
    have hnil : path = [] := by
      have hlist := congrArg String.toList hdot
      simpa using hlist
    rw [if_pos (.inr hdot), hnil, Json.splitPath_eq, String.toList_ofList]
    rfl
  · rw [if_neg (not_or.mpr ⟨hempty, hdot⟩)]
    split
    · next tail htail =>
        cases htail
        cases data.walk (Json.splitPath (String.ofList path)) <;> rfl
    · next hother => exact absurd rfl (hother path)

/-- A query that is a dot and a path follows the path up to the blanks at its
end. -/
theorem run_path (data : Json) {path : String} (hbar : '|' ∉ path.toList) :
    run data ("." ++ path) =
      (data.walk (Json.splitPath (String.ofList (path.toList.rdropWhile isBlank)))).mapError
        trouble := by
  have hlist : ("." ++ path).toList = '.' :: path.toList := by simp
  have hpart : splitAt '|' ('.' :: path.toList) = ['.' :: path.toList] := by
    refine splitWhere_of_forall fun c hc => ?_
    rw [beq_eq_false_iff_ne]
    rintro rfl
    rcases List.mem_cons.mp hc with hdot | hpath
    · exact absurd hdot (by decide)
    · exact hbar hpath
  have htrim : trim ('.' :: path.toList) = '.' :: path.toList.rdropWhile isBlank :=
    trim_append_cons (rfl : List.dropWhile isBlank [] = []) (by decide) _
  have hstages : stages ("." ++ path) =
      [String.ofList ('.' :: path.toList.rdropWhile isBlank)] := by
    rw [stages, hlist, hpart, List.map_singleton, htrim]
  rw [run, hstages, List.foldlM_cons, stage_path]
  cases data.walk (Json.splitPath (String.ofList (path.toList.rdropWhile isBlank))) <;> rfl

end Query

/-- On a value that is no string the action runs its query, and leaves everything
else alone. -/
theorem Builtin.jq_eq {σ : Type} (table : MessageTable) {d : Json} (hd : ∀ text, d ≠ .string text)
    (expression : String) (options : OrderedMap Json) (store : Store) (state : σ) :
    Builtin.jq table [d, .string expression] options store state =
      (match Query.run d expression with
        | .ok value => .passed value
        | .error reason =>
          .error ((table.fault .execution Code.extractionFailed ["jq", reason]).withContext
            "expression" (.string expression)),
        store, state) := by
  have hembedded : embedded d = d := by
    unfold embedded
    split
    · next text => exact absurd rfl (hd text)
    · rfl
  unfold jq Action.pure
  cases hrun : Query.run d expression <;> simp only [hembedded, hrun]

namespace Query

/-- **Queries, and references to paths.** A query with a bar is the one query
after the other, and fails as the first if that fails. And on a value that is
stored under a name, a query that is a dot and a path and a reference that is the
name, a dot and the same path come to the same: to one value, or to a failure at
one segment for one reason. -/
theorem run_agrees {σ : Type} :
    (∀ data left right,
      run data (left ++ "|" ++ right) = (run data left).bind fun value => run value right) ∧
    ∀ (table : MessageTable) (env : Environment) (options : OrderedMap Json) (store : Store)
      (state : σ) (name path : String) (d : Json),
      IsRoot name → store.get? name = some d → (∀ text, d ≠ .string text) →
      (∀ c ∈ path.toList, c ≠ '|' ∧ Piece.isBrace c = false) →
      store.get? (trimmed (name ++ "." ++ path)) = none →
      let expression := "." ++ path
      let reference := "$\x7b" ++ (name ++ "." ++ path) ++ "\x7d"
      let answer := Builtin.jq table [d, .string expression] options store state
      (∃ value, answer = (.passed value, store, state) ∧
        store.resolve env (name ++ "." ++ path) = .ok value ∧
        store.substituteValue env (.string reference) = value) ∨
      ∃ failure : Json.PathFailure,
        let reason := failure.reason.message ++ " at '" ++ failure.failedSegment ++ "'"
        answer =
          (.error ((table.fault .execution Code.extractionFailed ["jq", reason]).withContext
            "expression" (.string expression)), store, state) ∧
        store.resolve env (name ++ "." ++ path) = .error (.path name failure) ∧
        store.substituteValue env (.string reference) = .string reference := by
  refine ⟨run_append, ?_⟩
  intro table env options store state name path d hname hstored hd hpath hfull expression
    reference answer
  have hbar : '|' ∉ path.toList := fun hmem => (hpath '|' hmem).1 rfl
  have hquery := run_path d hbar
  have hresolve := Store.resolve_path hname hstored hfull env
  have hbrace : ∀ c ∈ (name ++ "." ++ path).toList, Piece.isBrace c = false := by
    intro c hc
    rw [String.toList_append, String.toList_append, List.mem_append, List.mem_append] at hc
    rcases hc with (hc | hc) | hc
    · exact hname.no_brace c hc
    · rw [List.mem_singleton.mp hc]
      rfl
    · exact (hpath c hc).2
  have htext : reference.toList = (Piece.reference (name ++ "." ++ path).toList).chars := by
    simp [reference, Piece.chars]
  have hvalue : store.substituteValue env (.string reference) = _ :=
    Store.substituteValue_of_whole hbrace htext
  rw [String.ofList_toList] at hvalue
  have hanswer : answer = _ := Builtin.jq_eq table hd expression options store state
  rw [hquery] at hanswer
  rw [hresolve] at hvalue ⊢
  -- both make something of the walk along the same path
  cases hwalk : d.walk (Json.splitPath (String.ofList (path.toList.rdropWhile isBlank))) with
  | ok value =>
      rw [hwalk] at hanswer hvalue
      exact .inl ⟨value, hanswer, rfl, hvalue⟩
  | error failure =>
      rw [hwalk] at hanswer hvalue
      exact .inr ⟨failure, hanswer, rfl, hvalue⟩

/-! ### An order with one item -/

def order : Json :=
  .ofFields [("items", .array [.ofFields [("id", .ofNat 7)]])]

/-- With stray separators before the path and blanks behind it, query and
reference fail alike at the index that is out of range. -/
theorem run_agrees_order :
    let store : Store := .ofList [("order", order)]
    let path := "..items[3].id \n"
    let expression := "." ++ path
    let reference := "$\x7b" ++ ("order" ++ "." ++ path) ++ "\x7d"
    let answer := Builtin.jq .standard [order, .string expression] .empty store ()
    (IsRoot "order" ∧ store.get? "order" = some order ∧ (∀ text, order ≠ .string text) ∧
      (∀ c ∈ path.toList, c ≠ '|' ∧ Piece.isBrace c = false) ∧
      store.get? (trimmed ("order" ++ "." ++ path)) = none) ∧
    (run order expression).isOk = false ∧
    ((∃ value, answer = (.passed value, store, ()) ∧
        store.resolve (fun _ => none) ("order" ++ "." ++ path) = .ok value ∧
        store.substituteValue (fun _ => none) (.string reference) = value) ∨
      ∃ failure : Json.PathFailure,
        let reason := failure.reason.message ++ " at '" ++ failure.failedSegment ++ "'"
        answer =
          (.error ((MessageTable.standard.fault .execution Code.extractionFailed
            ["jq", reason]).withContext "expression" (.string expression)), store, ()) ∧
        store.resolve (fun _ => none) ("order" ++ "." ++ path) = .error (.path "order" failure) ∧
        store.substituteValue (fun _ => none) (.string reference) = .string reference) := by
  intro store path expression reference answer
  have hname : IsRoot "order" := ⟨by decide +kernel, by simp [Json.isSeparator]⟩
  have hd : ∀ text, order ≠ .string text := nofun
  have hpath : ∀ c ∈ path.toList, c ≠ '|' ∧ Piece.isBrace c = false := by
    simp [path, Piece.isBrace]
  have hfull : store.get? (trimmed ("order" ++ "." ++ path)) = none := by decide +kernel
  exact ⟨⟨hname, rfl, hd, hpath, hfull⟩, by decide +kernel,
    run_agrees.2 .standard (fun _ => none) .empty store () "order" path order hname rfl hd hpath
      hfull⟩

end Query

end Scenario
