import Scenario.Proofs.Assignment
import Scenario.Proofs.Phase

/-!
# Declared variables, and those that are there before

A test case declares variables, and those that the store has already are left
out. So the names that are assigned are new and different, and an assignment adds
its name behind all others and changes none of them (`Store.keys_load`,
`Store.get?_load_of_not_mem`). Therefore the store in which a declaration is
evaluated can be read off the store in the end: it is the part of it that stands
before the declaration (`Store.load_split`). A variable that was there first is in
every such part, wherever a declaration that it replaces stands. Main statement:
`Engine.declared_variables`.
-/

namespace Scenario

open Scenario.Text

variable {σ : Type}

namespace Store

variable {env : Environment} {store : Store}

/-! ## Declarations one after another -/

theorem load_cons (env : Environment) (store : Store) (name : String) (value : Json)
    (rest : List (String × Json)) :
    load env store ((name, value) :: rest) =
      load env (store.insert name (store.substituteValue env value)) rest := rfl

theorem load_append (env : Environment) (store : Store) (before after : List (String × Json)) :
    load env store (before ++ after) = load env (load env store before) after :=
  List.foldl_append

theorem get?_load_of_not_mem {name : String} {declared : List (String × Json)}
    (h : name ∉ declared.map Prod.fst) (store : Store) :
    (load env store declared).get? name = store.get? name := by
  induction declared generalizing store with
  | nil => rfl
  | cons declaration rest ih =>
      obtain ⟨other, value⟩ := declaration
      rw [List.map_cons, List.mem_cons, not_or] at h
      rw [load_cons, ih h.2, OrderedMap.get?_insert, if_neg h.1]

/-- Names that are new and different stand behind the others, in their order. -/
theorem keys_load {declared : List (String × Json)} (hnodup : (declared.map Prod.fst).Nodup)
    (hnew : ∀ name ∈ declared.map Prod.fst, name ∉ store.keys) :
    (load env store declared).keys = store.keys ++ declared.map Prod.fst := by
  induction declared generalizing store with
  | nil => exact (List.append_nil _).symm
  | cons declaration rest ih =>
      obtain ⟨name, value⟩ := declaration
      rw [List.map_cons, List.nodup_cons] at hnodup
      rw [List.map_cons, List.forall_mem_cons] at hnew
      have hkeys : (store.insert name (store.substituteValue env value)).keys =
          store.keys ++ [name] := by
        rw [OrderedMap.keys_insert, if_neg hnew.1]
      have hrest : ∀ other ∈ rest.map Prod.fst,
          other ∉ (store.insert name (store.substituteValue env value)).keys := by
        intro other hother
        rw [hkeys, List.mem_append, List.mem_singleton, not_or]
        exact ⟨hnew.2 other hother, fun heq => hnodup.1 (heq ▸ hother)⟩
      rw [load_cons, ih hnodup.2 hrest, hkeys, List.append_assoc, List.map_cons,
        List.singleton_append]

/-- A declaration is evaluated in the part of the last store that stands before
it. -/
theorem load_split (env : Environment) {before after : List (String × Json)} {name : String}
    {value : Json}
    (hnodup : ((before ++ (name, value) :: after).map Prod.fst).Nodup)
    (hnew : ∀ other ∈ (before ++ (name, value) :: after).map Prod.fst, other ∉ store.keys) :
    let loaded := load env store (before ++ (name, value) :: after)
    ∃ seen : Store, seen.keys = store.keys ++ before.map Prod.fst ∧
      (∀ other ∈ seen.keys, seen.get? other = loaded.get? other) ∧
      loaded.get? name = some (seen.substituteValue env value) := by
  intro loaded
  rw [List.map_append, List.map_cons] at hnodup hnew
  obtain ⟨hbefore, hrest, hdifferent⟩ := List.nodup_append.mp hnodup
  obtain ⟨hafter, -⟩ := List.nodup_cons.mp hrest
  have hkeys : (load env store before).keys = store.keys ++ before.map Prod.fst :=
    keys_load hbefore fun other hother => hnew other (List.mem_append_left _ hother)
  have hloaded : loaded = load env (load env store before) ((name, value) :: after) :=
    load_append env store before _
  refine ⟨load env store before, hkeys, fun other hother => ?_, ?_⟩
  · -- what stands before is neither the name nor declared after it
    rw [hloaded]
    refine (get?_load_of_not_mem (fun hlater => ?_) (load env store before)).symm
    rw [List.map_cons] at hlater
    rw [hkeys, List.mem_append] at hother
    rcases hother with hold | hearlier
    · exact hnew other (List.mem_append_right _ hlater) hold
    · exact hdifferent other hearlier other hlater rfl
  · rw [hloaded, load_cons, get?_load_of_not_mem hafter, OrderedMap.get?_insert_self]

/-! ## References to what was there before -/

/-- An expression refers to a variable: it spells the name, or it is a path from
it and no name as a whole. -/
def RefersTo (store : Store) (expression name : String) : Prop :=
  trimmed expression = name ∨
    store.get? (trimmed expression) = none ∧
      (Json.splitPath (trimmed expression)).head? = some name

/-- What refers to a variable that was there before stands for what it stood for
then. -/
theorem resolve_of_refersTo {seen : Store} {expression name : String}
    (hkept : ∀ name ∈ store.keys, seen.get? name = store.get? name) (hname : name ∈ store.keys)
    (h : seen.RefersTo expression name) :
    seen.resolve env expression = store.resolve env expression := by
  rcases h with rfl | ⟨hnone, hroot⟩
  · by_cases hblank : trimmed expression = ""
    · rw [resolve_of_blank hblank, resolve_of_blank hblank]
    · obtain ⟨value, hvalue⟩ := Option.isSome_iff_exists.mp (OrderedMap.mem_keys_iff.mp hname)
      rw [resolve_of_ne_empty hblank, resolve_of_ne_empty hblank, hkept _ hname, hvalue]
  · have hunnamed : store.get? (trimmed expression) = none := by
      cases hvalue : store.get? (trimmed expression) with
      | none => rfl
      | some value =>
          have hmem : trimmed expression ∈ store.keys :=
            OrderedMap.mem_keys_iff.mpr (by rw [hvalue]; rfl)
          rw [← hkept _ hmem, hnone] at hvalue
          cases hvalue
    refine resolve_congr (hnone.trans hunnamed.symm) fun root hfirst => ?_
    obtain rfl : name = root := Option.some.inj (hroot.symm.trans hfirst)
    exact hkept name hname

end Store

namespace Engine

/-! ## The declarations of a test case -/

theorem undeclared_names (store : Store) (declared : List (String × Json)) :
    (declared.filter fun e => !store.contains e.1).map Prod.fst =
      (declared.map Prod.fst).filter (· ∉ store.keys) := by
  rw [List.filter_map]
  refine congrArg (List.map Prod.fst) (List.filter_congr fun e _ => ?_)
  rw [OrderedMap.contains_eq, Function.comp_apply, decide_not]

/-- **Declared variables.** A run begins where the variables are declared, and
goes on as without declarations. By then all variables that were there before
have their values and places, and the declared ones among the others stand behind
them in order. Each of those is its declared value, evaluated in the store of all
variables that stand before it; a variable that was there before is among these
wherever it is declared, so whatever refers to it stands for what it stood for
before. -/
theorem declared_variables (e : Engine σ) (test : TestCase) (p : Progress σ) :
    let start := e.declared test p
    e.runTest test p = e.runTest { test with «variables» := .empty } start ∧
    start.store.keys = p.store.keys ++ test.«variables».keys.filter (· ∉ p.store.keys) ∧
    (∀ name ∈ p.store.keys, start.store.get? name = p.store.get? name) ∧
    ∀ before name value after, test.«variables».entries = before ++ (name, value) :: after →
      name ∉ p.store.keys →
      ∃ seen : Store,
        seen.keys = p.store.keys ++ (before.map Prod.fst).filter (· ∉ p.store.keys) ∧
        (∀ other ∈ seen.keys, seen.get? other = start.store.get? other) ∧
        start.store.get? name = some (seen.substituteValue e.env value) ∧
        ∀ expression override, override ∈ p.store.keys → seen.RefersTo expression override →
          seen.resolve e.env expression = p.store.resolve e.env expression := by
  intro start
  have hnames : (undeclared test p.store).map Prod.fst =
      test.«variables».keys.filter (· ∉ p.store.keys) :=
    undeclared_names p.store test.«variables».entries
  have hnodup : ((undeclared test p.store).map Prod.fst).Nodup := by
    rw [hnames]
    exact test.«variables».nodup.filter _
  have hnew : ∀ name ∈ (undeclared test p.store).map Prod.fst, name ∉ p.store.keys := by
    intro name hname
    rw [hnames, List.mem_filter] at hname
    exact of_decide_eq_true hname.2
  have hkept : ∀ name ∈ p.store.keys, start.store.get? name = p.store.get? name := fun name hname =>
    Store.get?_load_of_not_mem (fun hdeclared => hnew name hdeclared hname) p.store
  refine ⟨rfl, hnames ▸ Store.keys_load hnodup hnew, hkept, ?_⟩
  intro before name value after hsplit hname
  have hassigned : undeclared test p.store =
      (before.filter fun e => !p.store.contains e.1) ++
        (name, value) :: after.filter fun e => !p.store.contains e.1 := by
    have hundeclared : (!p.store.contains name) = true := by
      rw [OrderedMap.contains_eq, decide_eq_false hname, Bool.not_false]
    rw [undeclared, hsplit, List.filter_append, List.filter_cons, if_pos hundeclared]
  rw [hassigned] at hnodup hnew
  obtain ⟨seen, hkeys, hagree, hvalue⟩ := Store.load_split e.env hnodup hnew
  rw [← hassigned] at hagree hvalue
  refine ⟨seen, by rw [hkeys, undeclared_names], hagree, hvalue,
    fun expression override hoverride hrefers => ?_⟩
  refine Store.resolve_of_refersTo (fun other hother => ?_) hoverride hrefers
  have hseen : other ∈ seen.keys := hkeys ▸ List.mem_append_left _ hother
  rw [hagree other hseen]
  exact hkept other hother

/-! ### A host that is replaced -/

/-- A test case that declares a host behind the address in which it stands. -/
def checkout : TestCase where
  name := "checkout"
  «variables» := .ofList
    [("url", .string "http://$\x7bhost\x7d"), ("host", .string "localhost")]

/-- The host that was there before is in the address, although the declaration
that it replaces comes later. -/
theorem declared_variables_checkout :
    let e : Engine Unit := { catalog := .empty }
    let p : Progress Unit := ⟨.ofList [("host", .string "staging")], (), []⟩
    let start := e.declared checkout p
    (checkout.«variables».entries =
        [] ++ ("url", .string "http://$\x7bhost\x7d") :: [("host", .string "localhost")] ∧
      "url" ∉ p.store.keys ∧ "host" ∈ p.store.keys) ∧
    (start.store.get? "url").map Json.display = some "http://staging" ∧
    ∃ seen : Store, seen.keys = ["host"] ∧
      (∀ other ∈ seen.keys, seen.get? other = start.store.get? other) ∧
      start.store.get? "url" = some (seen.substituteValue e.env (.string "http://$\x7bhost\x7d")) ∧
      seen.resolve e.env " host" = .ok (.string "staging") := by
  intro e p start
  have hnew : "url" ∉ p.store.keys := by decide +kernel
  have hhost : "host" ∈ p.store.keys := by decide +kernel
  obtain ⟨-, -, -, hdeclared⟩ := declared_variables e checkout p
  obtain ⟨seen, hkeys, hagree, hvalue, hresolve⟩ :=
    hdeclared [] "url" (.string "http://$\x7bhost\x7d") [("host", .string "localhost")] rfl hnew
  refine ⟨⟨rfl, hnew, hhost⟩, by decide +kernel, seen, hkeys, hagree, hvalue, ?_⟩
  rw [hresolve " host" "host" hhost (.inl (by decide +kernel))]
  rfl

end Engine

end Scenario
