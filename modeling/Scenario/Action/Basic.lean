import Scenario.Store.Basic
import Scenario.Outcome
import Scenario.Pattern.Library

/-!
# Actions

An action is what a step runs in the end. It receives its arguments and
options without references, may read and write the variables, and has a
state of its own that it shares with the other actions of the run. What a
run calls besides its actions is the library of patterns.
-/

namespace Scenario

/-- From arguments, options, variables and the shared state to a result,
the variables and the state after it. -/
abbrev Action (σ : Type) : Type :=
  List Json → OrderedMap Json → Store → σ → ActionResult × Store × σ

/-- What a run can call: its actions by name, in order of registration, and
the library that patterns are given to. -/
structure Catalog (σ : Type) extends OrderedMap (Action σ) where
  patterns : PatternLibrary := Pattern.library

namespace Catalog

variable {σ : Type}

def empty : Catalog σ where
  toOrderedMap := .empty

def ofList (actions : List (String × Action σ)) : Catalog σ where
  toOrderedMap := .ofList actions

def insert (catalog : Catalog σ) (name : String) (action : Action σ) : Catalog σ :=
  { catalog with toOrderedMap := catalog.toOrderedMap.insert name action }

theorem get?_insert (catalog : Catalog σ) (name other : String) (action : Action σ) :
    (catalog.insert name action).get? other =
      if other = name then some action else catalog.get? other :=
  OrderedMap.get?_insert catalog.toOrderedMap name other action

end Catalog

/-- An action that only computes. -/
def Action.pure {σ : Type} (f : List Json → OrderedMap Json → ActionResult) : Action σ :=
  fun args options store state => (f args options, store, state)

end Scenario
