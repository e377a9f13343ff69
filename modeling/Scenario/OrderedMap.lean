/-!
# Maps that keep the order of insertion

An `OrderedMap` is a list of named entries without a repeated name.
Setting a name that is present keeps its place and replaces its value;
removing one keeps the order of the rest.

The view is `get?`: `get?_insert` says what a write does to every name,
`keys_insert` where the name stands afterwards. Names and view together
are all there is to a map (`ext_get?`).
-/

namespace Scenario

/-- Entries in order of first insertion. -/
structure OrderedMap (β : Type) where
  entries : List (String × β)
  nodup : (entries.map Prod.fst).Nodup

namespace OrderedMap

variable {β γ : Type}

def empty : OrderedMap β := ⟨[], List.nodup_nil⟩

instance : Inhabited (OrderedMap β) := ⟨empty⟩

instance : EmptyCollection (OrderedMap β) := ⟨empty⟩

instance [Repr β] : Repr (OrderedMap β) := ⟨fun m p => reprPrec m.entries p⟩

instance [BEq β] : BEq (OrderedMap β) := ⟨fun m n => m.entries == n.entries⟩

/-- The names in order. -/
def keys (m : OrderedMap β) : List String :=
  m.entries.map Prod.fst

def size (m : OrderedMap β) : Nat :=
  m.entries.length

def isEmpty (m : OrderedMap β) : Bool :=
  m.entries.isEmpty

/-- The value of the first entry with the name. -/
def lookup (name : String) : List (String × β) → Option β
  | [] => none
  | (key, value) :: rest => if key = name then some value else lookup name rest

def get? (m : OrderedMap β) (name : String) : Option β :=
  lookup name m.entries

def contains (m : OrderedMap β) (name : String) : Bool :=
  (m.get? name).isSome

/-- Replaces the value of the entry with the name, or adds one at the end. -/
def put (name : String) (value : β) : List (String × β) → List (String × β)
  | [] => [(name, value)]
  | (key, old) :: rest =>
    if key = name then (key, value) :: rest else (key, old) :: put name value rest

theorem keys_put (name : String) (value : β) (entries : List (String × β)) :
    (put name value entries).map Prod.fst =
      if name ∈ entries.map Prod.fst then entries.map Prod.fst
      else entries.map Prod.fst ++ [name] := by
  induction entries with
  | nil => simp [put]
  | cons e rest ih =>
      obtain ⟨key, old⟩ := e
      by_cases h : key = name
      · simp [put, h]
      · have h' : ¬name = key := fun e => h e.symm
        simp only [put, h, if_false, List.map_cons, List.mem_cons, h', false_or, ih]
        split <;> simp

theorem nodup_put {name : String} {value : β} {entries : List (String × β)}
    (h : (entries.map Prod.fst).Nodup) : ((put name value entries).map Prod.fst).Nodup := by
  rw [keys_put]
  split
  · exact h
  · next hn =>
      rw [List.nodup_append]
      refine ⟨h, by simp, ?_⟩
      intro a ha b hb
      rw [List.mem_singleton] at hb
      subst hb
      intro e
      exact hn (e ▸ ha)

def insert (m : OrderedMap β) (name : String) (value : β) : OrderedMap β :=
  ⟨put name value m.entries, nodup_put m.nodup⟩

theorem nodup_filter {entries : List (String × β)} (p : String × β → Bool)
    (h : (entries.map Prod.fst).Nodup) : ((entries.filter p).map Prod.fst).Nodup :=
  h.sublist (List.filter_sublist.map Prod.fst)

def erase (m : OrderedMap β) (name : String) : OrderedMap β :=
  ⟨m.entries.filter fun e => e.1 != name, nodup_filter _ m.nodup⟩

/-- Inserts pairs one after another. -/
def insertAll (m : OrderedMap β) (pairs : List (String × β)) : OrderedMap β :=
  pairs.foldl (fun m (name, value) => m.insert name value) m

def ofList (pairs : List (String × β)) : OrderedMap β :=
  empty.insertAll pairs

/-- Applies a function to every value. -/
def mapValues (f : β → γ) (m : OrderedMap β) : OrderedMap γ :=
  ⟨m.entries.map fun e => (e.1, f e.2), by
    have : (m.entries.map fun e => (e.1, f e.2)).map Prod.fst = m.entries.map Prod.fst := by
      simp
    rw [this]
    exact m.nodup⟩

/-- Whether both maps give the same value to every name, whatever the order
of their entries. -/
def sameEntries [BEq β] (m n : OrderedMap β) : Bool :=
  m.size == n.size &&
    m.entries.all fun (name, value) =>
      match n.get? name with
      | some other => value == other
      | none => false

/-! ## Reading after writing -/

theorem lookup_put (name other : String) (value : β) (entries : List (String × β)) :
    lookup other (put name value entries) =
      if other = name then some value else lookup other entries := by
  induction entries with
  | nil =>
      by_cases h : other = name
      · simp [put, lookup, h]
      · simp [put, lookup, h, Ne.symm h]
  | cons e rest ih =>
      obtain ⟨key, old⟩ := e
      by_cases hk : key = name <;> by_cases ho : other = name <;>
        by_cases hko : key = other <;> simp_all [put, lookup]

@[simp] theorem get?_insert (m : OrderedMap β) (name other : String) (value : β) :
    (m.insert name value).get? other = if other = name then some value else m.get? other :=
  lookup_put name other value m.entries

theorem get?_insert_self (m : OrderedMap β) (name : String) (value : β) :
    (m.insert name value).get? name = some value := by
  simp

theorem keys_insert (m : OrderedMap β) (name : String) (value : β) :
    (m.insert name value).keys =
      if name ∈ m.keys then m.keys else m.keys ++ [name] :=
  keys_put name value m.entries

@[simp] theorem get?_empty (name : String) : (empty : OrderedMap β).get? name = none :=
  rfl

theorem lookup_filter_ne (name other : String) (entries : List (String × β)) :
    lookup other (entries.filter fun e => e.1 != name) =
      if other = name then none else lookup other entries := by
  induction entries with
  | nil => simp [lookup]
  | cons e rest ih =>
      obtain ⟨key, value⟩ := e
      by_cases hk : key = name <;> by_cases ho : other = name <;>
        by_cases hko : key = other <;> simp_all [lookup]

@[simp] theorem get?_erase (m : OrderedMap β) (name other : String) :
    (m.erase name).get? other = if other = name then none else m.get? other :=
  lookup_filter_ne name other m.entries

theorem keys_erase (m : OrderedMap β) (name : String) :
    (m.erase name).keys = m.keys.filter fun key => key != name := by
  simp only [keys, erase, List.filter_map]
  rfl

theorem get?_insertAll_of_not_mem {name : String} {pairs : List (String × β)}
    (h : name ∉ pairs.map Prod.fst) (m : OrderedMap β) :
    (m.insertAll pairs).get? name = m.get? name := by
  induction pairs generalizing m with
  | nil => rfl
  | cons pair rest ih =>
      rw [List.map_cons, List.mem_cons, not_or] at h
      have hrest := ih h.2 (m.insert pair.1 pair.2)
      rw [get?_insert, if_neg h.1] at hrest
      exact hrest

/-- Of pairs with different names every one is read back. -/
theorem get?_insertAll_of_mem {name : String} {value : β} {pairs : List (String × β)}
    (hnodup : (pairs.map Prod.fst).Nodup) (h : (name, value) ∈ pairs) (m : OrderedMap β) :
    (m.insertAll pairs).get? name = some value := by
  induction pairs generalizing m with
  | nil => cases h
  | cons pair rest ih =>
      rw [List.map_cons, List.nodup_cons] at hnodup
      rcases List.mem_cons.mp h with rfl | hlater
      · have hkept := get?_insertAll_of_not_mem hnodup.1 (m.insert name value)
        rw [get?_insert_self] at hkept
        exact hkept
      · exact ih hnodup.2 hlater (m.insert pair.1 pair.2)

/-! ## Names and values together -/

theorem lookup_isSome (name : String) (entries : List (String × β)) :
    (lookup name entries).isSome = true ↔ name ∈ entries.map Prod.fst := by
  induction entries with
  | nil => simp [lookup]
  | cons e rest ih =>
      obtain ⟨key, value⟩ := e
      by_cases h : key = name
      · simp [lookup, h]
      · simp [lookup, h, ih, Ne.symm h]

theorem lookup_eq_none {name : String} {entries : List (String × β)}
    (h : name ∉ entries.map Prod.fst) : lookup name entries = none := by
  rw [← Option.not_isSome_iff_eq_none, lookup_isSome]
  exact h

theorem mem_keys_iff {m : OrderedMap β} {name : String} :
    name ∈ m.keys ↔ (m.get? name).isSome = true :=
  (lookup_isSome name m.entries).symm

theorem contains_eq (m : OrderedMap β) (name : String) :
    m.contains name = decide (name ∈ m.keys) := by
  rw [Bool.eq_iff_iff, decide_eq_true_iff, mem_keys_iff, contains]

theorem entries_ext {left right : List (String × β)} (hnodup : (left.map Prod.fst).Nodup)
    (hkeys : left.map Prod.fst = right.map Prod.fst)
    (hlookup : ∀ name, lookup name left = lookup name right) : left = right := by
  induction left generalizing right with
  | nil => simpa using hkeys.symm
  | cons e rest ih =>
      cases right with
      | nil => simp at hkeys
      | cons e' rest' =>
          obtain ⟨key, value⟩ := e
          obtain ⟨key', value'⟩ := e'
          simp only [List.map_cons, List.cons.injEq] at hkeys
          obtain ⟨rfl, hrest⟩ := hkeys
          have hvalue : value = value' := by simpa [lookup] using hlookup key
          have hfresh : key ∉ rest.map Prod.fst := (List.nodup_cons.mp hnodup).1
          have htail : ∀ name, lookup name rest = lookup name rest' := by
            intro name
            by_cases h : key = name
            · subst h
              rw [lookup_eq_none hfresh, lookup_eq_none (hrest ▸ hfresh)]
            · simpa [lookup, h] using hlookup name
          rw [hvalue, ih (List.nodup_cons.mp hnodup).2 hrest htail]

/-- A map is its names in order and what it gives to them. -/
theorem ext_get? {m n : OrderedMap β} (hkeys : m.keys = n.keys)
    (hget : ∀ name, m.get? name = n.get? name) : m = n := by
  obtain ⟨left, hleft⟩ := m
  obtain ⟨right, hright⟩ := n
  have hentries : left = right := entries_ext hleft hkeys hget
  subst hentries
  rfl

/-- A write changes nothing exactly if the name has that value already. -/
theorem insert_eq_self_iff {m : OrderedMap β} {name : String} {value : β} :
    m.insert name value = m ↔ m.get? name = some value := by
  constructor
  · intro h
    rw [← h, get?_insert_self]
  · intro h
    have hmem : name ∈ m.keys := mem_keys_iff.mpr (by rw [h]; rfl)
    refine ext_get? ?_ fun other => ?_
    · rw [keys_insert, if_pos hmem]
    · rw [get?_insert]
      split
      · next heq => rw [heq, h]
      · rfl

end OrderedMap

end Scenario
