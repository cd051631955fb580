/-!
# Values under keys

A list of values under texts as keys that keeps the order in which the keys came. Storing a
value under a key that is already there replaces the old value in its place. The main
statements say what is found after storing.
-/

namespace OrderOfGrowth

/-- Values under keys, in the order in which the keys came. -/
abbrev Keyed (α : Type) := List (String × α)

namespace Keyed

variable {α : Type}

/-- The value under a key. -/
def lookup (key : String) : Keyed α → Option α
  | [] => none
  | (name, value) :: rest => if name = key then some value else lookup key rest

/-- The entries with `value` under `key`: in place of the old value if there is one, else
at the end. -/
def store (key : String) (value : α) : Keyed α → Keyed α
  | [] => [(key, value)]
  | (name, old) :: rest =>
    if name = key then (name, value) :: rest else (name, old) :: store key value rest

/-- The entries without those under `key`. -/
def remove (key : String) (entries : Keyed α) : Keyed α := entries.filter (·.1 != key)

/-- The keys in their order. -/
def keys (entries : Keyed α) : List String := entries.map (·.1)

/-- Whether there is a value under a key. -/
def has (key : String) (entries : Keyed α) : Bool := (lookup key entries).isSome

/-- The entries stored one after another, so that no key occurs twice. -/
def ofList (entries : List (String × α)) : Keyed α :=
  entries.foldl (fun stored entry => store entry.1 entry.2 stored) []

/-- The value just stored under a key is found there. -/
@[simp] theorem lookup_store_self (key : String) (value : α) (entries : Keyed α) :
    lookup key (store key value entries) = some value := by
  induction entries with
  | nil => simp [store, lookup]
  | cons entry rest ih =>
    obtain ⟨name, old⟩ := entry
    simp only [store]
    split <;> simp_all [lookup]

/-- Storing a value does not change what is found under other keys. -/
theorem lookup_store_of_ne {key other : String} (hne : other ≠ key) (value : α)
    (entries : Keyed α) : lookup other (store key value entries) = lookup other entries := by
  induction entries with
  | nil => simp [store, lookup, hne.symm]
  | cons entry rest ih =>
    obtain ⟨name, old⟩ := entry
    simp only [store]
    split
    · simp_all [lookup, hne.symm]
    · simp [lookup, ih]

/-- A removed key is not found. -/
@[simp] theorem lookup_remove_self (key : String) (entries : Keyed α) :
    lookup key (remove key entries) = none := by
  induction entries with
  | nil => rfl
  | cons entry rest ih =>
    obtain ⟨name, value⟩ := entry
    by_cases hname : name = key
    · simpa [remove, hname] using ih
    · simpa [remove, hname, lookup] using ih

/-- Removing a key does not change what is found under other keys. -/
theorem lookup_remove_of_ne {key other : String} (hne : other ≠ key) (entries : Keyed α) :
    lookup other (remove key entries) = lookup other entries := by
  induction entries with
  | nil => rfl
  | cons entry rest ih =>
    obtain ⟨name, value⟩ := entry
    by_cases hname : name = key
    · have : name ≠ other := fun h => hne (h ▸ hname)
      simpa [remove, hname, lookup, hne.symm] using ih
    · simp only [remove] at ih
      simp [remove, hname, lookup, ih]

/-- What is found under a key is one of its entries. -/
theorem mem_of_lookup {key : String} {value : α} {entries : Keyed α}
    (h : lookup key entries = some value) : (key, value) ∈ entries := by
  induction entries with
  | nil => simp [lookup] at h
  | cons entry rest ih =>
    obtain ⟨name, old⟩ := entry
    simp only [lookup] at h
    split at h
    · simp_all
    · simp [ih h]

end Keyed

end OrderOfGrowth
