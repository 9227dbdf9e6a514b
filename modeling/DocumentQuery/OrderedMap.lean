namespace DocumentQuery

/-!
# Maps that remember the order of their keys

Documents, rows, caches and registries are looked up by name and listed in the order in
which the names were added.  An `OrderedMap` is the list of its entries: inserting under a
name that is there replaces the value at its place, inserting under a new name adds an
entry at the end, and erasing closes the gap.  Every map built by `insert` and `erase` from
the empty one holds each name once.
-/

/-- A map from names to values, as the list of its entries in order. -/
structure OrderedMap (α : Type) where
  entries : List (String × α)
deriving Repr, BEq

namespace OrderedMap

variable {α : Type}

def empty : OrderedMap α :=
  ⟨[]⟩

instance : Inhabited (OrderedMap α) :=
  ⟨empty⟩

def keys (m : OrderedMap α) : List String :=
  m.entries.map Prod.fst

def values (m : OrderedMap α) : List α :=
  m.entries.map Prod.snd

def size (m : OrderedMap α) : Nat :=
  m.entries.length

def isEmpty (m : OrderedMap α) : Bool :=
  m.entries.isEmpty

/-- The value of the first entry with a name. -/
def lookup (key : String) : List (String × α) → Option α
  | [] => none
  | (name, value) :: rest => if name = key then some value else lookup key rest

def get? (m : OrderedMap α) (key : String) : Option α :=
  lookup key m.entries

def contains (m : OrderedMap α) (key : String) : Bool :=
  (m.get? key).isSome

/-- Give the first entry with a name another value, or add an entry at the end. -/
def insertEntry (key : String) (value : α) : List (String × α) → List (String × α)
  | [] => [(key, value)]
  | (name, old) :: rest =>
    if name = key then (name, value) :: rest else (name, old) :: insertEntry key value rest

def insert (m : OrderedMap α) (key : String) (value : α) : OrderedMap α :=
  ⟨insertEntry key value m.entries⟩

/-- Drop the first entry with a name. -/
def eraseEntry (key : String) : List (String × α) → List (String × α)
  | [] => []
  | (name, value) :: rest => if name = key then rest else (name, value) :: eraseEntry key rest

def erase (m : OrderedMap α) (key : String) : OrderedMap α :=
  ⟨eraseEntry key m.entries⟩

/-- Put a value under a name, and tell which value it replaces. -/
def replace (m : OrderedMap α) (key : String) (value : α) : Option α × OrderedMap α :=
  (m.get? key, m.insert key value)

/-- Take a name out of the map, and tell which value was there. -/
def take (m : OrderedMap α) (key : String) : Option α × OrderedMap α :=
  (m.get? key, m.erase key)

/-- Change the value under a name, if there is one. -/
def modify (m : OrderedMap α) (key : String) (change : α → α) : OrderedMap α :=
  match m.get? key with
  | some value => m.insert key (change value)
  | none => m

/-- Insert the pairs of a list, first to last. -/
def insertAll (m : OrderedMap α) (pairs : List (String × α)) : OrderedMap α :=
  pairs.foldl (fun m pair => m.insert pair.1 pair.2) m

/-- The map that holds the pairs of a list: a name that comes again keeps its first place
and takes its last value. -/
def ofList (pairs : List (String × α)) : OrderedMap α :=
  empty.insertAll pairs

/-- The entries for which a test holds. -/
def filter (test : String → α → Bool) (m : OrderedMap α) : OrderedMap α :=
  ⟨m.entries.filter fun entry => test entry.1 entry.2⟩

theorem lookup_insertEntry_self (key : String) (value : α) (entries : List (String × α)) :
    lookup key (insertEntry key value entries) = some value := by
  induction entries with
  | nil => simp [insertEntry, lookup]
  | cons entry rest inductionHypothesis =>
    obtain ⟨name, old⟩ := entry
    by_cases here : name = key
    · simp [insertEntry, lookup, here]
    · simp [insertEntry, lookup, here, inductionHypothesis]

theorem lookup_insertEntry_of_ne {key other : String} (value : α) (different : other ≠ key)
    (entries : List (String × α)) :
    lookup other (insertEntry key value entries) = lookup other entries := by
  induction entries with
  | nil => simp [insertEntry, lookup, different.symm]
  | cons entry rest inductionHypothesis =>
    obtain ⟨name, old⟩ := entry
    by_cases here : name = key
    · subst here
      simp [insertEntry, lookup, different.symm]
    · simp [insertEntry, lookup, here, inductionHypothesis]

@[simp]
theorem get?_insert_self (m : OrderedMap α) (key : String) (value : α) :
    (m.insert key value).get? key = some value :=
  lookup_insertEntry_self key value m.entries

theorem get?_insert_of_ne (m : OrderedMap α) {key other : String} (value : α)
    (different : other ≠ key) : (m.insert key value).get? other = m.get? other :=
  lookup_insertEntry_of_ne value different m.entries

theorem get?_eq_none_iff (m : OrderedMap α) (key : String) : m.get? key = none ↔ key ∉ m.keys := by
  rw [get?, keys]
  induction m.entries with
  | nil => simp [lookup]
  | cons entry rest inductionHypothesis =>
    obtain ⟨name, value⟩ := entry
    by_cases here : name = key
    · simp [lookup, here]
    · simp [lookup, here, inductionHypothesis, Ne.symm here]

theorem keys_insert (m : OrderedMap α) (key : String) (value : α) :
    (m.insert key value).keys = if key ∈ m.keys then m.keys else m.keys ++ [key] := by
  rw [insert, keys, keys]
  induction m.entries with
  | nil => simp [insertEntry]
  | cons entry rest inductionHypothesis =>
    obtain ⟨name, old⟩ := entry
    by_cases here : name = key
    · simp [insertEntry, here]
    · by_cases member : key ∈ rest.map Prod.fst
      · simp [insertEntry, here, Ne.symm here, inductionHypothesis, member]
      · simp [insertEntry, here, Ne.symm here, inductionHypothesis, member]

theorem keys_erase (m : OrderedMap α) (key : String) : (m.erase key).keys = m.keys.erase key := by
  rw [erase, keys, keys]
  induction m.entries with
  | nil => rfl
  | cons entry rest inductionHypothesis =>
    obtain ⟨name, value⟩ := entry
    by_cases here : name = key
    · simp [eraseEntry, here]
    · simp [eraseEntry, here, inductionHypothesis]

theorem get?_erase_of_ne (m : OrderedMap α) {key other : String} (different : other ≠ key) :
    (m.erase key).get? other = m.get? other := by
  rw [erase, get?, get?]
  induction m.entries with
  | nil => rfl
  | cons entry rest inductionHypothesis =>
    obtain ⟨name, value⟩ := entry
    by_cases here : name = key
    · subst here
      simp [eraseEntry, lookup, different.symm]
    · simp [eraseEntry, lookup, here, inductionHypothesis]

theorem get?_modify_self (m : OrderedMap α) (key : String) (change : α → α) :
    (m.modify key change).get? key = (m.get? key).map change := by
  rw [modify]
  cases found : m.get? key with
  | none => exact found
  | some value => simp

theorem get?_modify_of_ne (m : OrderedMap α) {key other : String} (change : α → α)
    (different : other ≠ key) : (m.modify key change).get? other = m.get? other := by
  rw [modify]
  cases m.get? key with
  | none => rfl
  | some value => exact m.get?_insert_of_ne _ different

/-- Each name is held once. -/
def Distinct (m : OrderedMap α) : Prop :=
  m.keys.Nodup

theorem distinct_empty : (empty : OrderedMap α).Distinct :=
  List.nodup_nil

theorem Distinct.insert {m : OrderedMap α} (distinct : m.Distinct) (key : String) (value : α) :
    (m.insert key value).Distinct := by
  rw [Distinct, keys_insert]
  split
  · exact distinct
  · rename_i absent
    refine List.nodup_append.mpr ⟨distinct, by simp, ?_⟩
    intro name member other last
    rw [List.mem_singleton.mp last]
    rintro rfl
    exact absent member

theorem Distinct.erase {m : OrderedMap α} (distinct : m.Distinct) (key : String) :
    (m.erase key).Distinct := by
  rw [Distinct, keys_erase]
  exact List.Nodup.erase key distinct

theorem Distinct.modify {m : OrderedMap α} (distinct : m.Distinct) (key : String)
    (change : α → α) : (m.modify key change).Distinct := by
  rw [OrderedMap.modify]
  cases m.get? key with
  | none => exact distinct
  | some value => exact distinct.insert key _

theorem Distinct.get?_erase_self {m : OrderedMap α} (distinct : m.Distinct) (key : String) :
    (m.erase key).get? key = none := by
  rw [get?_eq_none_iff, keys_erase]
  exact List.Nodup.not_mem_erase distinct

end OrderedMap
end DocumentQuery
