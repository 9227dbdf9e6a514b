import DocumentQuery.OrderedMap
import Mathlib.Data.List.Induction
import Mathlib.Data.List.Nodup

namespace DocumentQuery
namespace OrderedMap

/-!
# Maps by their entries

While the names that are inserted are new, inserting is appending.  So a row that is built from
another one by a run of insertions has the entries of the other one in their order, under the names
that they are given (`renamed`), and what is found in it is found there.

A name that is inserted again keeps its place and takes the new value, and erasing a name closes the
gap.  So a map that is made from pairs has each name where it comes first, with the value that comes
last.
-/

variable {α : Type} {m : OrderedMap α} {key : String}

instance : Decidable m.Distinct :=
  inferInstanceAs (Decidable m.keys.Nodup)

theorem contains_iff : m.contains key = true ↔ key ∈ m.keys := by
  rw [contains, Option.isSome_iff_ne_none, Ne, get?_eq_none_iff, not_not]

theorem mem_keys_of_get? {value : α} (found : m.get? key = some value) : key ∈ m.keys :=
  contains_iff.mp (by rw [contains, found]; rfl)

theorem exists_of_mem_keys (member : key ∈ m.keys) : ∃ value, m.get? key = some value :=
  Option.isSome_iff_exists.mp (contains_iff.mpr member)

theorem lookup_append (first second : List (String × α)) :
    lookup key (first ++ second) = (lookup key first).or (lookup key second) := by
  induction first with
  | nil => rfl
  | cons entry rest inductionHypothesis =>
      rcases entry with ⟨name, value⟩
      rw [List.cons_append, lookup, lookup]
      by_cases same : name = key
      · rw [if_pos same, if_pos same, Option.some_or]
      · rw [if_neg same, if_neg same, inductionHypothesis]

/-- In a map that gives each of some names its value, each of them is found. -/
theorem get?_tabulate {names : List String} (value : String → α) (member : key ∈ names) :
    (⟨names.map fun name => (name, value name)⟩ : OrderedMap α).get? key = some (value key) := by
  change lookup key (names.map fun name => (name, value name)) = _
  induction names with
  | nil => exact nomatch member
  | cons name rest inductionHypothesis =>
      rw [List.map_cons, lookup]
      by_cases same : name = key
      · rw [if_pos same, same]
      · rw [if_neg same]
        exact inductionHypothesis ((List.mem_cons.mp member).resolve_left (Ne.symm same))

theorem keys_modify (change : α → α) : (m.modify key change).keys = m.keys := by
  rw [modify]
  cases found : m.get? key with
  | none => rfl
  | some value =>
      exact (m.keys_insert key _).trans (if_pos (mem_keys_of_get? found))

/-! ## Renamed entries -/

/-- The entries under the names that theirs are mapped to, without those that get none. -/
def renamed (rename : String → Option String) (m : OrderedMap α) : OrderedMap α :=
  ⟨m.entries.filterMap fun entry => (rename entry.1).map fun name => (name, entry.2)⟩

variable {rename : String → Option String}

theorem keys_renamed : (m.renamed rename).keys = m.keys.filterMap rename := by
  rw [keys, keys, renamed, List.map_filterMap, List.filterMap_map]
  congr 1
  funext entry
  rw [Option.map_map, Function.comp_apply]
  exact Option.map_id'

theorem mem_keys_renamed :
    key ∈ (m.renamed rename).keys ↔ ∃ name ∈ m.keys, rename name = some key := by
  rw [keys_renamed, List.mem_filterMap]

/-- An entry is found under its new name, if it is the only one that gets this name. -/
theorem get?_renamed {name : String}
    (only : ∀ other ∈ m.keys, rename other = some key ↔ other = name) :
    (m.renamed rename).get? key = m.get? name := by
  rcases m with ⟨entries⟩
  change lookup key (entries.filterMap _) = lookup name entries
  induction entries with
  | nil => rfl
  | cons entry rest inductionHypothesis =>
      rcases entry with ⟨other, value⟩
      have first := only other List.mem_cons_self
      have later := inductionHypothesis fun other member =>
        only other (List.mem_cons_of_mem _ member)
      rw [lookup, List.filterMap_cons]
      cases renamed : rename other with
      | none =>
          have notName : other ≠ name := fun same =>
            Option.some_ne_none key ((first.mpr same).symm.trans renamed)
          rw [if_neg notName]
          exact later
      | some new =>
          rw [Option.map_some, lookup]
          by_cases same : other = name
          · have found : new = key := Option.some.inj (renamed.symm.trans (first.mpr same))
            rw [if_pos found, if_pos same]
          · have notKey : new ≠ key := fun found =>
              same (first.mp (renamed.trans (congrArg _ found)))
            rw [if_neg notKey, if_neg same, later]

/-- A name that no entry gets is not found. -/
theorem get?_renamed_eq_none (noOne : ∀ other ∈ m.keys, rename other ≠ some key) :
    (m.renamed rename).get? key = none := by
  rw [get?_eq_none_iff, mem_keys_renamed]
  rintro ⟨other, member, same⟩
  exact noOne other member same

theorem Distinct.renamed (distinct : m.Distinct)
    (injective : ∀ first second name : String,
      rename first = some name → rename second = some name → first = second) :
    (m.renamed rename).Distinct := by
  rw [Distinct, keys_renamed]
  exact List.Nodup.filterMap (fun first second name => injective first second name) distinct

/-! ## Insertion of new names -/

theorem insert_of_notMem (value : α) (fresh : key ∉ m.keys) :
    m.insert key value = ⟨m.entries ++ [(key, value)]⟩ := by
  rcases m with ⟨entries⟩
  rw [insert]
  congr 1
  induction entries with
  | nil => rfl
  | cons entry rest inductionHypothesis =>
      rcases entry with ⟨name, old⟩
      rw [keys, List.map_cons, List.mem_cons, not_or] at fresh
      rw [insertEntry, if_neg (Ne.symm fresh.1), inductionHypothesis fresh.2, List.cons_append]

/-- Pairs with new and different names become the last entries. -/
theorem insertAll_of_nodup {pairs : List (String × α)}
    (fresh : (m.keys ++ pairs.map Prod.fst).Nodup) : m.insertAll pairs = ⟨m.entries ++ pairs⟩ := by
  induction pairs generalizing m with
  | nil => rw [insertAll, List.foldl_nil, List.append_nil]
  | cons pair rest inductionHypothesis =>
      have notMember : pair.1 ∉ m.keys := fun member =>
        (List.nodup_append.mp fresh).2.2 _ member _ List.mem_cons_self rfl
      have keys_eq : (⟨m.entries ++ [pair]⟩ : OrderedMap α).keys = m.keys ++ [pair.1] :=
        List.map_append
      have later := inductionHypothesis (m := ⟨m.entries ++ [pair]⟩) (by
        rw [keys_eq, List.append_assoc]
        exact fresh)
      change (m.insert pair.1 pair.2).insertAll rest = _
      rw [insert_of_notMem pair.2 notMember, later, List.append_assoc]
      rfl

theorem ofList_of_nodup {pairs : List (String × α)} (distinct : (pairs.map Prod.fst).Nodup) :
    ofList pairs = ⟨pairs⟩ :=
  insertAll_of_nodup (m := empty) distinct

theorem Distinct.insertAll {pairs : List (String × α)} (distinct : m.Distinct) :
    (m.insertAll pairs).Distinct := by
  induction pairs generalizing m with
  | nil => exact distinct
  | cons pair rest inductionHypothesis => exact inductionHypothesis (distinct.insert pair.1 pair.2)

/-- A map keeps all pairs that it is made from exactly if no two of them have one name. -/
theorem entries_ofList_iff {pairs : List (String × α)} :
    (ofList pairs).entries = pairs ↔ (pairs.map Prod.fst).Nodup := by
  constructor
  · intro kept
    have distinct : (ofList pairs).Distinct := distinct_empty.insertAll
    rwa [Distinct, keys, kept] at distinct
  · intro distinct
    rw [ofList_of_nodup distinct]

/-! ## Where entries are -/

theorem map_entries_of_notMem {entries : List (String × α)} (fresh : key ∉ entries.map Prod.fst)
    (value : α) :
    (entries.map fun entry => if entry.1 = key then (key, value) else entry) = entries := by
  have others : ∀ entry ∈ entries, (if entry.1 = key then (key, value) else entry) = entry := by
    intro entry member
    apply if_neg
    intro same
    exact fresh (List.mem_map.mpr ⟨entry, member, same⟩)
  rw [List.map_congr_left others, List.map_id']

section

variable (distinct : m.Distinct)
include distinct

/-- A value that is put under a name that is there takes the place of the old one. -/
theorem entries_insert_of_mem (member : key ∈ m.keys) (value : α) :
    (m.insert key value).entries =
      m.entries.map fun entry => if entry.1 = key then (key, value) else entry := by
  rcases m with ⟨entries⟩
  change insertEntry key value entries = _
  induction entries with
  | nil => exact nomatch member
  | cons entry rest inductionHypothesis =>
      rcases entry with ⟨name, old⟩
      rcases List.nodup_cons.mp distinct with ⟨fresh, later⟩
      rw [insertEntry, List.map_cons]
      by_cases same : name = key
      · subst same
        rw [if_pos rfl, if_pos rfl, map_entries_of_notMem fresh]
      · have memberLater : key ∈ (⟨rest⟩ : OrderedMap α).keys :=
          (List.mem_cons.mp member).resolve_left (Ne.symm same)
        rw [if_neg same, if_neg same, inductionHypothesis later memberLater]

theorem entries_modify (key : String) (value : α) :
    (m.modify key fun _ => value).entries =
      m.entries.map fun entry => if entry.1 = key then (key, value) else entry := by
  rw [modify]
  cases found : m.get? key with
  | some old => exact entries_insert_of_mem distinct (mem_keys_of_get? found) value
  | none => exact (map_entries_of_notMem ((m.get?_eq_none_iff key).mp found) value).symm

/-- The entries that are not erased stay in their order. -/
theorem entries_erase (key : String) :
    (m.erase key).entries = m.entries.filter fun entry => entry.1 ≠ key := by
  rcases m with ⟨entries⟩
  change eraseEntry key entries = _
  induction entries with
  | nil => rfl
  | cons entry rest inductionHypothesis =>
      rcases entry with ⟨name, value⟩
      rcases List.nodup_cons.mp distinct with ⟨fresh, later⟩
      rw [eraseEntry]
      by_cases same : name = key
      · subst same
        have others : ∀ entry ∈ rest, decide (entry.1 ≠ name) = true := by
          intro entry member
          apply decide_eq_true
          intro isName
          exact fresh (List.mem_map.mpr ⟨entry, member, isName⟩)
        rw [if_pos rfl, List.filter_cons_of_neg (by simp), List.filter_eq_self.mpr others]
      · rw [if_neg same, List.filter_cons_of_pos (by simp [same]), inductionHypothesis later]

end

/-! ## Names that come again -/

/-- Of names in their order the last one is new if it has not come before. -/
theorem eraseDups_concat (names : List String) (name : String) :
    (names ++ [name]).eraseDups =
      if name ∈ names then names.eraseDups else names.eraseDups ++ [name] := by
  rw [List.eraseDups_append]
  split
  · rename_i member
    have nothing : [name].removeAll names = [] := by simp [List.removeAll, member]
    rw [nothing, List.eraseDups_nil, List.append_nil]
  · rename_i fresh
    have new : [name].removeAll names = [name] := by simp [List.removeAll, fresh]
    rw [new]
    rfl

theorem nodup_eraseDups (names : List String) : names.eraseDups.Nodup := by
  induction names using List.reverseRecOn with
  | nil => exact List.nodup_nil
  | append_singleton names name inductionHypothesis =>
      rw [eraseDups_concat]
      split
      · exact inductionHypothesis
      · rename_i fresh
        have notMember : name ∉ names.eraseDups := mt List.mem_eraseDups.mp fresh
        rw [← List.concat_eq_append]
        exact inductionHypothesis.concat notMember

theorem insertAll_append (m : OrderedMap α) (pairs more : List (String × α)) :
    m.insertAll (pairs ++ more) = (m.insertAll pairs).insertAll more :=
  List.foldl_append

theorem ofList_concat (pairs : List (String × α)) (pair : String × α) :
    ofList (pairs ++ [pair]) = (ofList pairs).insert pair.1 pair.2 :=
  insertAll_append empty pairs [pair]

/-- A name has the place where it comes first. -/
theorem keys_ofList (pairs : List (String × α)) :
    (ofList pairs).keys = (pairs.map Prod.fst).eraseDups := by
  induction pairs using List.reverseRecOn with
  | nil => rfl
  | append_singleton pairs pair inductionHypothesis =>
      rw [ofList_concat, keys_insert, inductionHypothesis, List.map_append, List.map_singleton,
        eraseDups_concat]
      simp only [List.mem_eraseDups]

/-- A name has the value that comes last. -/
theorem get?_ofList (pairs : List (String × α)) (key : String) :
    (ofList pairs).get? key = lookup key pairs.reverse := by
  induction pairs using List.reverseRecOn with
  | nil => rfl
  | append_singleton pairs pair inductionHypothesis =>
      rw [ofList_concat, List.reverse_append, List.reverse_singleton, List.singleton_append]
      rcases pair with ⟨name, value⟩
      rw [lookup, ← inductionHypothesis]
      by_cases same : name = key
      · rw [if_pos same, same, get?_insert_self]
      · rw [if_neg same, get?_insert_of_ne _ _ (Ne.symm same)]

/-! ## Looking up is finding -/

theorem lookup_eq_find? (key : String) (entries : List (String × α)) :
    lookup key entries = (entries.find? fun entry => entry.1 = key).map Prod.snd := by
  induction entries with
  | nil => rfl
  | cons entry rest inductionHypothesis =>
      rcases entry with ⟨name, value⟩
      rw [lookup]
      by_cases same : name = key
      · simp [same]
      · simp [same, inductionHypothesis]

theorem lookup_eq_some_iff {entries : List (String × α)} {value : α} :
    lookup key entries = some value ↔
      (entries.find? fun entry => entry.1 = key) = some (key, value) := by
  rw [lookup_eq_find?, Option.map_eq_some_iff]
  constructor
  · rintro ⟨⟨name, _⟩, found, rfl⟩
    have same : name = key := by simpa using List.find?_some found
    rw [found, same]
  · intro found
    exact ⟨_, found, rfl⟩

/-- A map whose names are different finds all of its entries. -/
theorem Distinct.mem_entries_iff (distinct : m.Distinct) {value : α} :
    (key, value) ∈ m.entries ↔ m.get? key = some value := by
  rcases m with ⟨entries⟩
  change (key, value) ∈ entries ↔ lookup key entries = some value
  constructor
  · intro member
    induction entries with
    | nil => exact nomatch member
    | cons entry rest inductionHypothesis =>
        rcases entry with ⟨name, other⟩
        rcases List.nodup_cons.mp distinct with ⟨fresh, later⟩
        rw [lookup]
        rcases List.mem_cons.mp member with first | inRest
        · cases first
          exact if_pos rfl
        · have notFirst : name ≠ key := by
            rintro rfl
            exact fresh (List.mem_map.mpr ⟨_, inRest, rfl⟩)
          rw [if_neg notFirst]
          exact inductionHypothesis later inRest
  · intro found
    exact List.mem_of_find?_eq_some (lookup_eq_some_iff.mp found)

end OrderedMap
end DocumentQuery
