import DocumentQuery.Proofs.Rows.Entries
import DocumentQuery.Value.Basic

namespace DocumentQuery
namespace OrderedMap

/-!
# Maps after any edits

A map is changed by edits under one name each.  What it holds after a run of edits can be read off
the run alone.  A name is held if it was put into the map and not taken out since.  It has the value
of the last edit that wrote under it, and assigning is writing only while the name is held.  The
names are in the order in which each of them was new the last time.

`Since` is the one way in which the history is looked at: something has happened, and no later edit
has undone it.  One more edit either makes it happen or keeps it, so each of the three facts about a
map (`Recalls`) is carried from edit to edit by the same law.
-/

variable {α : Type}

/-- A change of a map under one name. -/
inductive Edit (α : Type) where
  | replace (key : String) (value : α)
  | insert (key : String) (value : α)
  | take (key : String)
  | assign (key : String) (value : α)

namespace Edit

/-- The name under which the map is changed. -/
def key : Edit α → String
  | replace key _ => key
  | insert key _ => key
  | take key => key
  | assign key _ => key

/-- The edit puts a value under a name, whether the name is new or not. -/
def Puts (edit : Edit α) (key : String) (value : α) : Prop :=
  edit = .replace key value ∨ edit = .insert key value

theorem Puts.key_eq {edit : Edit α} {key : String} {value : α} (puts : edit.Puts key value) :
    edit.key = key := by
  rcases puts with rfl | rfl <;> rfl

end Edit

/-- The map after an edit.  Only a name that is there can be assigned a value. -/
def after (m : OrderedMap α) : Edit α → OrderedMap α
  | .replace key value => (m.replace key value).2
  | .insert key value => m.insert key value
  | .take key => (m.take key).2
  | .assign key value => m.modify key fun _ => value

/-- The map after some edits, first to last. -/
def afterAll (m : OrderedMap α) (edits : List (Edit α)) : OrderedMap α :=
  edits.foldl after m

/-! ## Histories -/

/-- Something has happened in an edit, and each later edit has kept it.  What happens may depend
on the edits before. -/
def Since (happens : List (Edit α) → Edit α → Prop) (keeps : Edit α → Prop)
    (history : List (Edit α)) : Prop :=
  ∃ before edit later, history = before ++ edit :: later ∧ happens before edit ∧
    ∀ other ∈ later, keeps other

/-- The name was put into the map and has not been taken out since. -/
def Held (history : List (Edit α)) (key : String) : Prop :=
  Since (fun _ edit => ∃ value, edit.Puts key value) (· ≠ .take key) history

/-- The value is the last one that was put under the name, or assigned while the name was held, and
nothing has been done under the name since. -/
def LastWritten (history : List (Edit α)) (key : String) (value : α) : Prop :=
  Since (fun before edit => edit.Puts key value ∨ edit = .assign key value ∧ Held before key)
    (·.key ≠ key) history

/-- The name was new with the edit at a place of the history, and has not been taken out since. -/
def AddedAt (history : List (Edit α)) (key : String) (place : Nat) : Prop :=
  Since (fun before edit => before.length = place ∧ (∃ value, edit.Puts key value) ∧
    ¬ Held before key) (· ≠ .take key) history

section

variable {happens : List (Edit α) → Edit α → Prop} {keeps : Edit α → Prop}
  {history : List (Edit α)} {last : Edit α} {key : String}

theorem since_nil : ¬ Since happens keeps [] := by
  rintro ⟨before, edit, later, split, _⟩
  simp at split

/-- With one more edit something happens, or it has happened before and is kept. -/
theorem since_concat : Since happens keeps (history ++ [last]) ↔
    happens history last ∨ Since happens keeps history ∧ keeps last := by
  constructor
  · rintro ⟨before, edit, later, split, happened, kept⟩
    rcases List.eq_nil_or_concat' later with rfl | ⟨others, other, rfl⟩
    · rcases List.append_inj' split rfl with ⟨rfl, same⟩
      cases same
      exact .inl happened
    · rw [← List.cons_append, ← List.append_assoc] at split
      rcases List.append_inj' split rfl with ⟨rfl, same⟩
      cases same
      refine .inr ⟨⟨before, edit, others, rfl, happened, ?_⟩, kept _ (by simp)⟩
      intro other member
      exact kept other (List.mem_append_left _ member)
  · rintro (happened | ⟨⟨before, edit, later, rfl, happened, kept⟩, keepsLast⟩)
    · exact ⟨history, last, [], rfl, happened, nofun⟩
    · refine ⟨before, edit, later ++ [last], by simp, happened, ?_⟩
      intro other member
      rcases List.mem_append.mp member with earlier | isLast
      · exact kept other earlier
      · rw [List.mem_singleton.mp isLast]
        exact keepsLast

theorem held_concat : Held (history ++ [last]) key ↔
    (∃ value, last.Puts key value) ∨ Held history key ∧ last ≠ .take key :=
  since_concat

theorem lastWritten_concat {value : α} : LastWritten (history ++ [last]) key value ↔
    (last.Puts key value ∨ last = .assign key value ∧ Held history key) ∨
      LastWritten history key value ∧ last.key ≠ key :=
  since_concat

theorem addedAt_concat {place : Nat} : AddedAt (history ++ [last]) key place ↔
    (history.length = place ∧ (∃ value, last.Puts key value) ∧ ¬ Held history key) ∨
      AddedAt history key place ∧ last ≠ .take key :=
  since_concat

/-! ## Places in a history -/

theorem AddedAt.lt_length {place : Nat} (added : AddedAt history key place) :
    place < history.length := by
  rcases added with ⟨before, edit, later, rfl, ⟨rfl, _⟩, _⟩
  simp

theorem AddedAt.held {place : Nat} (added : AddedAt history key place) : Held history key := by
  rcases added with ⟨before, edit, later, split, ⟨_, puts, _⟩, kept⟩
  exact ⟨before, edit, later, split, puts, kept⟩

/-- While a name is held it is not new again. -/
theorem AddedAt.unique {place other : Nat} (added : AddedAt history key place)
    (addedToo : AddedAt history key other) : place = other := by
  induction history using List.reverseRecOn generalizing place other with
  | nil => exact absurd added since_nil
  | append_singleton history last inductionHypothesis =>
      rcases addedAt_concat.mp added with ⟨rfl, _, new⟩ | ⟨earlier, _⟩
      · rcases addedAt_concat.mp addedToo with ⟨rfl, _⟩ | ⟨earlier, _⟩
        · rfl
        · exact absurd earlier.held new
      · rcases addedAt_concat.mp addedToo with ⟨_, _, new⟩ | ⟨earlierToo, _⟩
        · exact absurd earlier.held new
        · exact inductionHypothesis earlier earlierToo

theorem Held.exists_addedAt (held : Held history key) : ∃ place, AddedAt history key place := by
  induction history using List.reverseRecOn with
  | nil => exact absurd held since_nil
  | append_singleton history last inductionHypothesis =>
      by_cases heldBefore : Held history key
      · have kept : last ≠ .take key := by
          rintro rfl
          rcases held_concat.mp held with ⟨value, puts | puts⟩ | ⟨_, kept⟩
          · exact nomatch puts
          · exact nomatch puts
          · exact kept rfl
        rcases inductionHypothesis heldBefore with ⟨place, added⟩
        exact ⟨place, addedAt_concat.mpr (.inr ⟨added, kept⟩)⟩
      · rcases held_concat.mp held with puts | ⟨before, _⟩
        · exact ⟨history.length, addedAt_concat.mpr (.inl ⟨rfl, puts, heldBefore⟩)⟩
        · exact absurd before heldBefore

end

/-! ## What a map recalls of its history -/

/-- The names, the values and the order of a map are those that its history tells. -/
structure Recalls (history : List (Edit α)) (m : OrderedMap α) : Prop where
  distinct : m.Distinct
  mem_keys_iff : ∀ key, key ∈ m.keys ↔ Held history key
  get?_iff : ∀ key value, m.get? key = some value ↔ LastWritten history key value
  ordered : m.keys.Pairwise fun first second => ∃ i j,
    AddedAt history first i ∧ AddedAt history second j ∧ i < j

namespace Recalls

variable {history : List (Edit α)} {m : OrderedMap α}

theorem nil : Recalls [] (empty : OrderedMap α) where
  distinct := distinct_empty
  mem_keys_iff _ := iff_of_false List.not_mem_nil since_nil
  get?_iff _ _ := iff_of_false nofun since_nil
  ordered := List.Pairwise.nil

/-- Names that are not taken out stay in their order. -/
theorem ordered_concat (recalls : Recalls history m) {names : List String} {last : Edit α}
    (sublist : names.Sublist m.keys) (kept : ∀ name ∈ names, last ≠ .take name) :
    names.Pairwise fun first second => ∃ i j,
      AddedAt (history ++ [last]) first i ∧ AddedAt (history ++ [last]) second j ∧ i < j := by
  refine (recalls.ordered.sublist sublist).imp_of_mem ?_
  rintro first second firstMember secondMember ⟨i, j, firstAdded, secondAdded, before⟩
  have firstStays := addedAt_concat.mpr (.inr ⟨firstAdded, kept first firstMember⟩)
  have secondStays := addedAt_concat.mpr (.inr ⟨secondAdded, kept second secondMember⟩)
  exact ⟨i, j, firstStays, secondStays, before⟩

theorem put (recalls : Recalls history m) {last : Edit α} {key : String} {value : α}
    (puts : last.Puts key value) : Recalls (history ++ [last]) (m.insert key value) := by
  have notTaken (name : String) : last ≠ .take name := by
    rcases puts with rfl | rfl <;> exact nofun
  have notAssigned (name : String) (other : α) : last ≠ .assign name other := by
    rcases puts with rfl | rfl <;> exact nofun
  have puts_iff (name : String) (other : α) :
      last.Puts name other ↔ name = key ∧ other = value := by
    rcases puts with rfl | rfl <;> simp [Edit.Puts, eq_comm]
  have stays := recalls.ordered_concat (List.Sublist.refl _) fun name _ => notTaken name
  constructor
  · exact recalls.distinct.insert key value
  · intro name
    have held_iff : Held (history ++ [last]) name ↔ name = key ∨ name ∈ m.keys := by
      simp [held_concat, puts_iff, notTaken, recalls.mem_keys_iff]
    rw [held_iff, keys_insert]
    split
    · rename_i member
      exact ⟨.inr, fun held => held.elim (fun same => same ▸ member) id⟩
    · rw [List.mem_append, List.mem_singleton, or_comm]
  · intro name other
    have written_iff : LastWritten (history ++ [last]) name other ↔
        name = key ∧ other = value ∨ m.get? name = some other ∧ key ≠ name := by
      simp [lastWritten_concat, puts_iff, puts.key_eq, notAssigned, recalls.get?_iff]
    rw [written_iff]
    by_cases same : name = key
    · rw [same, m.get?_insert_self]
      simp [eq_comm]
    · rw [m.get?_insert_of_ne value same]
      simp [same, Ne.symm same]
  · rw [keys_insert]
    split
    · exact stays
    · rename_i fresh
      -- all the other names were new at earlier places
      refine List.pairwise_append.mpr ⟨stays, List.pairwise_singleton _ _, ?_⟩
      intro first member second isKey
      rw [List.mem_singleton.mp isKey]
      have new : ¬ Held history key := mt (recalls.mem_keys_iff key).mpr fresh
      have addedLast := addedAt_concat.mpr (.inl ⟨rfl, ⟨value, puts⟩, new⟩)
      rcases ((recalls.mem_keys_iff first).mp member).exists_addedAt with ⟨place, added⟩
      have firstStays := addedAt_concat.mpr (.inr ⟨added, notTaken first⟩)
      exact ⟨place, history.length, firstStays, addedLast, added.lt_length⟩

theorem taken (recalls : Recalls history m) (key : String) :
    Recalls (history ++ [.take key]) (m.erase key) := by
  have notPut (name : String) (value : α) : ¬ (Edit.take key).Puts name value := by
    rintro (puts | puts) <;> exact nomatch puts
  have mem_erase_iff (name : String) : name ∈ m.keys.erase key ↔ name ≠ key ∧ name ∈ m.keys :=
    List.Nodup.mem_erase_iff recalls.distinct
  constructor
  · exact recalls.distinct.erase key
  · intro name
    rw [keys_erase, mem_erase_iff, recalls.mem_keys_iff, held_concat]
    simp [notPut, and_comm, eq_comm]
  · intro name value
    have written_iff : LastWritten (history ++ [.take key]) name value ↔
        m.get? name = some value ∧ key ≠ name := by
      simp [lastWritten_concat, notPut, recalls.get?_iff, Edit.key]
    rw [written_iff]
    by_cases same : name = key
    · rw [same, recalls.distinct.get?_erase_self key]
      simp
    · rw [m.get?_erase_of_ne same]
      exact (and_iff_left (Ne.symm same)).symm
  · rw [keys_erase]
    apply recalls.ordered_concat List.erase_sublist
    intro name member sameEdit
    exact ((mem_erase_iff name).mp member).1 (Edit.take.inj sameEdit).symm

theorem assigned (recalls : Recalls history m) (key : String) (value : α) :
    Recalls (history ++ [.assign key value]) (m.modify key fun _ => value) := by
  have notPut (name : String) (other : α) : ¬ (Edit.assign key value).Puts name other := by
    rintro (puts | puts) <;> exact nomatch puts
  constructor
  · exact recalls.distinct.modify key _
  · intro name
    rw [keys_modify, held_concat, recalls.mem_keys_iff]
    simp [notPut]
  · intro name other
    have written_iff : LastWritten (history ++ [.assign key value]) name other ↔
        (key = name ∧ value = other) ∧ name ∈ m.keys ∨ m.get? name = some other ∧ key ≠ name := by
      simp [lastWritten_concat, notPut, recalls.mem_keys_iff, recalls.get?_iff, Edit.key]
    rw [written_iff]
    by_cases same : name = key
    · have found_iff : (∃ old, m.get? key = some old) ↔ key ∈ m.keys :=
        ⟨fun ⟨_, found⟩ => mem_keys_of_get? found, exists_of_mem_keys⟩
      rw [same, m.get?_modify_self, Option.map_eq_some_iff, exists_and_right, found_iff]
      simp [and_comm]
    · rw [m.get?_modify_of_ne _ same]
      simp [Ne.symm same]
  · rw [keys_modify]
    exact recalls.ordered_concat (List.Sublist.refl _) fun _ _ => nofun

theorem after (recalls : Recalls history m) (last : Edit α) :
    Recalls (history ++ [last]) (m.after last) := by
  cases last with
  | replace key value => exact recalls.put (.inl rfl)
  | insert key value => exact recalls.put (.inr rfl)
  | take key => exact recalls.taken key
  | assign key value => exact recalls.assigned key value

theorem afterAll (recalls : Recalls history m) (edits : List (Edit α)) :
    Recalls (history ++ edits) (m.afterAll edits) := by
  induction edits generalizing history m with
  | nil =>
      rw [List.append_nil]
      exact recalls
  | cons edit rest inductionHypothesis =>
      have later := inductionHypothesis (recalls.after edit)
      rw [List.append_assoc] at later
      exact later

/-- A map that is made from pairs comes from putting in each of them. -/
theorem ofList (pairs : List (String × α)) :
    Recalls (pairs.map fun pair => .insert pair.1 pair.2) (OrderedMap.ofList pairs) := by
  have made := nil.afterAll (pairs.map fun pair => .insert pair.1 pair.2)
  rw [List.nil_append, OrderedMap.afterAll, List.foldl_map] at made
  exact made

/-- Of two names the one that was new earlier comes first. -/
theorem sublist_iff (recalls : Recalls history m) (first second : String) :
    [first, second].Sublist m.keys ↔
      ∃ i j, AddedAt history first i ∧ AddedAt history second j ∧ i < j := by
  constructor
  · intro sublist
    exact List.pairwise_iff_forall_sublist.mp recalls.ordered sublist
  · rintro ⟨i, j, firstAdded, secondAdded, before⟩
    have firstMember := (recalls.mem_keys_iff first).mpr firstAdded.held
    have secondMember := (recalls.mem_keys_iff second).mpr secondAdded.held
    rcases List.append_of_mem firstMember with ⟨front, back, split⟩
    rw [split, List.mem_append, List.mem_cons] at secondMember
    rcases secondMember with inFront | same | inBack
    · have turned : [second, first].Sublist m.keys := by
        rw [split]
        exact (List.singleton_sublist.mpr inFront).append
          (List.singleton_sublist.mpr List.mem_cons_self)
      rcases List.pairwise_iff_forall_sublist.mp recalls.ordered turned with
        ⟨j', i', secondAdded', firstAdded', after⟩
      rw [secondAdded'.unique secondAdded, firstAdded'.unique firstAdded] at after
      omega
    · rw [same] at secondAdded
      rw [firstAdded.unique secondAdded] at before
      omega
    · rw [split]
      have fromFirst := (List.singleton_sublist.mpr inBack).cons_cons first
      exact fromFirst.trans (List.sublist_append_right front _)

end Recalls
end OrderedMap

namespace Row

open OrderedMap

/-- A row is a map in the order of insertion, whatever is done to it.  Its names are different and
are those that are held; each has the value that was written last, which is also what comes out when
it is replaced or taken out; and the names stand in the order in which they were new.  Replacing
changes one entry at its place, and taking out leaves the other entries as they are. -/
theorem edits_recalled (pairs : List (String × Value)) (edits : List (Edit Value)) :
    let history := (pairs.map fun pair => .insert pair.1 pair.2) ++ edits
    let row : Row := (OrderedMap.ofList pairs).afterAll edits
    row.keys.Nodup ∧
      (∀ key, key ∈ row.keys ↔ Held history key) ∧
      (∀ key value, row.get? key = some value ↔ LastWritten history key value) ∧
      (∀ key value old, (row.replace key value).1 = some old ↔ LastWritten history key old) ∧
      (∀ key old, (row.take key).1 = some old ↔ LastWritten history key old) ∧
      (∀ first second, [first, second].Sublist row.keys ↔
        ∃ i j, AddedAt history first i ∧ AddedAt history second j ∧ i < j) ∧
      (∀ key value, (row.replace key value).2.entries =
        if key ∈ row.keys then
          row.entries.map fun entry => if entry.1 = key then (key, value) else entry
        else row.entries ++ [(key, value)]) ∧
      (∀ key value, (row.modify key fun _ => value).entries =
        row.entries.map fun entry => if entry.1 = key then (key, value) else entry) ∧
      ∀ key, (row.take key).2.entries = row.entries.filter fun entry => entry.1 ≠ key := by
  intro history row
  have recalls : Recalls history row := (Recalls.ofList pairs).afterAll edits
  refine ⟨recalls.distinct, recalls.mem_keys_iff, recalls.get?_iff, ?_, recalls.get?_iff,
    recalls.sublist_iff, ?_, entries_modify recalls.distinct, entries_erase recalls.distinct⟩
  · intro key _ old
    exact recalls.get?_iff key old
  · intro key value
    split
    · rename_i member
      exact entries_insert_of_mem recalls.distinct member value
    · rename_i fresh
      exact congrArg OrderedMap.entries (insert_of_notMem value fresh)

end Row
end DocumentQuery
