import DocumentQuery.Proofs.Session.Histories
import DocumentQuery.Proofs.Text.Names
import Mathlib.Data.List.Basic

namespace DocumentQuery

open DocumentQuery.Action

/-!
# Dropped tables

A connection remembers definitions by the names of a schema and a table, but the store knows a table
by one name.  Two pairs of identifiers have the same name in the store only if they are the same
names, as no identifier contains a point.

The target of a join need not consist of identifiers.  The names `default` and `s.t` have the name in
the store that `s` and `t` have, so a table can be remembered twice, and dropping it forgets only one
of the two definitions.  There are no other such names: under its own a dropped table is forgotten,
and looked up anew.
-/

/-! ## Names in the store -/

/-- The names in the default schema by which a table of another schema can be reached. -/
def foldedNames (schema table : String) : String × String :=
  (Name.defaultSchema, schema ++ "." ++ table)

theorem lowercase_defaultSchema : Text.lowercase Name.defaultSchema = Name.defaultSchema := by
  decide +kernel

/-- A cache holds the two pairs of names apart. -/
theorem not_sameNames_folded {schema table : String}
    (outside : Text.lowercase schema ≠ Name.defaultSchema) {names : String × String}
    (same : SameNames names (foldedNames schema table)) : ¬ SameNames names (schema, table) :=
  fun own => outside (own.1.symm.trans (same.1.trans lowercase_defaultSchema))

section

variable {schema table : String} (validSchema : Name.isIdentifier schema = true)
  (validTable : Name.isIdentifier table = true)

include validSchema validTable

theorem lowercase_folded : Text.lowercase (schema ++ "." ++ table) =
    Text.lowercase schema ++ "." ++ Text.lowercase table := by
  have asciiSchema := Name.ascii_of_isIdentifier validSchema
  have asciiPoint : ∀ c ∈ ".".toList, c.toNat < 0x80 := fun c member => by
    rw [List.mem_singleton.mp member]
    decide
  have asciiBoth : ∀ c ∈ (schema ++ ".").toList, c.toNat < 0x80 := by
    rw [String.toList_append]
    exact List.forall_mem_append.mpr ⟨asciiSchema, asciiPoint⟩
  have point : Text.lowercase "." = "." := by decide +kernel
  rw [Text.lowercase_append asciiBoth (Name.ascii_of_isIdentifier validTable),
    Text.lowercase_append asciiSchema asciiPoint, point]

/-- All names that a table goes by in the store: its own, and one more pair if it is in a schema of
its own. -/
theorem qualified_eq_iff (names : String × String) :
    Name.qualified names.1 names.2 = Name.qualified schema table ↔
      SameNames names (schema, table) ∨ (Text.lowercase schema ≠ Name.defaultSchema ∧
        SameNames names (foldedNames schema table)) := by
  have noPoint := Name.lowercase_noPoint validTable
  have split := append_point_inj (Name.lowercase_noPoint validSchema) noPoint
  rw [SameNames, SameNames, foldedNames, lowercase_folded validSchema validTable,
    lowercase_defaultSchema, Name.qualified, Name.qualified]
  dsimp only
  by_cases isDefault : Text.lowercase schema = Name.defaultSchema
  · rw [isDefault, if_pos rfl]
    simp only [ne_eq, not_true_eq_false, false_and, or_false]
    by_cases alsoDefault : Text.lowercase names.1 = Name.defaultSchema
    · rw [if_pos alsoDefault, and_iff_right alsoDefault]
    · rw [if_neg alsoDefault]
      refine iff_of_false (fun same => noPoint ?_) fun same => alsoDefault same.1
      rw [← same, String.toList_append, String.toList_append]
      exact List.mem_append_left _ (List.mem_append_right _ (List.mem_singleton_self '.'))
  · rw [if_neg isDefault, and_iff_right isDefault]
    by_cases inDefault : Text.lowercase names.1 = Name.defaultSchema
    · rw [if_pos inDefault, and_iff_right inDefault]
      exact (or_iff_right fun same => isDefault (same.1.symm.trans inDefault)).symm
    · rw [if_neg inDefault, split]
      exact (or_iff_left fun same => inDefault same.1).symm

end

theorem definition_storeName (names : String × String) (columns : List StoredColumn) :
    (definition names columns).storeName = Name.qualified names.1 names.2 := by
  rw [Table.storeName, definition, Table.named, Name.qualified, Name.qualified,
    Text.lowercase_lowercase, Text.lowercase_lowercase]

/-! ## After a drop -/

variable {σ : Type}

/-- Dropping a table describes nothing, and forgets it under its own names. -/
theorem remembered_dropTable_iff {moments : List Moment} {schema table : String}
    (validSchema : Name.isIdentifier schema = true) (validTable : Name.isIdentifier table = true)
    (asked : List Exchange) (names : String × String) (d : Table) :
    Remembered (moments ++ [⟨.perform (.dropTable schema table), true, asked⟩]) names d ↔
      Remembered moments names d ∧ ¬ SameNames names (schema, table) := by
  have silent (columns : List StoredColumn) : ¬ Described [] asked names columns :=
    not_described_nil
  have nothing : ¬ Remembered [⟨.perform (.dropTable schema table), true, asked⟩] names d := by
    rintro ⟨columns, last, _⟩
    rw [← List.nil_append [_], lastDescribed_concat_iff] at last
    rcases last with described | ⟨last, _⟩
    · exact silent columns described
    · exact not_remembered_nil names _ ⟨columns, last, rfl⟩
  rw [remembered_append_iff, or_iff_right nothing, Undisturbed, List.forall_mem_singleton]
  refine and_congr_right fun _ => ⟨fun undisturbed same => ?_, fun other => ⟨?_, silent⟩⟩
  · exact undisturbed.1 ⟨rfl, validSchema, validTable, same⟩
  · exact fun forgets => other forgets.2.2.2

/-- The definition is remembered under the other names of the table. -/
def Stale (moments : List Moment) (schema table : String) (d : Table) : Prop :=
  Text.lowercase schema ≠ Name.defaultSchema ∧ Remembered moments (foldedNames schema table) d

section

variable {moments : List Moment} {c : Connection (Recorded σ)} (follows : Follows moments c)

include follows

/-- A definition is remembered under its names in any letter case. -/
theorem Follows.remembered_iff {names others : String × String} (same : SameNames names others)
    (d : Table) : Remembered moments names d ↔ Remembered moments others d := by
  rw [← follows.known, ← follows.known, DefinitionCache.table?_eq, DefinitionCache.table?_eq,
    same.1, same.2]

/-- What is still remembered of a table that has just been dropped. -/
theorem Follows.remembered_dropped_iff {schema table : String}
    (validSchema : Name.isIdentifier schema = true) (validTable : Name.isIdentifier table = true)
    {names : String × String}
    (isTable : Name.qualified names.1 names.2 = Name.qualified schema table)
    (asked : List Exchange) (d : Table) :
    Remembered (moments ++ [⟨.perform (.dropTable schema table), true, asked⟩]) names d ↔
      SameNames names (foldedNames schema table) ∧ Stale moments schema table d := by
  rw [remembered_dropTable_iff validSchema validTable]
  constructor
  · rintro ⟨remembered, other⟩
    rcases (qualified_eq_iff validSchema validTable names).mp isTable with own | ⟨outside, folded⟩
    · exact absurd own other
    · exact ⟨folded, outside, (follows.remembered_iff folded d).mp remembered⟩
  · rintro ⟨folded, outside, remembered⟩
    exact ⟨(follows.remembered_iff folded d).mpr remembered, not_sameNames_folded outside folded⟩

end

/-- Right after a table outside the default schema was dropped, the only definition of it is the one
that was remembered under its names in the default schema, if there was one; a table of the default
schema is forgotten altogether.  In every later run, what is remembered under any names of the table
has been described since, or is that definition, as long as nothing is described or forgotten under
its names.  The joins of an open connection use nothing else. -/
theorem dropTable_forgets_unless_folded {config : Config} {store : Store σ} {state : σ}
    {c : Connection σ} (started : Connection.start config store state = .ok c)
    (steps : List Step) (isOpen : (c.recording.after steps).isOpen = true) {schema table : String}
    (validSchema : Name.isIdentifier schema = true)
    (validTable : Name.isIdentifier table = true) :
    let stale := Stale (c.recording.history steps) schema table
    let dropped := (c.recording.after steps).take (.perform (.dropTable schema table))
    (∀ d : Table, (∃ names : String × String, dropped.cache.table? names.1 names.2 = some d ∧
      d.storeName = Name.qualified schema table) ↔ stale d) ∧
    ∀ (later : List Step) (names : String × String),
      Name.qualified names.1 names.2 = Name.qualified schema table →
      let now := dropped.after later
      let known := fun d => Remembered (dropped.history later) names d ∨
        (Undisturbed (dropped.history later) names ∧
          SameNames names (foldedNames schema table) ∧ stale d)
      (∀ d : Table, now.cache.table? names.1 names.2 = some d ↔ known d) ∧
      (now.isOpen = true → ∀ operation h q, operation.query? = some (h, q) →
        h.lookups q = [names] →
        LooksUpTarget known h q names (now.asks operation) (now.returns operation)) := by
  intro stale dropped
  have follows : Follows (c.recording.history steps) _ := (follows_start started).after steps
  have followsDrop : Follows _ dropped := follows.take (.perform (.dropTable schema table))
  rw [isOpen] at followsDrop
  refine ⟨fun d => ⟨?_, fun isStale => ?_⟩, fun later names isTable => ?_⟩
  · rintro ⟨names, found, stored⟩
    have remembered : Remembered _ names d := (congrFun (followsDrop.known names) d).mp found
    have isTable : Name.qualified names.1 names.2 = Name.qualified schema table := by
      rcases remembered with ⟨columns, _, rfl⟩
      rw [← stored, definition_storeName]
    exact ((follows.remembered_dropped_iff validSchema validTable isTable _ d).mp remembered).2
  · have isTable := (qualified_eq_iff validSchema validTable (foldedNames schema table)).mpr
      (.inr ⟨isStale.1, .refl _⟩)
    refine ⟨foldedNames schema table, (congrFun (followsDrop.known _) d).mpr ?_, ?_⟩
    · exact (follows.remembered_dropped_iff validSchema validTable isTable _ d).mpr
        ⟨.refl _, isStale⟩
    · rcases isStale.2 with ⟨columns, _, rfl⟩
      rw [definition_storeName, isTable]
  · intro now known
    have followsNow : Follows _ now := followsDrop.after later
    have known_eq : (fun d => now.cache.table? names.1 names.2 = some d) = known := by
      rw [followsNow.known]
      funext d
      refine propext (remembered_append_iff.trans (or_congr_right ?_))
      rw [follows.remembered_dropped_iff validSchema validTable isTable, and_comm]
    refine ⟨fun d => iff_of_eq (congrFun known_eq d), fun isOpenNow operation h q asked looked => ?_⟩
    rw [← known_eq]
    exact targetLookup followsNow.records followsNow.distinct isOpenNow asked looked

/-- A join reaches the table `t` of the schema `s` by its other names.  After the table is dropped
the same join uses the definition that was remembered before, and asks for no description. -/
theorem dropTable_forgets_unless_folded_join :
    let columns : List StoredColumn := [⟨"id", "integer", false, false⟩]
    let script : Script := { version := .ok "3", tables := ⟨[("s.t", columns)]⟩ }
    let h : TableHandle := ⟨.named "default" "notes" (columns.map .ofStored)⟩
    let q : Query := { joins := [⟨.flat, .named "default.s.t", "id", "id"⟩] }
    let d := definition (foldedNames "s" "t") columns
    ∃ c, Connection.start .inMemory Script.store script = .ok c ∧
      let dropped := (c.recording.after [.perform (.find h q)]).take (.perform (.dropTable "s" "t"))
      Stale (c.recording.history [.perform (.find h q)]) "s" "t" d ∧
        dropped.cache.table? "default" "s.t" = some d ∧
        ∀ exchange ∈ dropped.asks (.find h q), ∃ statement,
          Sql.select q h.table (some d) = .ok statement ∧ exchange.call = .query statement := by
  intro columns script h q d
  have started : ∃ c, Connection.start .inMemory Script.store script = .ok c := ⟨_, rfl⟩
  rcases started with ⟨c, started⟩
  refine ⟨c, started, ?_⟩
  intro dropped
  have isOpen : (c.recording.after [.perform (.find h q)]).isOpen = true := by
    cases started
    rfl
  have found : dropped.cache.table? "default" "s.t" = some d := by
    cases started
    rfl
  have stored : d.storeName = Name.qualified "s" "t" := by decide
  rcases dropTable_forgets_unless_folded started _ isOpen (show Name.isIdentifier "s" = true by decide)
    (show Name.isIdentifier "t" = true by decide) with ⟨left, later⟩
  have stale := (left d).mp ⟨foldedNames "s" "t", found, stored⟩
  rcases later [] (foldedNames "s" "t") stored with ⟨known_iff, lookups⟩
  have looksUp := lookups (by cases started; rfl) (.find h q) h q rfl rfl
  refine ⟨stale, found, looksUp.of_known fun other => (known_iff other).symm.trans ?_⟩
  exact (Eq.congr_left found).trans Option.some_inj

end DocumentQuery
