import DocumentQuery.Proofs.Session.Operations
import DocumentQuery.Proofs.Session.Recording
import DocumentQuery.Proofs.Session.Remembering

namespace DocumentQuery

open DocumentQuery.Action

/-!
# What a connection learns

A connection asks a store for the description of a table when the table is looked up and not
remembered.  A description with columns makes a definition, which is remembered from then on; a
description without columns, and a failure, leave nothing behind.

`Learns` relates what an action asks to the definitions that are remembered before and after it.
It has one lemma for each way in which actions are put together, so an operation learns what the
lookups in it learn.  Only two operations forget, and they learn nothing.
-/

variable {σ α β : Type}

/-- The definition that a description makes. -/
def definition (names : String × String) (columns : List StoredColumn) : Table :=
  .named names.1 names.2 (columns.map Column.ofStored)

theorem definition_eq {names others : String × String} (same : SameNames names others)
    (columns : List StoredColumn) : definition names columns = definition others columns := by
  rw [definition, definition, Table.named, Table.named, same.1, same.2]

theorem qualified_eq {names others : String × String} (same : SameNames names others) :
    Name.qualified names.1 names.2 = Name.qualified others.1 others.2 := by
  rw [Name.qualified, Name.qualified, same.1, same.2]

/-- Tables of one schema have different names in the store. -/
theorem sameNames_of_qualified {schema table other : String}
    (same : Name.qualified schema table = Name.qualified schema other) :
    SameNames (schema, table) (schema, other) := by
  refine ⟨rfl, ?_⟩
  rw [Name.qualified, Name.qualified] at same
  by_cases isDefault : Text.lowercase schema = Name.defaultSchema
  · rw [if_pos isDefault, if_pos isDefault] at same
    exact same
  · rw [if_neg isDefault, if_neg isDefault] at same
    exact (String.append_right_inj _).mp same

/-- Among some exchanges is a description, with columns, of a table that is looked up under the
names. -/
def Described (lookups : List (String × String)) (asked : List Exchange) (names : String × String)
    (columns : List StoredColumn) : Prop :=
  (∃ lookup ∈ lookups, SameNames lookup names) ∧ columns ≠ [] ∧
    (⟨.describe (Name.qualified names.1 names.2), .ok columns⟩ : Exchange) ∈ asked

/-- Where nothing is looked up nothing is described. -/
theorem not_described_nil {asked : List Exchange} {names : String × String}
    {columns : List StoredColumn} : ¬ Described [] asked names columns := fun described => by
  rcases described.1 with ⟨_, member, _⟩
  exact nomatch member

theorem described_append_iff {lookups : List (String × String)} {asked more : List Exchange}
    {names : String × String} {columns : List StoredColumn} :
    Described lookups (asked ++ more) names columns ↔
      Described lookups asked names columns ∨ Described lookups more names columns := by
  simp only [Described, List.mem_append, ← and_or_left]

/-- What is remembered afterwards is what was remembered before, and what has been described.
Nothing is described that was remembered. -/
structure Learns (lookups : List (String × String)) (asked : List Exchange)
    (c c' : DefinitionCache) : Prop where
  distinct : c'.Distinct
  known : ∀ (names : String × String) (d : Table), c'.table? names.1 names.2 = some d ↔
    (∃ columns, Described lookups asked names columns ∧ d = definition names columns) ∨
      c.table? names.1 names.2 = some d
  unknown : ∀ (names : String × String) (columns : List StoredColumn),
    Described lookups asked names columns → c.table? names.1 names.2 = none

namespace Learns

variable {lookups : List (String × String)} {asked more : List Exchange}
  {c c' c'' : DefinitionCache}

/-- Nothing is learned from exchanges that describe nothing. -/
theorem nothing (distinct : c'.Distinct)
    (same : ∀ names : String × String, c'.table? names.1 names.2 = c.table? names.1 names.2)
    (silent : ∀ names columns, ¬ Described lookups asked names columns) :
    Learns lookups asked c c' where
  distinct := distinct
  known names d := by
    rw [same]
    constructor
    · exact .inr
    · rintro (⟨columns, described, _⟩ | known)
      · exact absurd described (silent names columns)
      · exact known
  unknown names columns described := absurd described (silent names columns)

theorem refl (distinct : c.Distinct) : Learns lookups [] c c :=
  nothing distinct (fun _ => rfl) fun _ _ described => nomatch described.2.2

theorem trans (first : Learns lookups asked c c') (second : Learns lookups more c' c'') :
    Learns lookups (asked ++ more) c c'' where
  distinct := second.distinct
  known names d := by
    rw [second.known, first.known]
    simp only [described_append_iff, or_and_right, exists_or, or_assoc]
    exact or_left_comm
  unknown names columns described := by
    rcases described_append_iff.mp described with described | described
    · exact first.unknown names columns described
    · -- What is described later is not remembered in between, so it was not before.
      have between := second.unknown names columns described
      cases before : c.table? names.1 names.2 with
      | none => rfl
      | some d =>
          have kept := (first.known names d).mpr (.inr before)
          rw [between] at kept
          exact nomatch kept

end Learns

/-- An action learns from what it asks, on every connection. -/
def Learning (lookups : List (String × String)) (action : Action (Recorded σ) α) : Prop :=
  ∀ c : Connection (Recorded σ), c.Records → c.cache.Distinct →
    action.Ends c fun asked _ c' => Learns lookups asked c.cache c'.cache

/-! ## Putting actions together -/

section

variable {lookups : List (String × String)}

theorem Learning.bind {action : Action (Recorded σ) α} {next : α → Action (Recorded σ) β}
    (first : Learning lookups action) (second : ∀ a, Learning lookups (next a)) :
    Learning lookups (action >>= next) := by
  intro c records distinct
  refine Ends.bind ((first c records distinct).mono fun asked result c' extends' learns => ?_)
  cases result with
  | error error => exact learns
  | ok a =>
      have later := second a c' (extends'.records records) learns.distinct
      exact later.mono fun more _ _ _ learnsMore => learns.trans learnsMore

theorem Learning.attempt {action : Action (Recorded σ) α} (learning : Learning lookups action) :
    Learning lookups (Connection.attempt action) := fun c records distinct =>
  Ends.attempt (learning c records distinct)

theorem learning_pure (a : α) : Learning lookups (pure a : Action (Recorded σ) α) :=
  fun _ _ distinct => ends_pure (.refl distinct)

theorem learning_throw (error : QueryError) :
    Learning lookups (throw error : Action (Recorded σ) α) :=
  fun _ _ distinct => ends_throw (.refl distinct)

theorem learning_check (checked : Except QueryError α) :
    Learning lookups (Connection.check checked : Action (Recorded σ) α) :=
  fun _ _ distinct => ends_check (.refl distinct)

/-- What is accepted may be used by what comes after the check. -/
theorem learning_check_bind {checked : Except QueryError α} {next : α → Action (Recorded σ) β}
    (second : ∀ a, checked = .ok a → Learning lookups (next a)) :
    Learning lookups (Connection.check checked >>= next) := by
  cases checked with
  | error error => exact fun _ _ distinct => Ends.bind (ends_check (.refl distinct))
  | ok a => exact second a rfl

theorem learning_requireOpen :
    Learning lookups (Connection.requireOpen : Action (Recorded σ) Unit) :=
  fun _ _ distinct => ends_requireOpen (fun _ => .refl distinct) fun _ => .refl distinct

/-- Nothing is learned from a call that describes no table. -/
theorem learning_ask (call : Call) (other : ∀ table, call ≠ .describe table) :
    Learning lookups (Connection.ask call : Action (Recorded σ) call.Answer) := by
  intro c records distinct
  refine ends_ask records (fun _ answer c' _ sameCache => ?_) fun _ => .refl distinct
  rw [sameCache]
  refine .nothing distinct (fun _ => rfl) fun names columns described => ?_
  have same := List.mem_singleton.mp described.2.2
  exact other _ (congrArg Exchange.call same).symm

end

/-! ## Lookups -/

/-- Lookups of tables of one schema. -/
def OneSchema (lookups : List (String × String)) : Prop :=
  ∀ lookup ∈ lookups, ∀ other ∈ lookups, lookup.1 = other.1

/-- How a table is looked up: the definition is the known one, or else the one that a single
description makes, if the table has columns. -/
inductive LooksUp (known : Table → Prop) (names : String × String) :
    List Exchange → Except QueryError (Option Table) → Prop
  | remembered {d : Table} (isKnown : known d) : LooksUp known names [] (.ok (some d))
  | described (unknown : ∀ d, ¬ known d) (answer : Except StoreError (List StoredColumn)) :
    LooksUp known names [⟨.describe (Name.qualified names.1 names.2), answer⟩]
      ((resultOf answer).map fun columns =>
        if columns.isEmpty then none else some (definition names columns))

theorem LooksUp.of_known {known : Table → Prop} {names : String × String} {asked : List Exchange}
    {result : Except QueryError (Option Table)} (looksUp : LooksUp known names asked result)
    {d : Table} (isKnown : known d) : asked = [] := by
  cases looksUp with
  | remembered _ => rfl
  | described unknown _ => exact absurd isKnown (unknown d)

theorem LooksUp.of_unknown {known : Table → Prop} {names : String × String} {asked : List Exchange}
    {result : Except QueryError (Option Table)} (looksUp : LooksUp known names asked result)
    (unknown : ∀ d, ¬ known d) : ∃ answer : Except StoreError (List StoredColumn),
      asked = [⟨.describe (Name.qualified names.1 names.2), answer⟩] := by
  cases looksUp with
  | remembered isKnown => exact absurd isKnown (unknown _)
  | described _ answer => exact ⟨answer, rfl⟩

/-- A description is learned under the names that were looked up, and under no others. -/
theorem learns_described {names : String × String} {lookups : List (String × String)}
    (oneSchema : OneSchema lookups) (isLookup : names ∈ lookups) {c : DefinitionCache}
    (distinct : c.Distinct) (unknown : c.table? names.1 names.2 = none)
    {columns : List StoredColumn} (notEmpty : columns ≠ []) :
    Learns lookups [⟨.describe (Name.qualified names.1 names.2), .ok columns⟩] c
      (c.addTable (definition names columns)) := by
  have described_iff (others : String × String) (found : List StoredColumn) :
      Described lookups [⟨.describe (Name.qualified names.1 names.2), .ok columns⟩] others found ↔
        SameNames others names ∧ found = columns := by
    constructor
    · rintro ⟨⟨lookup, member, same⟩, _, asked⟩
      have answered := List.mem_singleton.mp asked
      injection answered with call_eq answer_eq
      injection call_eq with stored
      have sameSchema := oneSchema lookup member names isLookup
      rw [← qualified_eq same, sameSchema] at stored
      have sameNames : SameNames (names.1, lookup.2) names := sameNames_of_qualified stored
      rw [← sameSchema] at sameNames
      exact ⟨same.symm.trans sameNames, Except.ok.inj answer_eq⟩
    · rintro ⟨same, rfl⟩
      refine ⟨⟨names, isLookup, same.symm⟩, notEmpty, ?_⟩
      rw [qualified_eq same]
      exact List.mem_singleton_self _
  refine ⟨DefinitionCache.distinct_addTable distinct _, fun others d => ?_,
    fun others found described => ?_⟩
  · rw [definition, DefinitionCache.table?_addTable]
    by_cases same : SameNames others names
    · have before : c.table? others.1 others.2 = none := by
        rw [DefinitionCache.table?_eq, same.1, same.2]
        exact unknown
      rw [if_pos same, before, ← definition, ← definition_eq same]
      simp only [described_iff, reduceCtorEq, or_false]
      constructor
      · intro found
        exact ⟨columns, ⟨same, rfl⟩, (Option.some.inj found).symm⟩
      · rintro ⟨_, ⟨_, rfl⟩, rfl⟩
        rfl
    · rw [if_neg same]
      simp only [described_iff, same, false_and, exists_false, false_or]
  · rcases (described_iff others found).mp described with ⟨same, _⟩
    rw [DefinitionCache.table?_eq, same.1, same.2]
    exact unknown

/-- Nothing is learned from a failure, or from a description without columns. -/
theorem learns_undescribed {table : String} {lookups : List (String × String)}
    {c : DefinitionCache} (distinct : c.Distinct) {answer : Except StoreError (List StoredColumn)}
    (noColumns : ∀ columns, answer = .ok columns → columns = []) :
    Learns lookups [⟨.describe table, answer⟩] c c := by
  refine .nothing distinct (fun _ => rfl) fun names columns described => ?_
  have answered := List.mem_singleton.mp described.2.2
  injection answered with call_eq answer_eq
  injection call_eq with stored
  subst stored
  exact described.2.1 (noColumns columns answer_eq.symm)

/-- How the definition of a table is loaded: what is asked, what is returned, and the cache that is
left behind. -/
inductive Loads (names : String × String) (c : Connection (Recorded σ)) :
    List Exchange → Except QueryError (Option Table) → DefinitionCache → Prop
  | closed (isClosed : c.isOpen = false) : Loads names c [] (.error .notConnected) c.cache
  | remembered {found : Table} (known : c.cache.table? names.1 names.2 = some found) :
    Loads names c [] (.ok (some found)) c.cache
  | failed (unknown : c.cache.table? names.1 names.2 = none) (e : StoreError) :
    Loads names c [⟨.describe (Name.qualified names.1 names.2), .error e⟩] (.error (.store e))
      c.cache
  | missing (unknown : c.cache.table? names.1 names.2 = none) :
    Loads names c [⟨.describe (Name.qualified names.1 names.2), .ok []⟩] (.ok none) c.cache
  | described (unknown : c.cache.table? names.1 names.2 = none) (column : StoredColumn)
      (rest : List StoredColumn) :
    Loads names c [⟨.describe (Name.qualified names.1 names.2), .ok (column :: rest)⟩]
      (.ok (some (definition names (column :: rest))))
      (c.cache.addTable (definition names (column :: rest)))

theorem ends_loads (names : String × String) {c : Connection (Recorded σ)} (records : c.Records) :
    (Connection.loadTable names.1 names.2).Ends c fun asked result c' =>
      Loads names c asked result c'.cache := by
  refine Ends.bind (ends_requireOpen (fun isOpen => ?_) .closed)
  refine Ends.bind (ends_cached ?_)
  dsimp only [List.nil_append]
  cases known : c.cache.table? names.1 names.2 with
  | some found => exact ends_pure (.remembered known)
  | none =>
      refine Ends.bind (ends_ask records (fun _ answer c' _ sameCache => ?_) .closed)
      rcases answer with e | _ | ⟨column, rest⟩
      · dsimp only [resultOf, Except.mapError]
        rw [sameCache]
        exact .failed known e
      · refine ends_pure ?_
        rw [sameCache]
        exact .missing known
      · refine Ends.bind (ends_updateCache (ends_pure ?_))
        dsimp only
        rw [sameCache]
        exact .described known column rest

theorem ends_loadTable (names : String × String) {lookups : List (String × String)}
    (oneSchema : OneSchema lookups) (isLookup : names ∈ lookups) {c : Connection (Recorded σ)}
    (records : c.Records) (distinct : c.cache.Distinct) :
    (Connection.loadTable names.1 names.2).Ends c fun asked result c' =>
      Learns lookups asked c.cache c'.cache ∧
        (c.isOpen = true →
          LooksUp (fun d => c.cache.table? names.1 names.2 = some d) names asked result) := by
  have notKnown (unknown : c.cache.table? names.1 names.2 = none) (d : Table) :
      ¬ c.cache.table? names.1 names.2 = some d := fun known =>
    Option.some_ne_none d (known.symm.trans unknown)
  refine (ends_loads names records).mono fun asked result c' _ loads => ?_
  generalize c'.cache = after at loads ⊢
  cases loads with
  | closed isClosed =>
      exact ⟨.refl distinct, fun isOpen => absurd isOpen (by rw [isClosed]; decide)⟩
  | remembered known => exact ⟨.refl distinct, fun _ => .remembered known⟩
  | failed unknown e =>
      refine ⟨learns_undescribed distinct nofun, fun _ => ?_⟩
      exact .described (notKnown unknown) (.error e)
  | missing unknown =>
      refine ⟨learns_undescribed distinct fun _ same => (Except.ok.inj same).symm, fun _ => ?_⟩
      exact .described (notKnown unknown) (.ok [])
  | described unknown column rest =>
      have notEmpty := List.cons_ne_nil column rest
      refine ⟨learns_described oneSchema isLookup distinct unknown notEmpty, fun _ => ?_⟩
      exact .described (notKnown unknown) (.ok (column :: rest))

/-! ## Operations -/

/-- The tables that a query looks up: the target of its join, if that is a name. -/
def TableHandle.lookups (h : TableHandle) (q : Query) : List (String × String) :=
  match q.join? with
  | .ok (some ⟨_, .named name, _, _⟩) => [Join.splitTarget name h.table.schema]
  | _ => []

namespace Operation

/-- The tables that an operation looks up. -/
def lookups : Operation → List (String × String)
  | findTable schema table => [(schema, table)]
  | openTable schema name => [(schema, name)]
  | hasTable schema table _ => [(schema, table)]
  | hasTables schema tables => tables.map fun table => (schema, table)
  | find h q => h.lookups q
  | findOne h q => h.lookups q
  | findAll h q => h.lookups q
  | _ => []

/-- The operation forgets what is remembered under the names, if the connection is open. -/
def Forgets : Operation → String × String → Prop
  | dropTable schema table, names => Name.isIdentifier schema = true ∧
      Name.isIdentifier table = true ∧ SameNames names (schema, table)
  | dropSchema schema, names =>
    Name.isIdentifier schema = true ∧ Text.lowercase names.1 = Text.lowercase schema
  | _, _ => False

end Operation

theorem oneSchema_singleton (names : String × String) : OneSchema [names] := by
  intro lookup member other member'
  rw [List.mem_singleton.mp member, List.mem_singleton.mp member']

theorem TableHandle.oneSchema_lookups (h : TableHandle) (q : Query) : OneSchema (h.lookups q) := by
  unfold lookups
  split
  · exact oneSchema_singleton _
  · exact fun _ member => nomatch member

section

variable {lookups : List (String × String)}

theorem learning_loadTable (oneSchema : OneSchema lookups) {schema table : String}
    (isLookup : (schema, table) ∈ lookups) :
    Learning lookups (Connection.loadTable schema table : Action (Recorded σ) (Option Table)) :=
  fun _ records distinct => (ends_loadTable (schema, table) oneSchema isLookup records distinct).mono
    fun _ _ _ _ ends => ends.1

theorem learning_findTable (oneSchema : OneSchema lookups) {schema table : String}
    (isLookup : (schema, table) ∈ lookups) :
    Learning lookups (Connection.findTable schema table : Action (Recorded σ) (Option Table)) :=
  learning_requireOpen.bind fun _ => (learning_check _).bind fun _ =>
    (learning_check _).bind fun _ => learning_loadTable oneSchema isLookup

theorem learning_hasTables (oneSchema : OneSchema lookups) {schema : String} {tables : List String}
    (areLookups : ∀ table ∈ tables, (schema, table) ∈ lookups) :
    Learning lookups (Connection.hasTables schema tables : Action (Recorded σ) Bool) := by
  induction tables with
  | nil => exact learning_requireOpen.bind fun _ => learning_pure true
  | cons table rest inductionHypothesis =>
      have first := areLookups table List.mem_cons_self
      refine (learning_findTable oneSchema first).bind fun table? => ?_
      cases table? with
      | none => exact learning_pure false
      | some found =>
          exact inductionHypothesis fun other member =>
            areLookups other (List.mem_cons_of_mem table member)

theorem learning_schema (name : String) :
    Learning lookups (Connection.schema name : Action (Recorded σ) Schema) := by
  refine learning_requireOpen.bind fun _ => (learning_check _).bind fun _ => ?_
  intro c _ distinct
  refine Ends.bind (ends_get ?_)
  dsimp only
  cases c.cache.schema? name with
  | some found => exact ends_pure (.refl distinct)
  | none =>
      refine Ends.bind (ends_set ?_ (ends_pure ?_))
      · exact ⟨rfl, rfl, (List.append_nil _).symm⟩
      · exact .nothing (DefinitionCache.distinct_addSchema distinct _)
          (fun names => c.cache.table?_addSchema _ _ _) fun _ _ described => nomatch described.2.2

theorem learning_serverInfo :
    Learning lookups (Connection.serverInfo : Action (Recorded σ) Server) :=
  learning_requireOpen.bind fun _ _ _ distinct => Ends.bind (ends_get (ends_pure (.refl distinct)))

theorem learning_queryOne (statement : Sql.Statement) :
    Learning lookups (Connection.queryOne statement : Action (Recorded σ) (Option Row)) :=
  (learning_ask (.query statement) nofun).bind fun _ => learning_pure _

theorem learning_findIndex (schema index : String) :
    Learning lookups (Connection.findIndex schema index : Action (Recorded σ) (Option String)) :=
  learning_requireOpen.bind fun _ => (learning_check _).bind fun _ => (learning_check _).bind
    fun _ => (learning_queryOne _).bind fun _ => learning_pure _

theorem learning_resolveJoin (source : Table) {join? : Option Join}
    (oneSchema : OneSchema lookups)
    (isLookup : ∀ join name, join? = some join → join.target = .named name →
      Join.splitTarget name source.schema ∈ lookups) :
    Learning lookups (TableHandle.resolveJoin source join? :
      Action (Recorded σ) (Option Table)) := by
  cases join? with
  | none => exact learning_pure none
  | some join =>
      refine Learning.bind ?_ fun _ => learning_pure _
      cases target : join.target with
      | table table => exact learning_pure table
      | named name =>
          have member := isLookup join name rfl target
          refine (learning_loadTable oneSchema member).bind fun table? => ?_
          cases table? with
          | some found => exact learning_pure found
          | none => exact learning_throw _

theorem learning_find (h : TableHandle) (q : Query) :
    Learning (h.lookups q) (h.find q : Action (Recorded σ) ResultSet) := by
  refine learning_check_bind fun join? joined => ?_
  have isLookup (join : Join) (name : String) (same : join? = some join)
      (target : join.target = .named name) :
      Join.splitTarget name h.table.schema ∈ h.lookups q := by
    rcases join with ⟨shape, _, sourceColumn, targetColumn⟩
    cases target
    rw [TableHandle.lookups, joined, same]
    exact List.mem_singleton_self _
  refine (learning_resolveJoin h.table (h.oneSchema_lookups q) isLookup).bind fun target? => ?_
  refine (learning_check _).bind fun statement => ?_
  exact (learning_ask (.query statement) nofun).bind fun rows =>
    (learning_check _).bind fun _ => learning_pure _

theorem learning_change (statement : Except QueryError Sql.Statement) :
    Learning lookups (TableHandle.change statement : Action (Recorded σ) UInt64) :=
  (learning_check _).bind fun statement => (learning_ask (.run statement) nofun).bind fun _ =>
    learning_pure _

theorem learning_runAll (statements : List Sql.Statement) :
    Learning lookups (TableHandle.runAll statements : Action (Recorded σ) (List Int64)) := by
  induction statements with
  | nil => exact learning_pure []
  | cons statement rest inductionHypothesis =>
      exact (learning_ask (.run statement) nofun).bind fun _ => inductionHypothesis.bind fun _ =>
        learning_pure _

theorem learning_transaction {action : Action (Recorded σ) α} (learning : Learning lookups action) :
    Learning lookups (Connection.transaction action) := by
  refine (learning_ask .begin nofun).bind fun _ => learning.attempt.bind fun result => ?_
  cases result with
  | ok value => exact (learning_ask .commit nofun).bind fun _ => learning_pure value
  | error e => exact (learning_ask .rollback nofun).attempt.bind fun _ => learning_throw e

theorem learning_insertMany (h : TableHandle) (rows : List Row) (returnId : Bool) :
    Learning lookups (h.insertMany rows returnId : Action (Recorded σ) (List Int64)) := by
  refine (learning_check _).bind fun statements => ?_
  split
  · exact learning_pure []
  · exact (learning_transaction (learning_runAll statements)).bind fun _ => learning_pure _

end

/-! ## Forgetting -/

/-- What is remembered afterwards is what has been described, and what was remembered before and
not forgotten.  Nothing is described that was remembered. -/
structure Turns (lookups : List (String × String)) (forgets : String × String → Prop)
    (asked : List Exchange) (c c' : DefinitionCache) : Prop where
  distinct : c'.Distinct
  known : ∀ (names : String × String) (d : Table), c'.table? names.1 names.2 = some d ↔
    (∃ columns, Described lookups asked names columns ∧ d = definition names columns) ∨
      (c.table? names.1 names.2 = some d ∧ ¬ forgets names)
  unknown : ∀ (names : String × String) (columns : List StoredColumn),
    Described lookups asked names columns → c.table? names.1 names.2 = none

theorem Learns.turns {lookups : List (String × String)} {asked : List Exchange}
    {c c' : DefinitionCache} (learns : Learns lookups asked c c')
    {forgets : String × String → Prop} (keeps : ∀ names, ¬ forgets names) :
    Turns lookups forgets asked c c' where
  distinct := learns.distinct
  known names d := by
    rw [learns.known, and_iff_left (keeps names)]
  unknown := learns.unknown

/-- What forgets only takes away. -/
theorem turns_forgetting {forgets : String × String → Prop} {asked : List Exchange}
    {c c' : DefinitionCache} (distinct : c'.Distinct)
    (forgotten : ∀ names : String × String, forgets names → c'.table? names.1 names.2 = none)
    (kept : ∀ names : String × String, ¬ forgets names →
      c'.table? names.1 names.2 = c.table? names.1 names.2) : Turns [] forgets asked c c' := by
  refine ⟨distinct, fun names d => ?_, fun names columns described =>
    absurd described not_described_nil⟩
  simp only [not_described_nil, false_and, exists_false, false_or]
  by_cases forgets_ : forgets names
  · rw [forgotten names forgets_]
    exact iff_of_false nofun fun known => known.2 forgets_
  · rw [kept names forgets_, and_iff_left forgets_]

/-- An identifier passes the check, and nothing else does. -/
theorem ends_checkIdentifier {kind name : String} {c : Connection (Recorded σ)}
    {post : List Exchange → Except QueryError Unit → Connection (Recorded σ) → Prop}
    (accepted : Name.isIdentifier name = true → post [] (.ok ()) c)
    (refused : Name.isIdentifier name = false → ∀ error, post [] (.error error) c) :
    (Connection.check (Sql.checkIdentifier kind name) : Action (Recorded σ) Unit).Ends c post := by
  refine ends_check ?_
  rw [Sql.checkIdentifier, require]
  cases isIdentifier : Name.isIdentifier name with
  | true => exact accepted isIdentifier
  | false => exact refused isIdentifier _

/-- A definition is forgotten whether or not its table could be dropped. -/
theorem ends_dropTable (schema table : String) {c : Connection (Recorded σ)} (records : c.Records)
    (distinct : c.cache.Distinct) :
    (Connection.dropTable schema table).Ends c fun asked _ c' =>
      Turns [] (fun names => c.isOpen = true ∧ (Operation.dropTable schema table).Forgets names)
        asked c.cache c'.cache := by
  have kept {asked : List Exchange} (refused : ¬ (c.isOpen = true ∧
      Name.isIdentifier schema = true ∧ Name.isIdentifier table = true)) :
      Turns [] (fun names => c.isOpen = true ∧ (Operation.dropTable schema table).Forgets names)
        asked c.cache c.cache :=
    turns_forgetting distinct
      (fun _ forgets => absurd ⟨forgets.1, forgets.2.1, forgets.2.2.1⟩ refused) fun _ _ => rfl
  refine Ends.bind (ends_requireOpen (fun isOpen => ?_) fun isClosed => ?_)
  · refine Ends.bind (ends_checkIdentifier (fun validSchema => ?_) fun invalid _ => ?_)
    · refine Ends.bind (ends_checkIdentifier (fun validTable => ?_) fun invalid _ => ?_)
      · have forgotten {asked : List Exchange} {c' : DefinitionCache} (sameCache : c' = c.cache) :
            Turns [] (fun names => c.isOpen = true ∧
              (Operation.dropTable schema table).Forgets names) asked c.cache
              (c'.forgetTable schema table).2 := by
          subst sameCache
          refine turns_forgetting (DefinitionCache.distinct_forgetTable distinct _ _)
            (fun names forgets => ?_) fun names keeps => ?_
          · rw [DefinitionCache.table?_forgetTable distinct, if_pos forgets.2.2.2]
          · rw [DefinitionCache.table?_forgetTable distinct, if_neg]
            exact fun same => keeps ⟨isOpen, validSchema, validTable, same⟩
        refine Ends.bind (Ends.attempt (ends_ask records (fun _ answer c' _ sameCache => ?_)
          fun isClosed => ?_))
        · exact Ends.bind (ends_updateCache (ends_check (forgotten sameCache)))
        · exact absurd isClosed (by rw [isOpen]; decide)
      · exact kept fun accepted => absurd accepted.2.2 (by rw [invalid]; decide)
    · exact kept fun accepted => absurd accepted.2.1 (by rw [invalid]; decide)
  · exact kept fun accepted => absurd accepted.1 (by rw [isClosed]; decide)

theorem ends_dropSchema (schema : String) {c : Connection (Recorded σ)}
    (distinct : c.cache.Distinct) :
    (Connection.dropSchema schema).Ends c fun asked _ c' =>
      Turns [] (fun names => c.isOpen = true ∧ (Operation.dropSchema schema).Forgets names)
        asked c.cache c'.cache := by
  have kept {asked : List Exchange} (refused : ¬ (c.isOpen = true ∧
      Name.isIdentifier schema = true)) :
      Turns [] (fun names => c.isOpen = true ∧ (Operation.dropSchema schema).Forgets names)
        asked c.cache c.cache :=
    turns_forgetting distinct
      (fun _ forgets => absurd ⟨forgets.1, forgets.2.1⟩ refused) fun _ _ => rfl
  refine Ends.bind (ends_requireOpen (fun isOpen => ?_) fun isClosed => ?_)
  · refine Ends.bind (ends_checkIdentifier (fun valid => ?_) fun invalid _ => ?_)
    · refine ends_updateCache (turns_forgetting
        (DefinitionCache.distinct_forgetSchema distinct schema) (fun names forgets => ?_)
        fun names keeps => ?_)
      · rw [DefinitionCache.table?_forgetSchema distinct, if_pos forgets.2.2]
      · rw [DefinitionCache.table?_forgetSchema distinct, if_neg]
        exact fun same => keeps ⟨isOpen, valid, same⟩
    · exact kept fun accepted => absurd accepted.2 (by rw [invalid]; decide)
  · exact kept fun accepted => absurd accepted.1 (by rw [isClosed]; decide)

/-- Every operation remembers what it is told about the tables that it looks up, and only two
forget. -/
theorem ends_perform (operation : Operation) {c : Connection (Recorded σ)} (records : c.Records)
    (distinct : c.cache.Distinct) :
    operation.perform.Ends c fun asked _ c' =>
      Turns operation.lookups (fun names => c.isOpen = true ∧ operation.Forgets names) asked
        c.cache c'.cache := by
  have learned {α : Type} {action : Action (Recorded σ) α} {lookups : List (String × String)}
      {forgets : String × String → Prop} (learning : Learning lookups action)
      (keeps : ∀ names, ¬ (c.isOpen = true ∧ forgets names)) : action.Ends c fun asked _ c' =>
        Turns lookups (fun names => c.isOpen = true ∧ forgets names) asked c.cache c'.cache :=
    (learning c records distinct).mono fun _ _ _ _ learns => learns.turns keeps
  have keeps (names : String × String) : ¬ (c.isOpen = true ∧ False) := fun forgets => forgets.2
  cases operation with
  | server => exact learned learning_serverInfo keeps
  | openSchema name => exact learned (learning_schema name) keeps
  | createSchema name => exact learned (learning_schema name) keeps
  | dropSchema name => exact ends_dropSchema name distinct
  | findTable schema table =>
      exact learned (learning_findTable (oneSchema_singleton _) (List.mem_singleton_self _)) keeps
  | openTable schema name =>
      have found := learning_findTable (σ := σ) (oneSchema_singleton (schema, name))
        (List.mem_singleton_self _)
      exact learned ((found.bind fun _ => learning_check _).bind fun _ => learning_pure _) keeps
  | hasTable schema table columns =>
      have found := learning_findTable (σ := σ) (oneSchema_singleton (schema, table))
        (List.mem_singleton_self _)
      refine learned (found.bind fun table? => ?_) keeps
      cases table? <;> exact learning_pure _
  | hasTables schema tables =>
      have oneSchema : OneSchema (tables.map fun table => (schema, table)) := by
        intro lookup member other member'
        rcases List.mem_map.mp member with ⟨_, _, rfl⟩
        rcases List.mem_map.mp member' with ⟨_, _, rfl⟩
        rfl
      refine learned (learning_hasTables oneSchema fun table member => ?_) keeps
      exact List.mem_map_of_mem member
  | createTable schema table columns temporary ifNotExists =>
      exact learned (learning_requireOpen.bind fun _ => (learning_check _).bind fun pieces =>
        learning_ask (.batch pieces) nofun) keeps
  | dropTable schema table => exact ends_dropTable schema table records distinct
  | createIndex schema table index columns unique ifNotExists =>
      exact learned (learning_requireOpen.bind fun _ => (learning_check _).bind fun _ =>
        (learning_check _).bind fun pieces => learning_ask (.batch pieces) nofun) keeps
  | dropIndex schema index =>
      exact learned (learning_requireOpen.bind fun _ => (learning_check _).bind fun _ =>
        (learning_check _).bind fun _ => learning_ask (.batch _) nofun) keeps
  | findIndex schema index => exact learned (learning_findIndex schema index) keeps
  | hasIndex schema index =>
      exact learned ((learning_findIndex schema index).bind fun _ => learning_pure _) keeps
  | find h q => exact learned (learning_find h q) keeps
  | findOne h q => exact learned ((learning_find h q.first).bind fun _ => learning_pure _) keeps
  | findAll h q => exact learned (learning_find h (q.select .all)) keeps
  | count h f =>
      exact learned ((learning_check _).bind fun _ => (learning_queryOne _).bind fun _ =>
        learning_pure _) keeps
  | insert h row returnId =>
      exact learned ((learning_check _).bind fun statement =>
        (learning_ask (.run statement) nofun).bind fun _ => learning_pure _) keeps
  | insertMany h rows returnId => exact learned (learning_insertMany h rows returnId) keeps
  | update h changes f => exact learned (learning_change _) keeps
  | remove h f => exact learned (learning_change _) keeps
  | truncate h => exact learned (learning_change _) keeps

end DocumentQuery
