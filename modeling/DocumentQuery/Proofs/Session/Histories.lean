import DocumentQuery.Proofs.Session.Lookups

namespace DocumentQuery

open DocumentQuery.Action

/-!
# Histories of connections

A run of a connection is a list of steps: operations, and closing.  Its history says of each step
what the store was asked in it and what it answered.

What a connection remembers can be read off its history.  Under two names it remembers the
definition that the last description with columns has made for them, unless the table was dropped
since, or its schema, or the connection was closed.  The invariant is kept by each step, and it
decides what every lookup asks and returns.
-/

variable {σ α : Type}

/-- A step of a run. -/
inductive Step where
  | perform (operation : Operation)
  | close

namespace Step

/-- The tables that are looked up. -/
def lookups : Step → List (String × String)
  | perform operation => operation.lookups
  | close => []

/-- The step forgets what is remembered under the names, if the connection is open. -/
def Forgets : Step → String × String → Prop
  | perform operation, names => operation.Forgets names
  | close, _ => True

end Step

/-- A step that was taken, and what the store was asked in it. -/
structure Moment where
  step : Step
  isOpen : Bool
  asked : List Exchange

namespace Moment

/-- The store has described the table that was looked up under the names, with columns. -/
def Describes (m : Moment) : String × String → List StoredColumn → Prop :=
  Described m.step.lookups m.asked

/-- What was remembered under the names is forgotten. -/
def Forgets (m : Moment) (names : String × String) : Prop :=
  m.isOpen = true ∧ m.step.Forgets names

end Moment

/-- Nothing is described or forgotten under the names. -/
def Undisturbed (moments : List Moment) (names : String × String) : Prop :=
  ∀ m ∈ moments, ¬ m.Forgets names ∧ ∀ columns, ¬ m.Describes names columns

/-- The columns are those of the last description for the names, and nothing has been forgotten
since. -/
def LastDescribed (moments : List Moment) (names : String × String) (columns : List StoredColumn) :
    Prop :=
  ∃ before m after, moments = before ++ m :: after ∧ m.Describes names columns ∧
    Undisturbed after names

/-- The definition that is remembered under the names, as the history has it. -/
def Remembered (moments : List Moment) (names : String × String) (d : Table) : Prop :=
  ∃ columns, LastDescribed moments names columns ∧ d = definition names columns

namespace Connection

/-- What the store is asked between two states of a connection. -/
def askedUntil (c c' : Connection (Recorded σ)) : List Exchange :=
  c'.state.exchanges.drop c.state.exchanges.length

def take (c : Connection (Recorded σ)) : Step → Connection (Recorded σ)
  | .perform operation => (operation.perform.run c).2
  | .close => c.close

/-- The connection after some steps. -/
def after (c : Connection (Recorded σ)) (steps : List Step) : Connection (Recorded σ) :=
  steps.foldl take c

/-- What has happened in some steps. -/
def history (c : Connection (Recorded σ)) : List Step → List Moment
  | [] => []
  | step :: rest => ⟨step, c.isOpen, c.askedUntil (c.take step)⟩ :: (c.take step).history rest

theorem Extends.askedUntil_eq {c c' : Connection (Recorded σ)} {added : List Exchange}
    (extension : c.Extends c' added) : c.askedUntil c' = added := by
  rw [askedUntil, extension.exchanges_eq, List.drop_left]

end Connection

/-- What is shown of the end of an action holds of what is asked until then. -/
theorem Action.Ends.askedUntil {action : Action (Recorded σ) α} {c : Connection (Recorded σ)}
    {post : List Exchange → Except QueryError α → Connection (Recorded σ) → Prop}
    (ends : action.Ends c post) :
    post (c.askedUntil (action.run c).2) (action.run c).1 (action.run c).2 ∧
      c.Extends (action.run c).2 (c.askedUntil (action.run c).2) := by
  rcases ends with ⟨added, result, c', run, extension, holds⟩
  rw [run, extension.askedUntil_eq]
  exact ⟨holds, extension⟩

/-! ## One step -/

theorem records_close {c : Connection (Recorded σ)} (records : c.Records) : c.close.Records := by
  rw [Connection.close]
  split <;> exact records

/-- Closing forgets everything, and closing again changes nothing. -/
theorem turns_close {c : Connection (Recorded σ)} (distinct : c.cache.Distinct)
    (asked : List Exchange) :
    Turns [] (fun names => c.isOpen = true ∧ Step.close.Forgets names) asked c.cache
      c.close.cache := by
  rw [Connection.close]
  split
  · rename_i isOpen
    exact turns_forgetting (DefinitionCache.distinct_ofDatabase _) (fun _ _ => rfl)
      fun _ keeps => absurd ⟨isOpen, trivial⟩ keeps
  · rename_i isClosed
    exact turns_forgetting distinct (fun _ forgets => absurd forgets.1 isClosed) fun _ _ => rfl

theorem turns_take (step : Step) {c : Connection (Recorded σ)} (records : c.Records)
    (distinct : c.cache.Distinct) :
    (c.take step).Records ∧
      Turns step.lookups (fun names => c.isOpen = true ∧ step.Forgets names)
        (c.askedUntil (c.take step)) c.cache (c.take step).cache := by
  cases step with
  | perform operation =>
      rcases (ends_perform operation records distinct).askedUntil with ⟨turns, extension⟩
      exact ⟨extension.records records, turns⟩
  | close => exact ⟨records_close records, turns_close distinct _⟩

/-! ## Runs -/

/-- The last description in a longer history is in its later part, or else in the earlier one and
undisturbed since. -/
theorem lastDescribed_append_iff {moments later : List Moment} {names : String × String}
    {columns : List StoredColumn} :
    LastDescribed (moments ++ later) names columns ↔ LastDescribed later names columns ∨
      (LastDescribed moments names columns ∧ Undisturbed later names) := by
  constructor
  · rintro ⟨before, m, after, split, describes, undisturbed⟩
    rcases List.append_eq_append_iff.mp split with ⟨between, rfl, rfl⟩ | ⟨between, rfl, rest⟩
    · exact .inl ⟨between, m, after, rfl, describes, undisturbed⟩
    · cases between with
      | nil => exact .inl ⟨[], m, after, rest.symm, describes, undisturbed⟩
      | cons first between =>
          cases rest
          refine .inr ⟨⟨before, m, between, rfl, describes, fun other member => ?_⟩, ?_⟩
          · exact undisturbed other (List.mem_append_left later member)
          · exact fun other member => undisturbed other (List.mem_append_right between member)
  · rintro (⟨before, m, after, rfl, describes, undisturbed⟩ |
      ⟨⟨before, m, after, rfl, describes, undisturbed⟩, undisturbedLater⟩)
    · exact ⟨moments ++ before, m, after, (List.append_assoc ..).symm, describes, undisturbed⟩
    · refine ⟨before, m, after ++ later, List.append_assoc .., describes, fun other member => ?_⟩
      exact (List.mem_append.mp member).elim (undisturbed other) (undisturbedLater other)

/-- One more step: either it describes the table, or an earlier description is still the last one. -/
theorem lastDescribed_concat_iff {moments : List Moment} {m : Moment} {names : String × String}
    {columns : List StoredColumn} :
    LastDescribed (moments ++ [m]) names columns ↔ m.Describes names columns ∨
      (LastDescribed moments names columns ∧ ¬ m.Forgets names ∧
        ∀ others, ¬ m.Describes names others) := by
  have single : LastDescribed [m] names columns ↔ m.Describes names columns := by
    constructor
    · rintro ⟨before, m', after, split, describes, _⟩
      rcases List.singleton_eq_append_iff.mp split with ⟨_, same⟩ | ⟨_, same⟩
      · cases same
        exact describes
      · exact nomatch same
    · exact fun describes => ⟨[], m, [], rfl, describes, fun _ member => nomatch member⟩
  rw [lastDescribed_append_iff, single, Undisturbed, List.forall_mem_singleton]

theorem remembered_append_iff {moments later : List Moment} {names : String × String} {d : Table} :
    Remembered (moments ++ later) names d ↔ Remembered later names d ∨
      (Remembered moments names d ∧ Undisturbed later names) := by
  simp only [Remembered, lastDescribed_append_iff, or_and_right, exists_or]
  refine or_congr_right ⟨?_, ?_⟩
  · rintro ⟨columns, ⟨last, undisturbed⟩, rfl⟩
    exact ⟨⟨columns, last, rfl⟩, undisturbed⟩
  · rintro ⟨⟨columns, last, rfl⟩, undisturbed⟩
    exact ⟨columns, ⟨last, undisturbed⟩, rfl⟩

/-- A connection remembers what its history says. -/
structure Follows (moments : List Moment) (c : Connection (Recorded σ)) : Prop where
  records : c.Records
  distinct : c.cache.Distinct
  known : ∀ names : String × String,
    (fun d => c.cache.table? names.1 names.2 = some d) = Remembered moments names

/-- The step lemma: a step after a history follows the longer history. -/
theorem Follows.take {moments : List Moment} {c : Connection (Recorded σ)}
    (follows : Follows moments c) (step : Step) :
    Follows (moments ++ [⟨step, c.isOpen, c.askedUntil (c.take step)⟩]) (c.take step) := by
  rcases turns_take step follows.records follows.distinct with ⟨records, turns⟩
  refine ⟨records, turns.distinct, fun names => ?_⟩
  funext d
  have before := congrFun (follows.known names) d
  refine propext ((turns.known names d).trans ?_)
  rw [before]
  simp only [Remembered, lastDescribed_concat_iff]
  constructor
  · rintro (⟨columns, described, rfl⟩ | ⟨⟨columns, last, rfl⟩, keeps⟩)
    · exact ⟨columns, .inl described, rfl⟩
    · refine ⟨columns, .inr ⟨last, keeps, fun others described => ?_⟩, rfl⟩
      -- What is described in this step was not remembered.
      have unknown := turns.unknown names others described
      have known : c.cache.table? names.1 names.2 = some (definition names columns) :=
        before ▸ ⟨columns, last, rfl⟩
      rw [unknown] at known
      exact nomatch known
  · rintro ⟨columns, described | ⟨last, keeps, _⟩, rfl⟩
    · exact .inl ⟨columns, described, rfl⟩
    · exact .inr ⟨⟨columns, last, rfl⟩, keeps⟩

theorem not_remembered_nil (names : String × String) (d : Table) : ¬ Remembered [] names d := by
  rintro ⟨_, ⟨before, m, after, split, _⟩, _⟩
  exact absurd split.symm (by simp)

/-- A connection that has been started remembers nothing. -/
theorem follows_start {config : Config} {store : Store σ} {state : σ} {c : Connection σ}
    (started : Connection.start config store state = .ok c) : Follows [] c.recording := by
  have cache_eq : c.cache = .ofDatabase config.database := by
    rw [Connection.start] at started
    split at started
    · rw [← Except.ok.inj started]
    · exact nomatch started
  have recorded : c.recording.cache = .ofDatabase config.database := cache_eq
  refine ⟨c.records_recording, ?_, fun names => funext fun d => propext ?_⟩
  · rw [recorded]
    exact DefinitionCache.distinct_ofDatabase _
  · rw [recorded, DefinitionCache.table?_ofDatabase]
    exact iff_of_false nofun (not_remembered_nil names d)

/-- The run lemma: a connection that follows a history follows it along every run. -/
theorem Follows.after {moments : List Moment} {c : Connection (Recorded σ)}
    (follows : Follows moments c) (steps : List Step) :
    Follows (moments ++ c.history steps) (c.after steps) := by
  induction steps generalizing moments c with
  | nil =>
      rw [Connection.history, List.append_nil]
      exact follows
  | cons step rest inductionHypothesis =>
      rw [Connection.history, List.append_cons]
      exact inductionHypothesis (follows.take step)

/-! ## Lookups in a run -/

namespace Connection

/-- What an operation asks of the store. -/
def asks (c : Connection (Recorded σ)) (operation : Operation) : List Exchange :=
  c.askedUntil (c.take (.perform operation))

/-- What an operation returns. -/
def returns (c : Connection (Recorded σ)) (operation : Operation) :
    Except QueryError operation.Result :=
  (operation.perform.run c).1

end Connection

/-- The query that an operation asks, and the table that it is asked of. -/
def Operation.query? : Operation → Option (TableHandle × Query)
  | find h q => some (h, q)
  | findOne h q => some (h, q.first)
  | findAll h q => some (h, q.select .all)
  | _ => none

/-- Every way of looking up a table by its names uses the known definition, or asks for a single
description.  Several tables are looked up one after the other. -/
structure TableLookups (c : Connection (Recorded σ)) (known : Table → Prop) (schema table : String) :
    Prop where
  find : LooksUp known (schema, table) (c.asks (.findTable schema table))
    (c.returns (.findTable schema table))
  opened : ∃ found, LooksUp known (schema, table) (c.asks (.openTable schema table)) found ∧
    c.returns (.openTable schema table) = found >>= fun table? =>
      (orReject table? (.noTable (Name.qualified schema table))).map TableHandle.mk
  has : ∀ columns, ∃ found,
    LooksUp known (schema, table) (c.asks (.hasTable schema table columns)) found ∧
      c.returns (.hasTable schema table columns) =
        found.map fun table? => table?.any fun d => d.hasColumns columns
  hasMore : ∀ (rest : List String) (d : Table), c.returns (.findTable schema table) = .ok (some d) →
    c.asks (.hasTables schema (table :: rest)) = c.asks (.findTable schema table) ++
        (c.take (.perform (.findTable schema table))).asks (.hasTables schema rest) ∧
      c.returns (.hasTables schema (table :: rest)) =
        (c.take (.perform (.findTable schema table))).returns (.hasTables schema rest)
  hasNoMore : ∀ rest : List String,
    (∀ d : Table, c.returns (.findTable schema table) ≠ .ok (some d)) →
    c.asks (.hasTables schema (table :: rest)) = c.asks (.findTable schema table) ∧
      c.returns (.hasTables schema (table :: rest)) =
        (c.returns (.findTable schema table)).map fun _ => false

section

variable {c : Connection (Recorded σ)} (records : c.Records) (distinct : c.cache.Distinct)
  (isOpen : c.isOpen = true)

include records distinct isOpen

theorem tableLookups {schema table : String} (validSchema : Name.isIdentifier schema = true)
    (validTable : Name.isIdentifier table = true) :
    TableLookups c (fun d => c.cache.table? schema table = some d) schema table where
  find := (ends_findTable records distinct isOpen validSchema validTable).askedUntil.1
  opened := (ends_openTable records distinct isOpen validSchema validTable).askedUntil.1
  has columns := (ends_hasTable records distinct isOpen validSchema validTable columns).askedUntil.1
  hasMore rest d found := by
    have first := (ends_perform (.findTable schema table) records distinct).askedUntil
    have second := (ends_perform (.hasTables schema rest) (first.2.records records)
      first.1.distinct).askedUntil.2
    have found_eq : ((Connection.findTable schema table).run c).1 = .ok (some d) := found
    have run : (Connection.hasTables schema (table :: rest)).run c =
        (Connection.hasTables schema rest).run ((Connection.findTable schema table).run c).2 := by
      rw [hasTables_cons, ← Prod.eta ((Connection.findTable schema table).run c), found_eq]
    have asked_eq : c.asks (.hasTables schema (table :: rest)) = c.askedUntil
        ((Connection.hasTables schema rest).run ((Connection.findTable schema table).run c).2).2 := by
      rw [← run]
      rfl
    refine ⟨?_, congrArg Prod.fst run⟩
    rw [asked_eq]
    exact (first.2.trans second).askedUntil_eq
  hasNoMore rest missing := by
    have run := hasTables_cons schema table rest c
    have missing' : ∀ d, ((Connection.findTable schema table).run c).1 ≠ .ok (some d) := missing
    change c.askedUntil ((Connection.hasTables schema (table :: rest)).run c).2 =
      c.askedUntil ((Connection.findTable schema table).run c).2 ∧
      ((Connection.hasTables schema (table :: rest)).run c).1 =
        ((Connection.findTable schema table).run c).1.map fun _ => false
    rw [run]
    generalize (Connection.findTable schema table).run c = ended at missing'
    rcases ended with ⟨error | (_ | d), c'⟩
    · exact ⟨rfl, rfl⟩
    · exact ⟨rfl, rfl⟩
    · exact absurd rfl (missing' d)

theorem targetLookup {operation : Operation} {h : TableHandle} {q : Query}
    {names : String × String} (asked : operation.query? = some (h, q))
    (lookups_eq : h.lookups q = [names]) :
    LooksUpTarget (fun d => c.cache.table? names.1 names.2 = some d) h q names
      (c.asks operation) (c.returns operation) := by
  cases operation with
  | find h' q' =>
      cases asked
      exact (ends_find lookups_eq records distinct isOpen).askedUntil.1
  | findOne h' q' =>
      cases asked
      exact (ends_findOne lookups_eq records distinct isOpen).askedUntil.1
  | findAll h' q' =>
      cases asked
      exact (ends_find lookups_eq records distinct isOpen).askedUntil.1
  | _ => exact nomatch asked

end

/-- After every run a connection remembers, under all names, what the history of the run says.
Only a description with columns and forgetting change that, and only under their own names.  As
long as the connection is open, every lookup of a table returns the definition of the last
description without asking, or else asks for exactly one description. -/
theorem definitions_follow_history {config : Config} {store : Store σ} {state : σ}
    {c : Connection σ} (started : Connection.start config store state = .ok c)
    (steps : List Step) :
    let now := c.recording.after steps
    let moments := c.recording.history steps
    (∀ (names : String × String) (d : Table),
      now.cache.table? names.1 names.2 = some d ↔ Remembered moments names d) ∧
    (∀ (operation : Operation) (names : String × String), ¬ operation.Forgets names →
      (∀ columns, ¬ Described operation.lookups (now.asks operation) names columns) →
      (now.take (.perform operation)).cache.table? names.1 names.2 =
        now.cache.table? names.1 names.2) ∧
    (now.isOpen = true →
      (∀ schema table, Name.isIdentifier schema = true → Name.isIdentifier table = true →
        TableLookups now (Remembered moments (schema, table)) schema table) ∧
      ∀ operation h q names, operation.query? = some (h, q) → h.lookups q = [names] →
        LooksUpTarget (Remembered moments names) h q names (now.asks operation)
          (now.returns operation)) := by
  intro now moments
  have follows : Follows moments now := (follows_start started).after steps
  refine ⟨fun names d => ?_, fun operation names keeps silent => ?_, fun isOpen => ⟨?_, ?_⟩⟩
  · rw [← follows.known]
  · rcases turns_take (.perform operation) follows.records follows.distinct with ⟨_, turns⟩
    refine Option.ext fun d => (turns.known names d).trans ?_
    constructor
    · rintro (⟨columns, described, _⟩ | ⟨known, _⟩)
      · exact absurd described (silent columns)
      · exact known
    · exact fun known => .inr ⟨known, fun forgets => keeps forgets.2⟩
  · intro schema table validSchema validTable
    rw [← follows.known]
    exact tableLookups follows.records follows.distinct isOpen validSchema validTable
  · intro operation h q names asked lookups_eq
    rw [← follows.known]
    exact targetLookup follows.records follows.distinct isOpen asked lookups_eq

/-- A table is described when it is looked up first, and not again.  After a drop that has failed
it is described once more. -/
theorem definitions_follow_history_drop :
    let script : Script :=
      { version := .ok "3"
        tables := ⟨[("notes", [⟨"text", "text", false, false⟩])]⟩
        replies := { batch := [.error ⟨.query, "database is locked"⟩] } }
    let found : Step := .perform (.findTable "default" "Notes")
    let dropped : Step := .perform (.dropTable "DEFAULT" "notes")
    ∃ c, Connection.start .inMemory Script.store script = .ok c ∧
      (c.recording.after [found]).asks (.findTable "default" "notes") = [] ∧
      ∃ answer : Except StoreError (List StoredColumn),
        (c.recording.after [found, dropped]).asks (.findTable "default" "notes") =
          [⟨.describe (Name.qualified "default" "notes"), answer⟩] := by
  intro script found dropped
  have started : ∃ c, Connection.start .inMemory Script.store script = .ok c := ⟨_, rfl⟩
  rcases started with ⟨c, started⟩
  refine ⟨c, started, ?_, ?_⟩
  · rcases definitions_follow_history started [found] with ⟨remembered, _, lookups⟩
    cases started
    have isKnown := (remembered ("default", "notes") _).mp rfl
    exact ((lookups rfl).1 "default" "notes" (by decide) (by decide)).find.of_known isKnown
  · rcases definitions_follow_history started [found, dropped] with ⟨remembered, _, lookups⟩
    cases started
    refine ((lookups rfl).1 "default" "notes" (by decide) (by decide)).find.of_unknown fun d => ?_
    rw [← remembered]
    exact nofun

end DocumentQuery
