import DocumentQuery.Proofs.Session.Batches
import DocumentQuery.Proofs.Session.Operations
import DocumentQuery.Proofs.Sql.Refusals

namespace DocumentQuery

open DocumentQuery.Action DocumentQuery.Sql

/-!
# Operations that are rejected

An operation is rejected for its arguments, for an operator or a join target that does not exist,
or because the connection is closed.  A rejected operation has executed nothing: at most it has
read definitions of tables, and on a closed connection it has asked for nothing at all.

Operations come in two phases.  First they look: they check their arguments and read definitions.
Then they may execute, once, and whatever follows cannot fail any more.  `Guards` says of an action
that it is safe to stop in either phase, and has one lemma for each way in which the phases are put
together.
-/

/-- The operation was not carried out, for its arguments or because the connection is closed. -/
def QueryError.isRejection : QueryError → Bool
  | .invalidArgument _ => true
  | .unknownOperator _ => true
  | .targetNotFound _ _ => true
  | .notConnected => true
  | .store _ => false
  | .config _ => false

/-- Only definitions of tables are read. -/
def Describing (asked : List Exchange) : Prop :=
  ∀ exchange ∈ asked, ∃ table, exchange.call = .describe table

variable {σ α β : Type}

def Rejected (result : Except QueryError α) : Prop :=
  ∃ error, result = .error error ∧ error.isRejection = true

/-- What is asked is only definitions, unless something may be executed and the result is not a
rejection.  A closed connection asks for nothing, and no other one is reported as closed. -/
structure Guarded (executes isOpen : Bool) (asked : List Exchange) (result : Except QueryError α) :
    Prop where
  describing : (executes = true → Rejected result) → Describing asked
  silent : isOpen = false → asked = []
  connected : result = .error .notConnected → isOpen = false

/-- An action is guarded on every connection. -/
def Guards (executes : Bool) (action : Action (Recorded σ) α) : Prop :=
  ∀ c : Connection (Recorded σ), c.Records →
    action.Ends c fun asked result _ => Guarded executes c.isOpen asked result

/-- An action that asks for nothing and succeeds. -/
def Succeeds (action : Action (Recorded σ) α) : Prop :=
  ∀ c : Connection (Recorded σ), action.Ends c fun asked result _ => asked = [] ∧ ∃ a, result = .ok a

theorem describing_nil : Describing [] := fun _ member => nomatch member

theorem Describing.append {asked more : List Exchange} (first : Describing asked)
    (second : Describing more) : Describing (asked ++ more) := fun exchange member =>
  (List.mem_append.mp member).elim (first exchange) (second exchange)

namespace Guarded

variable {executes isOpen : Bool} {asked more : List Exchange}

/-- What is refused for its arguments is guarded, when nothing is asked. -/
theorem of_refusing {checked : Except QueryError α} (refusing : Refusing checked) :
    Guarded executes isOpen [] checked where
  describing _ := describing_nil
  silent _ := rfl
  connected closed := by
    rcases refusing _ closed with ⟨fault, same⟩
    cases same

theorem closed (isClosed : isOpen = false) :
    Guarded executes isOpen [] (.error .notConnected : Except QueryError α) where
  describing _ := describing_nil
  silent _ := rfl
  connected _ := isClosed

/-- On an open connection anything may be asked that does not end with a rejection. -/
theorem of_not_rejected (opened : isOpen = true) {result : Except QueryError α}
    (notRejected : ¬ Rejected result) : Guarded true isOpen asked result where
  describing rejected := absurd (rejected rfl) notRejected
  silent isClosed := absurd (opened.symm.trans isClosed) (by decide)
  connected reported := absurd ⟨_, reported, rfl⟩ notRejected

/-- The answer of the store is not a rejection. -/
theorem answered (opened : isOpen = true) {call : Call} (answer : Except StoreError call.Answer) :
    Guarded true isOpen [⟨call, answer⟩] (resultOf answer) := by
  refine of_not_rejected opened ?_
  rintro ⟨error, same, isRejection⟩
  cases answer with
  | ok _ => exact nomatch same
  | error _ =>
      cases same
      exact nomatch isRejection

/-- A failure stays guarded as the failure of a larger action. -/
theorem failed {error : QueryError}
    (guarded : Guarded executes isOpen asked (.error error : Except QueryError α)) :
    Guarded executes isOpen asked (.error error : Except QueryError β) where
  describing rejected := guarded.describing fun executed => by
    rcases rejected executed with ⟨_, same, isRejection⟩
    cases same
    exact ⟨error, rfl, isRejection⟩
  silent := guarded.silent
  connected reported := guarded.connected (congrArg Except.error (Except.error.inj reported))

/-- Looking comes before anything that is guarded. -/
theorem after {looked : Except QueryError α} {result : Except QueryError β}
    (first : Guarded false isOpen asked looked) (second : Guarded executes isOpen more result) :
    Guarded executes isOpen (asked ++ more) result where
  describing rejected := (first.describing nofun).append (second.describing rejected)
  silent isClosed := by rw [first.silent isClosed, second.silent isClosed, List.append_nil]
  connected := second.connected

/-- What only looks may stand where something may be executed. -/
theorem looking {result : Except QueryError α} (guarded : Guarded false isOpen asked result) :
    Guarded executes isOpen asked result where
  describing _ := guarded.describing nofun
  silent := guarded.silent
  connected := guarded.connected

/-- Success after success is guarded, if nothing more is asked. -/
theorem succeeded {a : α} {b : β} (guarded : Guarded true isOpen asked (.ok a)) :
    Guarded true isOpen asked (.ok b) where
  describing rejected := by
    rcases rejected rfl with ⟨_, same, _⟩
    exact nomatch same
  silent := guarded.silent
  connected := nofun

end Guarded

/-! ## Putting phases together -/

namespace Guards

variable {executes : Bool}

/-- After looking anything that is guarded may follow. -/
theorem bind {action : Action (Recorded σ) α} {next : α → Action (Recorded σ) β}
    (first : Guards false action) (second : ∀ a, Guards executes (next a)) :
    Guards executes (action >>= next) := fun c records => by
  refine Ends.bind ((first c records).mono fun asked result c' extends' guarded => ?_)
  cases result with
  | error error => exact guarded.looking.failed
  | ok a =>
      refine (second a c' (extends'.records records)).mono fun more result _ _ later => ?_
      rw [extends'.isOpen_eq] at later
      exact guarded.after later

/-- After something has been executed nothing may fail. -/
theorem then_succeeds {action : Action (Recorded σ) α} {next : α → Action (Recorded σ) β}
    (first : Guards true action) (second : ∀ a, Succeeds (next a)) :
    Guards true (action >>= next) := fun c records => by
  refine Ends.bind ((first c records).mono fun asked result c' _ guarded => ?_)
  cases result with
  | error error => exact guarded.failed
  | ok a =>
      refine (second a c').mono fun more result _ _ succeeds => ?_
      rcases succeeds with ⟨rfl, b, rfl⟩
      rw [List.append_nil]
      exact guarded.succeeded

end Guards

section

variable {executes : Bool}

theorem guards_pure (a : α) : Guards executes (pure a : Action (Recorded σ) α) := fun _ _ =>
  ends_pure (Guarded.of_refusing (refusing_ok a))

theorem guards_check {checked : Except QueryError α} (refusing : Refusing checked) :
    Guards executes (Connection.check checked : Action (Recorded σ) α) := fun _ _ =>
  ends_check (Guarded.of_refusing refusing)

/-- What is accepted may be used by what comes after the check. -/
theorem guards_check_bind {checked : Except QueryError α} {next : α → Action (Recorded σ) β}
    (refusing : Refusing checked) (second : ∀ a, checked = .ok a → Guards executes (next a)) :
    Guards executes (Connection.check checked >>= next) := by
  cases checked with
  | error error =>
      exact fun _ _ => Ends.bind (ends_check (Guarded.of_refusing refusing).failed)
  | ok a => exact second a rfl

theorem guards_throw {error : QueryError} (connected : error ≠ .notConnected) :
    Guards executes (throw error : Action (Recorded σ) α) := fun _ _ =>
  ends_throw
    { describing := fun _ => describing_nil
      silent := fun _ => rfl
      connected := fun reported => absurd (Except.error.inj reported) connected }

theorem guards_requireOpen : Guards executes (Connection.requireOpen : Action (Recorded σ) Unit) :=
  fun _ _ => ends_requireOpen (fun _ => .of_refusing (refusing_ok ())) Guarded.closed

theorem guards_cached : Guards executes (Connection.cached : Action (Recorded σ) DefinitionCache) :=
  fun _ _ => ends_cached (Guarded.of_refusing (refusing_ok _))

theorem guards_updateCache (f : DefinitionCache → DefinitionCache) :
    Guards executes (Connection.updateCache f : Action (Recorded σ) Unit) := fun _ _ =>
  ends_updateCache (Guarded.of_refusing (refusing_ok ()))

theorem succeeds_pure (a : α) : Succeeds (pure a : Action (Recorded σ) α) := fun _ =>
  ends_pure ⟨rfl, a, rfl⟩

theorem guards_ask (call : Call) :
    Guards true (Connection.ask call : Action (Recorded σ) call.Answer) := fun _ records =>
  ends_ask records (fun opened answer _ _ _ => .answered opened answer) Guarded.closed

/-- Reading a definition is looking. -/
theorem guards_describe (table : String) :
    Guards executes (Connection.ask (.describe table) : Action (Recorded σ) _) := fun _ records =>
  ends_ask records
    (fun opened answer _ _ _ =>
      { describing := fun _ _ member =>
          ⟨table, congrArg Exchange.call (List.mem_singleton.mp member)⟩
        silent := (Guarded.answered opened answer).silent
        connected := (Guarded.answered opened answer).connected })
    Guarded.closed

end

/-! ## Definitions of tables -/

section

variable {executes : Bool}

theorem guards_checkIdentifier (kind name : String) :
    Guards executes (Connection.check (checkIdentifier kind name) : Action (Recorded σ) Unit) :=
  guards_check (refusing_checkIdentifier kind name)

theorem guards_loadTable (schema table : String) :
    Guards executes (Connection.loadTable schema table : Action (Recorded σ) (Option Table)) := by
  refine guards_requireOpen.bind fun _ => guards_cached.bind fun cache => ?_
  cases cache.table? schema table with
  | some found => exact guards_pure _
  | none =>
      refine (guards_describe _).bind fun columns => ?_
      split
      · exact guards_pure none
      · exact (guards_updateCache _).bind fun _ => guards_pure _

theorem guards_findTable (schema table : String) :
    Guards executes (Connection.findTable schema table : Action (Recorded σ) (Option Table)) :=
  guards_requireOpen.bind fun _ => (guards_checkIdentifier _ _).bind fun _ =>
    (guards_checkIdentifier _ _).bind fun _ => guards_loadTable schema table

theorem guards_openTable (schema name : String) :
    Guards executes (TableHandle.openTable schema name : Action (Recorded σ) TableHandle) :=
  ((guards_findTable schema name).bind fun _ => guards_check (refusing_orReject _ _)).bind
    fun _ => guards_pure _

theorem guards_hasTable (schema table : String) (columns : List String) :
    Guards executes (Connection.hasTable schema table columns : Action (Recorded σ) Bool) := by
  refine (guards_findTable schema table).bind fun table? => ?_
  cases table? <;> exact guards_pure _

theorem guards_hasTables (schema : String) (tables : List String) :
    Guards executes (Connection.hasTables schema tables : Action (Recorded σ) Bool) := by
  induction tables with
  | nil => exact guards_requireOpen.bind fun _ => guards_pure true
  | cons table rest inductionHypothesis =>
      refine (guards_findTable schema table).bind fun table? => ?_
      cases table? with
      | none => exact guards_pure false
      | some found => exact inductionHypothesis

theorem guards_schema (name : String) :
    Guards executes (Connection.schema name : Action (Recorded σ) Schema) := by
  refine guards_requireOpen.bind fun _ => (guards_checkIdentifier _ _).bind fun _ => ?_
  intro c _
  refine Ends.bind (ends_get ?_)
  dsimp only
  cases c.cache.schema? name with
  | some found => exact ends_pure (Guarded.of_refusing (refusing_ok _))
  | none =>
      refine Ends.bind (ends_set ?_ (ends_pure (Guarded.of_refusing (refusing_ok _))))
      exact ⟨rfl, rfl, (List.append_nil _).symm⟩

theorem guards_dropSchema (name : String) :
    Guards executes (Connection.dropSchema name : Action (Recorded σ) Unit) :=
  guards_requireOpen.bind fun _ => (guards_checkIdentifier _ _).bind fun _ => guards_updateCache _

theorem guards_serverInfo :
    Guards executes (Connection.serverInfo : Action (Recorded σ) Server) :=
  guards_requireOpen.bind fun _ _ _ =>
    Ends.bind (ends_get (ends_pure (Guarded.of_refusing (refusing_ok _))))

end

/-! ## Creating and dropping -/

theorem guards_createTable (schema table : String) (columns : List ColumnDefinition)
    (temporary ifNotExists : Bool) :
    Guards true (Connection.createTable schema table columns temporary ifNotExists :
      Action (Recorded σ) Unit) :=
  guards_requireOpen.bind fun _ => (guards_check (refusing_createTable _ _ _ _ _)).bind fun _ =>
    guards_ask _

theorem guards_dropTable (schema table : String) :
    Guards true (Connection.dropTable schema table : Action (Recorded σ) Unit) := by
  refine guards_requireOpen.bind fun _ => (guards_checkIdentifier _ _).bind fun _ =>
    (guards_checkIdentifier _ _).bind fun _ => fun c records => ?_
  -- The result of the call is looked at last, after a step that cannot fail.
  refine Ends.bind (Ends.attempt (ends_ask records (fun opened answer _ _ _ => ?_)
    fun isClosed => ?_))
  · exact Ends.bind (ends_updateCache (ends_check (.answered opened answer)))
  · exact Ends.bind (ends_updateCache (ends_check (.closed isClosed)))

theorem guards_createIndex (schema table index : String) (columns : List String)
    (unique ifNotExists : Bool) :
    Guards true (Connection.createIndex schema table index columns unique ifNotExists :
      Action (Recorded σ) Unit) :=
  guards_requireOpen.bind fun _ => (guards_checkIdentifier _ _).bind fun _ =>
    (guards_check (refusing_createIndex _ _ _ _ _ _)).bind fun _ => guards_ask _

theorem guards_dropIndex (schema index : String) :
    Guards true (Connection.dropIndex schema index : Action (Recorded σ) Unit) :=
  guards_requireOpen.bind fun _ => (guards_checkIdentifier _ _).bind fun _ =>
    (guards_checkIdentifier _ _).bind fun _ => guards_ask _

theorem guards_queryOne (statement : Statement) :
    Guards true (Connection.queryOne statement : Action (Recorded σ) (Option Row)) :=
  (guards_ask _).then_succeeds fun _ => succeeds_pure _

theorem guards_findIndex (schema index : String) :
    Guards true (Connection.findIndex schema index : Action (Recorded σ) (Option String)) :=
  guards_requireOpen.bind fun _ => (guards_checkIdentifier _ _).bind fun _ =>
    (guards_checkIdentifier _ _).bind fun _ =>
      (guards_queryOne _).then_succeeds fun _ => succeeds_pure _

/-! ## Reading and writing -/

theorem guards_resolveJoin (source : Table) (join? : Option Join) :
    Guards false (TableHandle.resolveJoin source join? : Action (Recorded σ) (Option Table)) := by
  cases join? with
  | none => exact guards_pure none
  | some join =>
      refine Guards.bind ?_ fun _ => guards_pure _
      cases join.target with
      | table table => exact guards_pure table
      | named name =>
          refine (guards_loadTable _ _).bind fun table? => ?_
          cases table? with
          | some found => exact guards_pure found
          | none => exact guards_throw nofun

/-- The rows of a query are adapted without a further check. -/
theorem adaptRows_ok {q : Query} {join? : Option Join} (joined : q.join? = .ok join?)
    (source : Table) (target? : Option Table) (rows : List Row) :
    ∃ adapted, q.adaptRows source target? rows = .ok adapted := by
  rw [Query.adaptRows, joined, ok_bind]
  cases q.grouping? with
  | some g => exact ⟨_, rfl⟩
  | none => cases join? <;> cases target? <;> exact ⟨_, rfl⟩

theorem guards_find (h : TableHandle) (q : Query) :
    Guards true (h.find q : Action (Recorded σ) ResultSet) := by
  refine guards_check_bind (refusing_join? q) fun join? joined => ?_
  refine (guards_resolveJoin h.table join?).bind fun target? => ?_
  refine (guards_check (refusing_select q h.table target?)).bind fun statement => ?_
  refine (guards_ask _).then_succeeds fun rows => ?_
  -- The number of joins is checked once more here, but it has passed before the query was executed.
  rcases adaptRows_ok joined h.table target? rows with ⟨adapted, adapted_eq⟩
  rw [adapted_eq]
  exact fun _ => Ends.bind (ends_check (ends_pure ⟨rfl, _, rfl⟩))

theorem guards_count (h : TableHandle) (f : Filter) :
    Guards true (h.count f : Action (Recorded σ) UInt64) :=
  (guards_check (refusing_count h.table f)).bind fun _ =>
    (guards_queryOne _).then_succeeds fun _ => succeeds_pure _

theorem guards_change {statement : Except QueryError Statement} (refusing : Refusing statement) :
    Guards true (TableHandle.change statement : Action (Recorded σ) UInt64) :=
  (guards_check refusing).bind fun _ => (guards_ask _).then_succeeds fun _ => succeeds_pure _

theorem guards_insert (h : TableHandle) (row : Row) (returnId : Bool) :
    Guards true (h.insert row returnId : Action (Recorded σ) (Option Int64)) :=
  (guards_check (refusing_insert h.table row)).bind fun _ =>
    (guards_ask _).then_succeeds fun _ => succeeds_pure _

theorem guards_insertMany (h : TableHandle) (rows : List Row) (returnId : Bool) :
    Guards true (h.insertMany rows returnId : Action (Recorded σ) (List Int64)) := by
  intro c records
  refine (ends_insertMany h rows returnId records).mono fun asked result _ _ ends => ?_
  have refusing : Refusing (rows.mapM (Sql.insert h.table)) :=
    refusing_mapM rows (refusing_insert h.table)
  generalize rows.mapM (Sql.insert h.table) = checked at ends refusing
  cases ends with
  | refused error => exact (Guarded.of_refusing refusing).failed
  | empty => exact .of_refusing (refusing_ok [])
  | closed _ isClosed => exact .closed isClosed
  | asked _ opened course =>
      refine .of_not_rejected opened ?_
      rintro ⟨error, same, isRejection⟩
      cases course with
      | committed done each => exact nomatch same
      | notBegun e => cases same; exact nomatch isRejection
      | stopped done failed left each e answer => cases same; exact nomatch isRejection
      | notCommitted done each e => cases same; exact nomatch isRejection

/-! ## All operations -/

theorem guards_perform (operation : Operation) :
    Guards true (operation.perform : Action (Recorded σ) operation.Result) := by
  cases operation with
  | server => exact guards_serverInfo
  | openSchema name => exact guards_schema name
  | createSchema name => exact guards_schema name
  | dropSchema name => exact guards_dropSchema name
  | findTable schema table => exact guards_findTable schema table
  | openTable schema name => exact guards_openTable schema name
  | hasTable schema table columns => exact guards_hasTable schema table columns
  | hasTables schema tables => exact guards_hasTables schema tables
  | createTable schema table columns temporary ifNotExists =>
      exact guards_createTable schema table columns temporary ifNotExists
  | dropTable schema table => exact guards_dropTable schema table
  | createIndex schema table index columns unique ifNotExists =>
      exact guards_createIndex schema table index columns unique ifNotExists
  | dropIndex schema index => exact guards_dropIndex schema index
  | findIndex schema index => exact guards_findIndex schema index
  | hasIndex schema index =>
      exact (guards_findIndex schema index).then_succeeds fun _ => succeeds_pure _
  | find h q => exact guards_find h q
  | findOne h q => exact (guards_find h q.first).then_succeeds fun _ => succeeds_pure _
  | findAll h q => exact guards_find h (q.select .all)
  | count h f => exact guards_count h f
  | insert h row returnId => exact guards_insert h row returnId
  | insertMany h rows returnId => exact guards_insertMany h rows returnId
  | update h changes f => exact guards_change (refusing_update h.table changes f)
  | remove h f => exact guards_change (refusing_delete h.table f)
  | truncate h => exact guards_change (refusing_ok _)

/-- An operation that is rejected has read definitions of tables at most, and nothing at all if it
is rejected because the connection is closed. -/
theorem rejected_describing (operation : Operation) (c : Connection σ) {error : QueryError}
    (rejected : operation.perform.result c = .error error) (isRejection : error.isRejection = true) :
    (∀ exchange ∈ operation.perform.exchanges c, ∃ table, exchange.call = .describe table) ∧
      (error = .notConnected → operation.perform.exchanges c = []) := by
  have guarded := (guards_perform operation c.recording c.records_recording).exchanges_result
  refine ⟨guarded.describing fun _ => ⟨error, rejected, isRejection⟩, fun notConnected => ?_⟩
  subst notConnected
  exact guarded.silent (guarded.connected rejected)

/-- The notes are to be joined with a table that does not exist: its definition is asked for, and
the query is rejected. -/
theorem rejected_describing_missing :
    let query : Operation := .find notes { joins := [⟨.flat, .named "missing", "text", "text"⟩] }
    let c : Connection Script := .scripted {}
    query.perform.result c = .error (.targetNotFound "default" "missing") ∧
      query.perform.exchanges c ≠ [] ∧
      ∀ exchange ∈ query.perform.exchanges c, ∃ table, exchange.call = .describe table := by
  intro query c
  have rejected : query.perform.result c = .error (.targetNotFound "default" "missing") := rfl
  have asked : query.perform.exchanges c = [⟨.describe "missing", .ok []⟩] := rfl
  refine ⟨rejected, ?_, (rejected_describing query c rejected rfl).1⟩
  rw [asked]
  exact List.cons_ne_nil _ _

end DocumentQuery
