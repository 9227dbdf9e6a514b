import DocumentQuery.Proofs.Query.Building
import DocumentQuery.Proofs.Session.Lookups
import DocumentQuery.Proofs.Session.Rejections

namespace DocumentQuery

open DocumentQuery.Action DocumentQuery.Sql

/-!
# Three ways to ask a query

A query is asked for all of its rows, for the first one, or without its filter.  In all three ways
the target of its join is resolved in the same way, and then one statement is sent.  It is the
statement of the query, of the query with another limit, or of the query with the empty filter.

A limit is written last, and it binds nothing, so statements that differ by their limits have
everything before it in common.  A filter is written within a frame that does not depend on it.

A query with several joins is refused before anything is asked.
-/

variable {σ α : Type}

/-! ## Statements that differ by limits or filters -/

/-- The statement with a limit written behind it. -/
def Sql.Statement.limited (limit? : Option Limit) (s : Statement) : Statement :=
  ⟨s.pieces ++ limitClause limit?, s.params⟩

theorem Sql.build_limited (builder : Binder (List Piece)) (limit? : Option Limit) :
    Statement.build (builder >>= fun pieces => pure (pieces ++ limitClause limit?)) =
      (Statement.build builder).map (Statement.limited limit?) := by
  rw [Statement.build, Statement.build, StateT.run_bind]
  cases builder.run [] <;> rfl

theorem Sql.plainSelect_limit (q : Query) (limit? : Option Limit) (scope : Scope)
    (tables : List Piece) :
    plainSelect { q with limit? := limit? } scope tables = (do
      let pieces ← plainSelect { q with limit? := none } scope tables
      pure (pieces ++ limitClause limit?)) := by
  have noLimit : limitClause none = [] := rfl
  simp only [plainSelect, bind_assoc, pure_bind, noLimit, List.append_nil, List.append_assoc,
    List.cons_append]

theorem Sql.groupedSelect_limit (q : Query) (limit? : Option Limit) (g : Grouping) (scope : Scope)
    (tables : List Piece) :
    groupedSelect { q with limit? := limit? } g scope tables = (do
      let pieces ← groupedSelect { q with limit? := none } g scope tables
      pure (pieces ++ limitClause limit?)) := by
  have noLimit : limitClause none = [] := rfl
  simp only [groupedSelect, bind_assoc, pure_bind, noLimit, List.append_nil, List.append_assoc,
    List.cons_append]

/-- With a limit a query has the statement that it has without one, and the limit behind it. -/
theorem Sql.select_limit (q : Query) (limit? : Option Limit) (source : Table)
    (target? : Option Table) :
    select { q with limit? := limit? } source target? =
      (select { q with limit? := none } source target?).map (Statement.limited limit?) := by
  rw [select, select]
  change (joinWith q target? >>= _) = Except.map _ (joinWith q target? >>= _)
  cases joinWith q target? with
  | error error => rfl
  | ok join? =>
      simp only [ok_bind]
      cases fromClause source join? with
      | error error => rfl
      | ok tables =>
          simp only [ok_bind]
          rw [← build_limited]
          cases q.grouping? with
          | none => exact congrArg Statement.build (plainSelect_limit q limit? _ tables)
          | some g => exact congrArg Statement.build (groupedSelect_limit q limit? g _ tables)

/-- With any filter a query has the statement that consists of its frame, which is the same for all
filters, the condition that the filter makes, and the condition on groups after it. -/
theorem Sql.select_filter_iff (q : Query) (f : Filter) (source : Table) (target? : Option Table)
    (s : Statement) :
    select { q with filter := f } source target? = .ok s ↔
      ∃ scope frame values others, q.frame source target? = .ok (scope, frame) ∧
        f.operands (.ofScope scope) = .ok values ∧
        q.groupFilter.groupOperands = .ok others ∧ s.params = values ++ others ∧
        s.pieces = frame.before ++ (f.written (.ofScope scope) 0).pieces ++ frame.between ++
          q.groupFilter.groupWritten f.arity ++ frame.after := by
  rw [select_iff]
  constructor
  · rintro ⟨scope, frame, framed, bound, pieces⟩
    rcases bind_ok bound with ⟨values, filterBound, bound⟩
    rcases bind_ok bound with ⟨others, groupsBound, same⟩
    exact ⟨scope, frame, values, others, framed, filterBound, groupsBound,
      (Except.ok.inj same).symm, pieces⟩
  · rintro ⟨scope, frame, values, others, framed, filterBound, groupsBound, params, pieces⟩
    refine ⟨scope, frame, framed, ?_, pieces⟩
    have groupsBound' : ({ q with filter := f } : Query).groupFilter.groupOperands = .ok others :=
      groupsBound
    rw [Query.operands, filterBound, groupsBound', params]
    rfl

/-! ## What is asked -/

/-- What an action on a connection calls the store for, as it comes. -/
def Action.calls (action : Action (Recorded σ) α) (c : Connection σ) : List Call :=
  (action.exchanges c).map Exchange.call

/-- An action was refused for a fault before it asked anything. -/
def Action.Refuses (action : Action (Recorded σ) α) (c : Connection σ) (fault : Fault) : Prop :=
  action.result c = .error (.invalidArgument fault) ∧ action.calls c = []

/-- The target of the join of a query, if there is at most one join. -/
def TableHandle.joinTarget (h : TableHandle) (q : Query) : Action σ (Option Table) := do
  let join? ← Connection.check q.join?
  resolveJoin h.table join?

/-- A query is asked for in three ways alike: the target of its join is resolved, by descriptions
only, and then its statement is sent.  For the first row it has another limit, and for all rows the
empty filter. -/
structure Query.AskedAlike (q : Query) (h : TableHandle) (c : Connection σ) : Prop where
  describing : ∀ call ∈ (h.joinTarget q).calls c, ∃ table, call = .describe table
  find_calls : (h.find q).calls c = (h.joinTarget q).calls c ++ Call.sent c.isOpen
    (((h.joinTarget q).result c >>= Sql.select { q with limit? := none } h.table).map
      (Statement.limited q.limit?))
  findOne_calls : (h.findOne q).calls c = (h.joinTarget q).calls c ++ Call.sent c.isOpen
    (((h.joinTarget q).result c >>= Sql.select { q with limit? := none } h.table).map
      (Statement.limited (some ⟨some 1, (q.limit?.map Limit.start).getD 0⟩)))
  findAll_calls : (h.findAll q).calls c = (h.joinTarget q).calls c ++ Call.sent c.isOpen
    ((h.joinTarget q).result c >>= Sql.select { q with filter := .all } h.table)

theorem ends_find_refused {h : TableHandle} {q : Query} {c : Connection (Recorded σ)}
    {error : QueryError} (refused : q.join? = .error error) :
    (h.find q).Ends c fun asked result _ => result = .error error ∧ asked = [] := by
  rw [TableHandle.find, refused]
  exact Ends.bind (ends_check ⟨rfl, rfl⟩)

namespace Query

theorem join?_of_several {q : Query} (several : 2 ≤ q.joins.length) :
    q.join? = .error (.invalidArgument .severalJoins) := by
  rw [join?]
  split
  · rename_i noJoin
    simp [noJoin] at several
  · rename_i join oneJoin
    simp [oneJoin] at several
  · rfl

/-- With several joins a query is refused however it is asked. -/
theorem refuses_several {q : Query} (several : 2 ≤ q.joins.length) (h : TableHandle)
    (c : Connection σ) :
    (h.find q).Refuses c .severalJoins ∧ (h.findOne q).Refuses c .severalJoins ∧
      (h.findAll q).Refuses c .severalJoins := by
  have refused (asked : Query) (same : asked.joins = q.joins) :
      (h.find asked).Ends c.recording fun exchanges result _ =>
        result = .error (.invalidArgument .severalJoins) ∧ exchanges = [] := by
    apply ends_find_refused
    apply join?_of_several
    rw [same]
    exact several
  have refuses {β : Type} {action : Action (Recorded σ) β}
      (ends : action.Ends c.recording fun exchanges result _ =>
        result = .error (.invalidArgument .severalJoins) ∧ exchanges = []) :
      action.Refuses c .severalJoins := by
    rcases ends.exchanges_result with ⟨result, nothing⟩
    rw [Action.Refuses, Action.calls, nothing]
    exact ⟨result, rfl⟩
  have first : (h.findOne q).Ends c.recording fun exchanges result _ =>
      result = .error (.invalidArgument .severalJoins) ∧ exchanges = [] := by
    apply ends_findOne_of_find
    refine (refused q.first rfl).mono fun exchanges result _ _ ends => ?_
    rw [ends.1]
    exact ⟨rfl, ends.2⟩
  exact ⟨refuses (refused q rfl), refuses first, refuses (refused (q.select .all) rfl)⟩

theorem bind_select_limit (q : Query) (limit? : Option Limit)
    (found : Except QueryError (Option Table)) (source : Table) :
    (found >>= Sql.select { q with limit? := limit? } source) =
      (found >>= Sql.select { q with limit? := none } source).map (Statement.limited limit?) := by
  cases found with
  | error error => rfl
  | ok target? => exact select_limit q limit? source target?

/-- Joins decide what is asked before the statement, which is to resolve their target. -/
theorem find_calls_of_joins {q asked : Query} (same : asked.joins = q.joins) (h : TableHandle)
    (c : Connection σ) : (h.find asked).Ends c.recording fun exchanges _ _ =>
      exchanges.map Exchange.call = (h.joinTarget q).calls c ++
        Call.sent c.isOpen ((h.joinTarget q).result c >>= Sql.select asked h.table) := by
  have join?_eq : asked.join? = q.join? := by
    rw [Query.join?, same]
    rfl
  rw [Action.calls]
  cases joined : q.join? with
  | error error =>
      have target : (h.joinTarget q).Ends c.recording fun exchanges found _ =>
          exchanges = [] ∧ found = .error error := by
        rw [TableHandle.joinTarget, joined]
        exact Ends.bind (ends_check ⟨rfl, rfl⟩)
      rcases target.exchanges_result with ⟨nothing, refused⟩
      refine (ends_find_refused (join?_eq.trans joined)).mono fun exchanges _ _ _ ends => ?_
      rw [nothing, refused, ends.2]
      rfl
  | ok join? =>
      rcases guards_resolveJoin h.table join? c.recording c.records_recording with
        ⟨looked, found, c', run, extends', _⟩
      have target : (h.joinTarget q).Ends c.recording fun exchanges result _ =>
          exchanges = looked ∧ result = found := by
        rw [TableHandle.joinTarget, joined]
        exact Ends.bind (ends_check ⟨looked, found, c', run, extends', rfl, rfl⟩)
      rcases target.exchanges_result with ⟨looked_eq, found_eq⟩
      have resolved := ends_find_resolved c.records_recording (join?_eq.trans joined) run extends'
      refine resolved.mono fun exchanges _ _ _ ends => ?_
      rcases ends with ⟨later, rfl, sent, _⟩
      rw [List.map_append, sent, looked_eq, found_eq]
      rfl

theorem guards_joinTarget (h : TableHandle) (q : Query) :
    Guards false (h.joinTarget q : Action (Recorded σ) (Option Table)) :=
  (guards_check (refusing_join? q)).bind fun join? => guards_resolveJoin h.table join?

theorem askedAlike (q : Query) (h : TableHandle) (c : Connection σ) : q.AskedAlike h c where
  describing := by
    have guarded := (guards_joinTarget h q c.recording c.records_recording).exchanges_result
    intro call member
    rcases List.mem_map.mp member with ⟨exchange, exchangeMember, rfl⟩
    exact guarded.describing nofun exchange exchangeMember
  find_calls := by
    rw [← bind_select_limit]
    exact (find_calls_of_joins rfl h c).exchanges_result
  findOne_calls := by
    rw [← bind_select_limit]
    have first : (h.findOne q).Ends c.recording fun exchanges _ _ =>
        exchanges.map Exchange.call = (h.joinTarget q).calls c ++
          Call.sent c.isOpen ((h.joinTarget q).result c >>= Sql.select q.first h.table) := by
      apply ends_findOne_of_find
      exact find_calls_of_joins rfl h c
    exact first.exchanges_result
  findAll_calls := by
    have sameJoins : (q.select .all).joins = q.joins := rfl
    exact (find_calls_of_joins sameJoins h c).exchanges_result

end Query

end DocumentQuery
