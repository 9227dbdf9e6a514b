import DocumentQuery.Proofs.Session.Learning

namespace DocumentQuery

open DocumentQuery.Action

/-!
# Lookups of tables

Tables are looked up by name in five ways: a definition is found, a table is opened, one table or
several are asked for, and the target of a join is resolved.  All of them do the same: a known
definition is used without asking, and otherwise a single description is asked for.

The names of tables must be identifiers, except in joins, where every text is split into names.
-/

variable {σ : Type}

/-- Identifiers are looked up on an open connection, and otherwise nothing is done. -/
theorem ends_findTable_of_loadTable {schema table : String} {c : Connection (Recorded σ)}
    {post : List Exchange → Except QueryError (Option Table) → Connection (Recorded σ) → Prop}
    (loaded : c.isOpen = true → Name.isIdentifier schema = true → Name.isIdentifier table = true →
      (Connection.loadTable schema table).Ends c post)
    (refused : ∀ error, ¬ (c.isOpen = true ∧ Name.isIdentifier schema = true ∧
      Name.isIdentifier table = true) → post [] (.error error) c) :
    (Connection.findTable schema table).Ends c post := by
  refine Ends.bind (ends_requireOpen (fun isOpen => ?_) fun isClosed => ?_)
  · refine Ends.bind (ends_checkIdentifier (fun validSchema => ?_) fun invalid error => ?_)
    · refine Ends.bind (ends_checkIdentifier (fun validTable => ?_) fun invalid error => ?_)
      · exact loaded isOpen validSchema validTable
      · exact refused error fun accepted => absurd accepted.2.2 (by rw [invalid]; decide)
    · exact refused error fun accepted => absurd accepted.2.1 (by rw [invalid]; decide)
  · exact refused _ fun accepted => absurd accepted.1 (by rw [isClosed]; decide)

section

variable {c : Connection (Recorded σ)} (records : c.Records) (distinct : c.cache.Distinct)
  (isOpen : c.isOpen = true) {schema table : String}
  (validSchema : Name.isIdentifier schema = true) (validTable : Name.isIdentifier table = true)

include records distinct isOpen validSchema validTable

theorem ends_findTable :
    (Connection.findTable schema table).Ends c fun asked result _ =>
      LooksUp (fun d => c.cache.table? schema table = some d) (schema, table) asked result := by
  have loaded := ends_loadTable (schema, table) (oneSchema_singleton _)
    (List.mem_singleton_self _) records distinct
  refine ends_findTable_of_loadTable (fun _ _ _ => ?_) fun _ no => ?_
  · exact loaded.mono fun _ _ _ _ ends => ends.2 isOpen
  · exact absurd ⟨isOpen, validSchema, validTable⟩ no

/-- A table that is opened is looked up, and must exist. -/
theorem ends_openTable :
    (TableHandle.openTable schema table).Ends c fun asked result _ =>
      ∃ found, LooksUp (fun d => c.cache.table? schema table = some d) (schema, table) asked found ∧
        result = found >>= fun table? =>
          (orReject table? (.noTable (Name.qualified schema table))).map TableHandle.mk := by
  have found := ends_findTable records distinct isOpen validSchema validTable
  refine Ends.bind (Ends.bind (found.mono fun asked result c' _ looksUp => ?_))
  cases result with
  | error error => exact ⟨.error error, looksUp, rfl⟩
  | ok table? =>
      refine ends_check ?_
      cases table? with
      | none =>
          refine ⟨.ok none, ?_, rfl⟩
          rw [List.append_nil]
          exact looksUp
      | some d =>
          refine ends_pure ⟨.ok (some d), ?_, rfl⟩
          rw [List.append_nil, List.append_nil]
          exact looksUp

/-- The columns are looked for in the definition. -/
theorem ends_hasTable (columns : List String) :
    (Connection.hasTable schema table columns).Ends c fun asked result _ =>
      ∃ found, LooksUp (fun d => c.cache.table? schema table = some d) (schema, table) asked found ∧
        result = found.map fun table? => table?.any fun d => d.hasColumns columns := by
  have found := ends_findTable records distinct isOpen validSchema validTable
  refine Ends.bind (found.mono fun asked result c' _ looksUp => ?_)
  cases result with
  | error error => exact ⟨.error error, looksUp, rfl⟩
  | ok table? =>
      cases table? with
      | none =>
          refine ends_pure ⟨.ok none, ?_, rfl⟩
          rw [List.append_nil]
          exact looksUp
      | some d =>
          refine ends_pure ⟨.ok (some d), ?_, rfl⟩
          rw [List.append_nil]
          exact looksUp

end

/-- Tables are looked up one after the other, up to the first one that does not exist. -/
theorem hasTables_cons (schema table : String) (rest : List String) (c : Connection (Recorded σ)) :
    (Connection.hasTables schema (table :: rest)).run c =
      match (Connection.findTable schema table).run c with
      | (.ok (some _), c') => (Connection.hasTables schema rest).run c'
      | (.ok none, c') => (.ok false, c')
      | (.error error, c') => (.error error, c') := by
  rw [Connection.hasTables, run_bind]
  rcases (Connection.findTable schema table).run c with ⟨result, c'⟩
  rcases result with error | (_ | found) <;> rfl

theorem TableHandle.lookups_eq {h : TableHandle} {q : Query} {names : String × String}
    (looked : h.lookups q = [names]) : ∃ join name, q.join? = .ok (some join) ∧
      join.target = .named name ∧ Join.splitTarget name h.table.schema = names := by
  unfold lookups at looked
  split at looked
  · rename_i shape name sourceColumn targetColumn joined
    exact ⟨_, name, joined, rfl, (List.cons.inj looked).1⟩
  · exact nomatch looked

/-- What is sent if there is a statement: it is queried, unless the connection is closed. -/
def Call.sent (isOpen : Bool) : Except QueryError Sql.Statement → List Call
  | .ok statement => if isOpen then [.query statement] else []
  | .error _ => []

theorem Call.of_mem_sent {isOpen : Bool} {statement? : Except QueryError Sql.Statement} {call : Call}
    (member : call ∈ Call.sent isOpen statement?) :
    ∃ statement, statement? = .ok statement ∧ call = .query statement := by
  cases statement? with
  | error error => exact nomatch member
  | ok statement =>
      rw [Call.sent] at member
      split at member
      · exact ⟨statement, rfl, List.mem_singleton.mp member⟩
      · exact nomatch member

/-- Behind the target of its join a query sends its statement, and asks for nothing else. -/
theorem ends_find_resolved {h : TableHandle} {q : Query} {c c' : Connection (Recorded σ)}
    (records : c.Records) {join? : Option Join} (joined : q.join? = .ok join?)
    {looked : List Exchange} {found : Except QueryError (Option Table)}
    (run : (TableHandle.resolveJoin h.table join?).run c = (found, c'))
    (extends' : c.Extends c' looked) :
    (h.find q).Ends c fun asked result _ => ∃ later, asked = looked ++ later ∧
      later.map Exchange.call = Call.sent c.isOpen (found >>= Sql.select q h.table) ∧
      ∀ error, found = .error error → result = .error error := by
  rw [TableHandle.find, joined, ← extends'.isOpen_eq]
  refine Ends.bind (ends_check (Ends.bind ⟨looked, found, c', run, extends', ?_⟩))
  cases found with
  | error error =>
      refine ⟨[], (List.append_nil looked).symm, rfl, ?_⟩
      intro other same
      rw [Except.error.inj same]
  | ok target? =>
      have selected_eq : ((.ok target? : Except QueryError (Option Table)) >>=
          Sql.select q h.table) = Sql.select q h.table target? := rfl
      rw [selected_eq]
      refine Ends.bind (ends_check ?_)
      cases Sql.select q h.table target? with
      | error error => exact ⟨[], rfl, rfl, nofun⟩
      | ok statement =>
          refine Ends.bind (ends_ask (extends'.records records) (fun isOpen answer c'' _ _ => ?_)
            fun isClosed => ?_)
          · have queried : [(⟨.query statement, answer⟩ : Exchange)].map Exchange.call =
                Call.sent c'.isOpen (.ok statement) := by
              rw [isOpen]
              rfl
            cases answer with
            | error e => exact ⟨_, rfl, queried, nofun⟩
            | ok rows =>
                refine Ends.bind (ends_check ?_)
                cases q.adaptRows h.table target? rows with
                | error error => exact ⟨_, rfl, queried, nofun⟩
                | ok adapted => exact ends_pure ⟨_, rfl, queried, nofun⟩
          · refine ⟨[], rfl, ?_, nofun⟩
            rw [isClosed]
            rfl

/-- How the target of a join is looked up: it comes before anything else that is asked.  If there
is no target the query fails, and otherwise at most a statement on the definition is asked. -/
def LooksUpTarget {α : Type} (known : Table → Prop) (h : TableHandle) (q : Query)
    (names : String × String) (asked : List Exchange) (result : Except QueryError α) : Prop :=
  ∃ looked found later, asked = looked ++ later ∧ LooksUp known names looked found ∧
    (∀ d, found = .ok (some d) → ∀ exchange ∈ later, ∃ statement,
      Sql.select q h.table (some d) = .ok statement ∧ exchange.call = .query statement) ∧
    ((∀ d, found ≠ .ok (some d)) → later = [] ∧ ∃ error, result = .error error)

/-- With a known definition nothing is asked but the statement on it. -/
theorem LooksUpTarget.of_known {α : Type} {known : Table → Prop} {h : TableHandle} {q : Query}
    {names : String × String} {asked : List Exchange} {result : Except QueryError α}
    (looksUp : LooksUpTarget known h q names asked result) {d : Table}
    (isKnown : ∀ other, known other ↔ d = other) :
    ∀ exchange ∈ asked, ∃ statement,
      Sql.select q h.table (some d) = .ok statement ∧ exchange.call = .query statement := by
  rcases looksUp with ⟨looked, found, later, rfl, looksUp, queried, _⟩
  cases looksUp with
  | remembered known =>
      cases (isKnown _).mp known
      exact queried d rfl
  | described unknown _ => exact absurd ((isKnown d).mpr rfl) (unknown d)

/-- What becomes of the result of a lookup does not matter, as long as a failure stays one. -/
theorem LooksUpTarget.map {α β : Type} {known : Table → Prop} {h : TableHandle} {q : Query}
    {names : String × String} {asked : List Exchange} {result : Except QueryError α}
    (looksUp : LooksUpTarget known h q names asked result) (f : α → β) :
    LooksUpTarget known h q names asked (result.map f) := by
  rcases looksUp with ⟨looked, found, later, asked_eq, looksUp, queried, failed⟩
  refine ⟨looked, found, later, asked_eq, looksUp, queried, fun missing => ?_⟩
  rcases failed missing with ⟨nothing, error, rfl⟩
  exact ⟨nothing, error, rfl⟩

/-- The target of a join is the table that is looked up, and must exist. -/
theorem ends_resolveJoin {source : Table} {join : Join} {name : String} {names : String × String}
    (target : join.target = .named name) (split : Join.splitTarget name source.schema = names)
    {c : Connection (Recorded σ)} (records : c.Records) (distinct : c.cache.Distinct)
    (isOpen : c.isOpen = true) :
    (TableHandle.resolveJoin source (some join)).Ends c fun looked found _ => ∃ table?,
      LooksUp (fun d => c.cache.table? names.1 names.2 = some d) names looked table? ∧
        (∀ d, table? = .ok (some d) → found = .ok (some d)) ∧
        ((∀ d, table? ≠ .ok (some d)) → ∃ error, found = .error error) := by
  have loaded := ends_loadTable names (oneSchema_singleton _) (List.mem_singleton_self _) records
    distinct
  dsimp only [TableHandle.resolveJoin]
  rw [target, TableHandle.resolveTarget, split]
  refine Ends.bind (Ends.bind (loaded.mono fun looked result c' _ ends => ?_))
  have looksUp := ends.2 isOpen
  cases result with
  | error error => exact ⟨.error error, looksUp, nofun, fun _ => ⟨error, rfl⟩⟩
  | ok table? =>
      cases table? with
      | none =>
          refine ends_throw ⟨.ok none, ?_, nofun, fun _ => ⟨_, rfl⟩⟩
          rw [List.append_nil]
          exact looksUp
      | some d =>
          refine ends_pure (ends_pure ⟨.ok (some d), ?_, ?_, fun missing => absurd rfl (missing d)⟩)
          · rw [List.append_nil, List.append_nil]
            exact looksUp
          · intro other same
            rw [Option.some.inj (Except.ok.inj same)]

theorem ends_find {h : TableHandle} {q : Query} {names : String × String}
    (lookups_eq : h.lookups q = [names]) {c : Connection (Recorded σ)} (records : c.Records)
    (distinct : c.cache.Distinct) (isOpen : c.isOpen = true) :
    (h.find q).Ends c fun asked result _ =>
      LooksUpTarget (fun d => c.cache.table? names.1 names.2 = some d) h q names asked result := by
  rcases h.lookups_eq lookups_eq with ⟨join, name, joined, target, split⟩
  rcases ends_resolveJoin target split records distinct isOpen with
    ⟨looked, found, c', run, extends', table?, looksUp, known, unknown⟩
  refine (ends_find_resolved records joined run extends').mono fun asked result _ _ ends => ?_
  rcases ends with ⟨later, rfl, sent, failed⟩
  refine ⟨looked, table?, later, rfl, looksUp, ?_, ?_⟩
  · intro d same exchange member
    rw [known d same] at sent
    have isSent : exchange.call ∈ later.map Exchange.call := List.mem_map_of_mem member
    rw [sent] at isSent
    exact Call.of_mem_sent isSent
  · intro missing
    rcases unknown missing with ⟨error, refused⟩
    rw [refused] at sent
    exact ⟨List.map_eq_nil_iff.mp sent, error, failed error refused⟩

/-- Taking the first row asks for nothing more. -/
theorem ends_findOne_of_find {h : TableHandle} {q : Query} {c : Connection (Recorded σ)}
    {post : List Exchange → Except QueryError (Option Row) → Prop}
    (ends : (h.find q.first).Ends c fun asked result _ =>
      post asked (result.map ResultSet.first?)) :
    (h.findOne q).Ends c fun asked result _ => post asked result := by
  refine Ends.bind (ends.mono fun asked result c' _ holds => ?_)
  cases result with
  | error error => exact holds
  | ok rows =>
      refine ends_pure ?_
      rw [List.append_nil]
      exact holds

theorem ends_findOne {h : TableHandle} {q : Query} {names : String × String}
    (lookups_eq : h.lookups q = [names]) {c : Connection (Recorded σ)} (records : c.Records)
    (distinct : c.cache.Distinct) (isOpen : c.isOpen = true) :
    (h.findOne q).Ends c fun asked result _ =>
      LooksUpTarget (fun d => c.cache.table? names.1 names.2 = some d) h q.first names asked
        result := by
  have sameLookups : h.lookups q.first = [names] := lookups_eq
  apply ends_findOne_of_find
  refine (ends_find sameLookups records distinct isOpen).mono fun asked result _ _ looksUp => ?_
  exact looksUp.map ResultSet.first?

end DocumentQuery
