import DocumentQuery.Proofs.Sql.Statements
import DocumentQuery.Sql.Definition

namespace DocumentQuery
namespace Sql

/-!
# What builders refuse

A builder of a statement looks at nothing but its arguments, so what it refuses is an argument.  In
particular it never fails for the connection or for the store.  This holds of the checks that
builders are made of, and every way of putting checks together keeps it.
-/

/-- What is refused is an argument. -/
def Refusing {α : Type} (checked : Except QueryError α) : Prop :=
  ∀ error, checked = .error error → ∃ fault, error = .invalidArgument fault

variable {α β : Type}

/-! ## Checks -/

theorem refusing_ok (a : α) : Refusing (.ok a) := nofun

theorem refusing_reject (fault : Fault) : Refusing (reject fault : Except QueryError α) := by
  rintro error ⟨⟩
  exact ⟨fault, rfl⟩

theorem refusing_require (condition : Bool) (fault : Fault) : Refusing (require condition fault) := by
  cases condition with
  | false => exact refusing_reject fault
  | true => exact refusing_ok ()

theorem refusing_orReject (value? : Option α) (fault : Fault) :
    Refusing (orReject value? fault) := by
  cases value? with
  | none => exact refusing_reject fault
  | some value => exact refusing_ok value

theorem Refusing.bind {checked : Except QueryError α} {next : α → Except QueryError β}
    (first : Refusing checked) (second : ∀ a, Refusing (next a)) : Refusing (checked >>= next) := by
  cases checked with
  | error error =>
      rintro _ ⟨⟩
      exact first error rfl
  | ok a => exact second a

theorem Refusing.map {checked : Except QueryError α} (first : Refusing checked) (f : α → β) :
    Refusing (checked.map f) := by
  cases checked with
  | error error =>
      rintro _ ⟨⟩
      exact first error rfl
  | ok a => exact refusing_ok (f a)

theorem refusing_mapM {check : α → Except QueryError β} (members : List α)
    (each : ∀ a, Refusing (check a)) : Refusing (members.mapM check) := by
  induction members with
  | nil => exact refusing_ok []
  | cons a rest inductionHypothesis =>
      rw [List.mapM_cons]
      exact (each a).bind fun _ => inductionHypothesis.bind fun _ => refusing_ok _

theorem refusing_forM {check : α → Except QueryError PUnit} (members : List α)
    (each : ∀ a, Refusing (check a)) : Refusing (members.forM check) := by
  induction members with
  | nil => exact refusing_ok _
  | cons a rest inductionHypothesis =>
      exact (each a).bind fun _ => inductionHypothesis

theorem refusing_if {condition : Prop} [Decidable condition] {checked other : Except QueryError α}
    (first : Refusing checked) (second : Refusing other) :
    Refusing (if condition then checked else other) := by
  by_cases holds : condition
  · rwa [if_pos holds]
  · rwa [if_neg holds]

theorem refusing_checkIdentifier (kind name : String) : Refusing (checkIdentifier kind name) :=
  refusing_require _ _

/-! ## Operands -/

theorem refusing_operandsOf {operands : α → Except QueryError (List Scalar)} (parts : List α)
    (each : ∀ part, Refusing (operands part)) : Refusing (operandsOf operands parts) := by
  induction parts with
  | nil => exact refusing_ok []
  | cons part rest inductionHypothesis =>
      exact (each part).bind fun _ => inductionHypothesis.map _

theorem refusing_element (type : ColumnType) (value : Value) : Refusing (type.element value) :=
  refusing_orReject _ _

theorem refusing_soughtOperand (type? : Option ColumnType) (element : Scalar) :
    Refusing (Predicate.soughtOperand type? element) := by
  refine Refusing.bind ?_ fun _ => refusing_ok _
  rcases type? with _ | type
  · exact refusing_ok element
  · rw [ColumnType.membershipOperand]
    cases type.isSet with
    | false => exact refusing_ok element
    | true => exact (refusing_element type _).map Value.toScalar

theorem refusing_predicateOperands (type? : Option ColumnType) (p : Predicate) :
    Refusing (p.operands type?) := by
  unfold Predicate.operands
  split
  case h_8 => exact refusing_soughtOperand type? _
  case h_9 => exact refusing_soughtOperand type? _
  all_goals exact refusing_ok _

theorem refusing_filterOperands (columns : Columns) (f : Filter) :
    Refusing (f.operands columns) := by
  rw [Filter.operands]
  split
  · exact refusing_ok _
  · refine refusing_operandsOf _ fun c => (refusing_require _ _).bind fun _ => ?_
    split
    · exact refusing_reject _
    · exact refusing_operandsOf _ (refusing_predicateOperands _)

theorem refusing_stored (type : ColumnType) (value : Value) : Refusing (type.stored value) := by
  rw [ColumnType.stored]
  split
  · exact refusing_ok _
  split
  · exact refusing_ok _
  · exact (refusing_mapM _ (refusing_element type)).bind fun _ => refusing_ok _

theorem refusing_rowOperands (table : Table) (row : Row) : Refusing (row.operands table) :=
  refusing_operandsOf _ fun _ => (refusing_orReject _ _).bind fun type =>
    (refusing_stored type _).bind fun _ => refusing_ok _

theorem refusing_changeOperands (column : String) (type : ColumnType) (change : Change) :
    Refusing (change.operands column type) := by
  have unsupported : Refusing (Change.operands.unsupported column type change) :=
    refusing_reject _
  have numeric (value : Value) : Refusing (Change.operands.numeric column value) := by
    refine Refusing.bind ?_ fun _ => refusing_ok _
    unfold numericOperand
    split
    · exact refusing_ok _
    · exact refusing_ok _
    · exact refusing_reject _
  have element (value : Value) : Refusing (Change.operands.element type value) :=
    (refusing_element type value).bind fun _ => refusing_ok _
  cases change with
  | set value => exact (refusing_stored type value).bind fun _ => refusing_ok _
  | increase value => exact refusing_if (numeric value) unsupported
  | decrease value => exact refusing_if (numeric value) unsupported
  | multiply value => exact refusing_if (numeric value) unsupported
  | add value =>
      exact refusing_if (numeric value)
        (refusing_if (element value) (refusing_if (refusing_ok _) unsupported))
  | remove value => exact refusing_if (element value) unsupported

theorem refusing_changesOperands (table : Table) (entries : List (String × Change)) :
    Refusing (operandsOf (Changes.entryOperands table) entries) :=
  refusing_operandsOf _ fun _ => (refusing_require _ _).bind fun _ =>
    (refusing_orReject _ _).bind fun type => refusing_changeOperands _ type _

/-! ## Builders -/

/-- What a builder refuses is an argument. -/
def RefusingBinder (builder : Binder α) : Prop :=
  ∀ params, Refusing (builder.run params)

theorem Builds.refusing {builder : Binder α} {operands : Except QueryError (List Scalar)}
    {arity : Nat} {written : Nat → α} (builds : Builds builder operands arity written)
    (refusing : Refusing operands) : RefusingBinder builder := fun params => by
  rw [builds.run_eq]
  exact refusing.map _

theorem refusingBinder_pure (a : α) : RefusingBinder (pure a) := fun _ => refusing_ok _

theorem refusingBinder_check {checked : Except QueryError α} (refusing : Refusing checked) :
    RefusingBinder (liftM checked) := fun params => by
  cases checked with
  | error error =>
      rintro _ ⟨⟩
      exact refusing error rfl
  | ok a => exact refusing_ok _

theorem RefusingBinder.bind {builder : Binder α} {next : α → Binder β}
    (first : RefusingBinder builder) (second : ∀ a, RefusingBinder (next a)) :
    RefusingBinder (builder >>= next) := fun params =>
  (first params).bind fun built => second built.1 built.2

theorem refusing_build {pieces : Binder (List Piece)} (refusing : RefusingBinder pieces) :
    Refusing (Statement.build pieces) :=
  (refusing []).bind fun _ => refusing_ok _

theorem refusingBinder_whereClause (columns : Columns) (f : Filter) :
    RefusingBinder (whereClause columns f) :=
  (builds_whereClause columns f).refusing (refusing_filterOperands columns f)

/-! ## Statements on one table -/

theorem refusing_delete (table : Table) (f : Filter) : Refusing (delete table f) :=
  refusing_build ((refusingBinder_whereClause _ f).bind fun _ => refusingBinder_pure _)

theorem refusing_count (table : Table) (f : Filter) : Refusing (count table f) :=
  refusing_build ((refusingBinder_whereClause _ f).bind fun _ => refusingBinder_pure _)

theorem refusing_update (table : Table) (changes : Changes) (f : Filter) :
    Refusing (update table changes f) := by
  have assignments := (builds_mapM changes.entries fun entry _ =>
    builds_assignmentIn table entry).refusing (refusing_changesOperands table _)
  exact (refusing_require _ _).bind fun _ => refusing_build
    (assignments.bind fun _ => (refusingBinder_whereClause _ f).bind fun _ => refusingBinder_pure _)

theorem refusing_insert (table : Table) (row : Row) : Refusing (insert table row) := by
  have columns := (builds_mapM row.entries fun entry _ => builds_insertedColumn table entry).refusing
    (refusing_rowOperands table row)
  exact refusing_if (refusing_ok _) ((columns []).bind fun _ => refusing_ok _)

/-! ## Queries -/

theorem refusing_checkReference (column : String) : Refusing (checkReference column) :=
  refusing_require _ _

theorem refusing_orderClause (path : String → List String) (order : List (String × Direction)) :
    Refusing (orderClause path order) :=
  refusing_if (refusing_ok _) ((refusing_mapM _ fun (column, _) =>
    (refusing_checkReference column).bind fun _ => refusing_ok _).bind fun _ => refusing_ok _)

theorem refusing_join? (q : Query) : Refusing q.join? := by
  unfold Query.join?
  split
  · exact refusing_ok _
  · exact refusing_ok _
  · exact refusing_reject _

theorem refusing_joinWith (q : Query) (target? : Option Table) : Refusing (joinWith q target?) := by
  refine (refusing_join? q).bind fun join? => ?_
  cases join? with
  | none => exact refusing_ok _
  | some join =>
      cases target? with
      | none => exact refusing_reject _
      | some target => exact refusing_ok _

theorem refusing_fromClause (source : Table) (join? : Option (Join × Table)) :
    Refusing (fromClause source join?) := by
  cases join? with
  | none => exact refusing_ok _
  | some joined =>
      exact (refusing_require _ _).bind fun _ => (refusing_require _ _).bind fun _ => refusing_ok _

theorem refusing_groupParts (scope : Scope) (g : Grouping) : Refusing (groupParts scope g) := by
  have columns : Refusing (g.columns.mapM (groupColumn scope)) :=
    refusing_mapM _ fun column => (refusing_checkReference column).bind fun _ =>
      (refusing_orReject _ _).bind fun _ => refusing_ok _
  have argument (a : Aggregation) : Refusing (aggregateArgument scope a) :=
    refusing_if ((refusing_require _ _).bind fun _ => refusing_ok _)
      ((refusing_checkReference _).bind fun _ => (refusing_orReject _ _).bind fun _ => refusing_ok _)
  have results : Refusing (g.aggregations.mapM (aggregateColumn scope)) :=
    refusing_mapM _ fun a => (refusing_require _ _).bind fun _ =>
      (argument a).bind fun _ => refusing_ok _
  exact (refusing_require _ _).bind fun _ => columns.bind fun _ => results.bind fun _ =>
    refusing_ok _

theorem refusing_select (q : Query) (source : Table) (target? : Option Table) :
    Refusing (select q source target?) := by
  refine (refusing_joinWith q target?).bind fun join? => (refusing_fromClause source join?).bind
    fun tables => refusing_build ?_
  cases q.grouping? with
  | none =>
      exact (refusingBinder_whereClause _ q.filter).bind fun _ =>
        (refusingBinder_check (refusing_orderClause _ q.order)).bind fun _ => refusingBinder_pure _
  | some g =>
      have having : RefusingBinder (havingClause g.havingFilter) := by
        rw [havingClause]
        split
        · exact refusingBinder_pure _
        · exact (refusingBinder_whereClause _ _).bind fun _ => refusingBinder_pure _
      exact (refusingBinder_check (refusing_groupParts _ g)).bind fun parts =>
        (refusingBinder_whereClause _ q.filter).bind fun _ => having.bind fun _ =>
          (refusingBinder_check (refusing_orderClause _ q.order)).bind fun _ => refusingBinder_pure _

/-! ## Definitions -/

theorem refusing_declaredType (logical : String) : Refusing (declaredType logical) := by
  unfold declaredType
  split
  · exact (refusing_require _ _).bind fun _ => refusing_ok _
  · exact refusing_ok _

theorem refusing_referencesClause (schema reference : String) :
    Refusing (referencesClause schema reference) := by
  have clause (schema table column : String) : Refusing (do
      checkIdentifier "Schema" schema
      checkIdentifier "Table" table
      checkIdentifier "Column" column
      pure [Piece.word " REFERENCES ", .name (Name.qualified schema table), .word "(", .name column,
        .word ") ON DELETE CASCADE ON UPDATE CASCADE"]) :=
    (refusing_checkIdentifier _ _).bind fun _ => (refusing_checkIdentifier _ _).bind fun _ =>
      (refusing_checkIdentifier _ _).bind fun _ => refusing_ok _
  unfold referencesClause
  split
  · exact clause _ _ _
  · exact clause _ _ _
  · exact (refusing_reject _).bind fun _ => clause _ _ _

theorem refusing_columnClause (schema : String) (c : ColumnDefinition) :
    Refusing (columnClause schema c) := by
  unfold columnClause
  refine (refusing_checkIdentifier _ _).bind fun _ => ?_
  cases c.references? with
  | none =>
      exact refusing_if (refusing_ok _) ((refusing_declaredType _).bind fun _ => refusing_ok _)
  | some reference =>
      have clause := refusing_referencesClause schema reference
      exact refusing_if (clause.bind fun _ => refusing_ok _)
        ((refusing_declaredType _).bind fun _ => clause.bind fun _ => refusing_ok _)

theorem refusing_createTable (schema table : String) (columns : List ColumnDefinition)
    (temporary ifNotExists : Bool) :
    Refusing (createTable schema table columns temporary ifNotExists) :=
  (refusing_checkIdentifier _ _).bind fun _ => (refusing_checkIdentifier _ _).bind fun _ =>
    (refusing_require _ _).bind fun _ => (refusing_mapM _ (refusing_columnClause schema)).bind
      fun _ => refusing_ok _

theorem refusing_createIndex (schema table index : String) (columns : List String)
    (unique ifNotExists : Bool) :
    Refusing (createIndex schema table index columns unique ifNotExists) :=
  (refusing_checkIdentifier _ _).bind fun _ => (refusing_checkIdentifier _ _).bind fun _ =>
    (refusing_require _ _).bind fun _ => (refusing_forM _ (refusing_checkIdentifier _)).bind
      fun _ => refusing_ok _

end Sql
end DocumentQuery
