import DocumentQuery.Proofs.Sql.Numbering
import DocumentQuery.Proofs.Sql.Relocation
import DocumentQuery.Proofs.Text.Names
import Mathlib.Data.List.Forall2

namespace DocumentQuery

open Sql

/-!
# The language of filter documents

A filter document is null or an object.  Its members are columns, and each of them says that the
column equals a scalar, or applies operators to it, of which there is at least one.  The relations
here describe that language without reading it: what a member says, in the order in which it is
written, and for which reason a member that belongs to no document is refused.

Every member says something or is refused, and never both.  So a document is read exactly if all its
members say something, and its filter requires what they say, first to last.  Otherwise the first
member that is refused gives the reason, and within it the first operator that is refused.

What can be read can be compiled, whatever is bound already.  On the columns of a table there is one
thing left to refuse: an element that is looked for in a set column and cannot be in its sets.
-/

/-! ## Readings -/

/-- A reading has exactly the described results and exactly the described reasons to refuse. -/
structure Reads {β : Type} (reading : Except QueryError β) (means : β → Prop)
    (refused : QueryError → Prop) : Prop where
  ok_iff : ∀ b, reading = .ok b ↔ means b
  error_iff : ∀ e, reading = .error e ↔ refused e

/-- It is enough that what is described is read, and that something is described. -/
theorem Reads.of_total {β : Type} {reading : Except QueryError β} {means : β → Prop}
    {refused : QueryError → Prop} (ok : ∀ b, means b → reading = .ok b)
    (error : ∀ e, refused e → reading = .error e) (total : (∃ b, means b) ∨ ∃ e, refused e) :
    Reads reading means refused := by
  rcases total with ⟨b, described⟩ | ⟨e, described⟩
  · have read := ok b described
    refine ⟨fun other => ⟨fun readOther => ?_, ok other⟩, fun e => ⟨fun failed => ?_, error e⟩⟩
    · cases read.symm.trans readOther
      exact described
    · exact nomatch read.symm.trans failed
  · have failed := error e described
    refine ⟨fun b => ⟨fun read => ?_, ok b⟩, fun other => ⟨fun failedOther => ?_, error other⟩⟩
    · exact nomatch failed.symm.trans read
    · cases failed.symm.trans failedOther
      exact described

theorem Reads.map {β γ : Type} {reading : Except QueryError β} {means : β → Prop}
    {refused : QueryError → Prop} (reads : Reads reading means refused) (f : β → γ) :
    Reads (reading.map f) (fun c => ∃ b, means b ∧ c = f b) refused := by
  cases read : reading with
  | ok b =>
      have described := (reads.ok_iff b).mp read
      refine .of_total ?_ ?_ (.inl ⟨f b, b, described, rfl⟩)
      · rintro _ ⟨other, otherDescribed, rfl⟩
        cases read.symm.trans ((reads.ok_iff other).mpr otherDescribed)
        rfl
      · intro e refusal
        exact nomatch read.symm.trans ((reads.error_iff e).mpr refusal)
  | error e =>
      refine .of_total ?_ ?_ (.inr ⟨e, (reads.error_iff e).mp read⟩)
      · rintro _ ⟨b, described, rfl⟩
        exact nomatch read.symm.trans ((reads.ok_iff b).mpr described)
      · intro other refusal
        cases read.symm.trans ((reads.error_iff other).mpr refusal)
        rfl

/-- The first of the entries without a meaning is refused for this reason. -/
def FirstRefused {ε γ : Type} (means : ε → γ → Prop) (refused : ε → QueryError → Prop)
    (entries : List ε) (e : QueryError) : Prop :=
  ∃ before entry after, entries = before ++ entry :: after ∧
    (∀ earlier ∈ before, ∃ meaning, means earlier meaning) ∧ refused entry e

section

variable {ε γ φ : Type} {means : ε → γ → Prop} {refused : ε → QueryError → Prop}
  {push : φ → γ → φ} {step : φ → ε → Except QueryError φ}
  {loop : φ → List ε → Except QueryError φ}

/-- Entries that are read one after the other: all of them have a meaning, or the first one without
one gives the reason. -/
theorem reads_entries (loop_nil : ∀ f, loop f [] = .ok f)
    (loop_cons : ∀ f entry rest, loop f (entry :: rest) = step f entry >>= fun f => loop f rest)
    (reads : ∀ f entry, Reads (step f entry)
      (fun g => ∃ meaning, means entry meaning ∧ g = push f meaning) (refused entry))
    (f : φ) (entries : List ε) :
    Reads (loop f entries)
      (fun g => ∃ meanings, List.Forall₂ means entries meanings ∧ g = meanings.foldl push f)
      (FirstRefused means refused entries) := by
  induction entries generalizing f with
  | nil =>
      refine Reads.of_total ?_ ?_ (.inl ⟨f, [], .nil, rfl⟩)
      · rintro g ⟨_, ⟨⟩, rfl⟩
        exact loop_nil _
      · rintro e ⟨before, entry, after, split, _⟩
        exact absurd split (by simp)
  | cons entry rest inductionHypothesis =>
      -- an entry with a meaning is not refused, so the first refusal is behind it
      have accepted {meaning : γ} (entryMeans : means entry meaning) :
          loop f (entry :: rest) = loop (push f meaning) rest := by
        rw [loop_cons, ((reads f entry).ok_iff _).mpr ⟨meaning, entryMeans, rfl⟩]
        rfl
      have failed {e : QueryError} (entryRefused : refused entry e) :
          loop f (entry :: rest) = .error e := by
        rw [loop_cons, ((reads f entry).error_iff e).mpr entryRefused]
        rfl
      refine Reads.of_total ?_ ?_ ?_
      · rintro g ⟨_, ⟨⟩, rfl⟩
        rename_i meaning others entryMeans othersMean
        rw [accepted entryMeans]
        exact ((inductionHypothesis _).ok_iff _).mpr ⟨others, othersMean, rfl⟩
      · rintro e ⟨_ | ⟨_, before⟩, other, after, split, earlier, otherRefused⟩
        · cases split
          exact failed otherRefused
        · cases split
          rcases earlier entry List.mem_cons_self with ⟨meaning, entryMeans⟩
          rw [accepted entryMeans]
          refine ((inductionHypothesis _).error_iff e).mpr
            ⟨before, other, after, rfl, fun a member => ?_, otherRefused⟩
          exact earlier a (List.mem_cons_of_mem entry member)
      · cases read : step f entry with
        | error e =>
            have entryRefused := ((reads f entry).error_iff e).mp read
            exact .inr ⟨e, [], entry, rest, rfl, nofun, entryRefused⟩
        | ok g =>
            rcases ((reads f entry).ok_iff g).mp read with ⟨meaning, entryMeans, rfl⟩
            have later := inductionHypothesis (push f meaning)
            cases readRest : loop (push f meaning) rest with
            | ok g =>
                rcases (later.ok_iff g).mp readRest with ⟨others, othersMean, rfl⟩
                exact .inl ⟨_, meaning :: others, .cons entryMeans othersMean, rfl⟩
            | error e =>
                rcases (later.error_iff e).mp readRest with
                  ⟨before, other, after, rfl, earlier, otherRefused⟩
                refine .inr ⟨e, entry :: before, other, after, rfl, ?_, otherRefused⟩
                exact List.forall_mem_cons.mpr ⟨⟨meaning, entryMeans⟩, earlier⟩

end

/-! ## Operators -/

namespace Predicate

/-- The operators that take a scalar, by all their names. -/
def scalarOperators : List (String × (Scalar → Predicate)) :=
  [("$eq", .compare .eq), ("$ne", .compare .ne), ("$lt", .compare .lt), ("$le", .compare .le),
   ("$gt", .compare .gt), ("$ge", .compare .ge), ("$like", .like), ("$notLike", .notLike),
   ("$nlike", .notLike), ("$contains", .contains), ("$contain", .contains),
   ("$notContains", .lacks), ("$notContain", .lacks), ("$ncontains", .lacks)]

/-- The operators that take an array of scalars, by all their names. -/
def listOperators : List (String × (List Scalar → Predicate)) :=
  [("$in", .oneOf), ("$notIn", .noneOf), ("$nin", .noneOf)]

/-- What an operator and its operand say. -/
inductive Means : String × Json → Predicate → Prop where
  | scalar {operator : String} {build : Scalar → Predicate} {operand : Json} {value : Scalar}
      (known : (operator, build) ∈ scalarOperators)
      (isScalar : Scalar.ofJson? operand = some value) :
      Means (operator, operand) (build value)
  | list {operator : String} {build : List Scalar → Predicate} {items : List Json}
      {values : List Scalar} (known : (operator, build) ∈ listOperators)
      (areScalars : List.Forall₂ (fun item value => Scalar.ofJson? item = some value)
        items values) :
      Means (operator, .array items) (build values)

/-- Why an operator with its operand says nothing. -/
inductive Refused : String × Json → QueryError → Prop where
  | unknown {operator : String} {operand : Json}
      (notScalar : operator ∉ scalarOperators.map Prod.fst)
      (notList : operator ∉ listOperators.map Prod.fst) :
      Refused (operator, operand) (.unknownOperator operator)
  | scalar {operator : String} {operand : Json} (known : operator ∈ scalarOperators.map Prod.fst)
      (noScalar : Scalar.ofJson? operand = none) :
      Refused (operator, operand) (.invalidArgument (.scalarExpected operator))
  | list {operator : String} {operand : Json} (known : operator ∈ listOperators.map Prod.fst)
      (noArray : ∀ items, operand ≠ .array items) :
      Refused (operator, operand) (.invalidArgument (.arrayExpected operator))
  | item {operator : String} {items : List Json} {item : Json}
      (known : operator ∈ listOperators.map Prod.fst) (member : item ∈ items)
      (noScalar : Scalar.ofJson? item = none) :
      Refused (operator, .array items) (.invalidArgument (.scalarExpected operator))

theorem exists_build {operator : String} {β : Type} {operators : List (String × β)}
    (known : operator ∈ operators.map Prod.fst) : ∃ build, (operator, build) ∈ operators := by
  rcases List.mem_map.mp known with ⟨⟨name, build⟩, member, rfl⟩
  exact ⟨build, member⟩

theorem ofJson_scalar {operator : String} {build : Scalar → Predicate}
    (known : (operator, build) ∈ scalarOperators) (operand : Json) :
    ofJson operator operand = (scalarOperand operator operand).map build := by
  simp only [scalarOperators, List.mem_cons, List.not_mem_nil, or_false, Prod.mk.injEq] at known
  rcases known with ⟨rfl, rfl⟩ | ⟨rfl, rfl⟩ | ⟨rfl, rfl⟩ | ⟨rfl, rfl⟩ | ⟨rfl, rfl⟩ | ⟨rfl, rfl⟩ |
    ⟨rfl, rfl⟩ | ⟨rfl, rfl⟩ | ⟨rfl, rfl⟩ | ⟨rfl, rfl⟩ | ⟨rfl, rfl⟩ | ⟨rfl, rfl⟩ | ⟨rfl, rfl⟩ |
    ⟨rfl, rfl⟩
  all_goals rfl

theorem ofJson_list {operator : String} {build : List Scalar → Predicate}
    (known : (operator, build) ∈ listOperators) (operand : Json) :
    ofJson operator operand = (listOperand operator operand).map build := by
  simp only [listOperators, List.mem_cons, List.not_mem_nil, or_false, Prod.mk.injEq] at known
  rcases known with ⟨rfl, rfl⟩ | ⟨rfl, rfl⟩ | ⟨rfl, rfl⟩
  all_goals rfl

theorem ofJson_unknown {operator : String} (notScalar : operator ∉ scalarOperators.map Prod.fst)
    (notList : operator ∉ listOperators.map Prod.fst) (operand : Json) :
    ofJson operator operand = .error (.unknownOperator operator) := by
  simp only [scalarOperators, listOperators, List.map_cons, List.map_nil, List.mem_cons,
    List.not_mem_nil, or_false, not_or] at notScalar notList
  simp only [ofJson, Relation.ofOperator?, notScalar, notList, if_false, decide_false, Bool.or_self,
    Bool.false_eq_true]

theorem scalarOperand_ok {operand : Json} {value : Scalar}
    (isScalar : Scalar.ofJson? operand = some value) (operator : String) :
    scalarOperand operator operand = .ok value := by
  rw [scalarOperand, isScalar]
  rfl

theorem scalarOperand_error {operand : Json} (noScalar : Scalar.ofJson? operand = none)
    (operator : String) :
    scalarOperand operator operand = .error (.invalidArgument (.scalarExpected operator)) := by
  rw [scalarOperand, noScalar]
  rfl

theorem listOperand_error_array {operand : Json} (noArray : ∀ items, operand ≠ .array items)
    (operator : String) :
    listOperand operator operand = .error (.invalidArgument (.arrayExpected operator)) := by
  cases operand with
  | array items => exact absurd rfl (noArray items)
  | _ => rfl

/-- Each item that is no scalar gives the same reason, so it does not matter which one is first. -/
theorem listOperand_error_item {items : List Json} {item : Json} (member : item ∈ items)
    (noScalar : Scalar.ofJson? item = none) (operator : String) :
    listOperand operator (.array items) = .error (.invalidArgument (.scalarExpected operator)) := by
  have refused := scalarOperand_error noScalar operator
  rcases mapM_error ⟨item, member, _, refused⟩ with ⟨other, _, error, failed, all⟩
  have otherRefused : Scalar.ofJson? other = none := by
    cases scalar : Scalar.ofJson? other with
    | none => rfl
    | some value =>
        rw [scalarOperand, scalar] at failed
        exact nomatch failed
  have same := Except.error.inj (failed.symm.trans (scalarOperand_error otherRefused operator))
  rw [listOperand, all, same]

theorem reads_ofJson (entry : String × Json) :
    Reads (ofJson entry.1 entry.2) (Means entry) (Refused entry) := by
  refine Reads.of_total ?_ ?_ ?_
  · rintro _ (⟨known, isScalar⟩ | @⟨operator, build, items, values, known, areScalars⟩)
    · rw [ofJson_scalar known, scalarOperand_ok isScalar]
      rfl
    · have all : items.mapM (scalarOperand operator) = .ok values :=
        mapM_ok (areScalars.imp fun _ _ isScalar => scalarOperand_ok isScalar operator)
      rw [ofJson_list known, listOperand, all]
      rfl
  · rintro _ (⟨notScalar, notList⟩ | ⟨known, noScalar⟩ | ⟨known, noArray⟩ |
      ⟨known, member, noScalar⟩)
    · exact ofJson_unknown notScalar notList _
    · rcases exists_build known with ⟨build, known⟩
      rw [ofJson_scalar known, scalarOperand_error noScalar]
      rfl
    · rcases exists_build known with ⟨build, known⟩
      rw [ofJson_list known, listOperand_error_array noArray]
      rfl
    · rcases exists_build known with ⟨build, known⟩
      rw [ofJson_list known, listOperand_error_item member noScalar]
      rfl
  · rcases entry with ⟨operator, operand⟩
    by_cases isScalarOperator : operator ∈ scalarOperators.map Prod.fst
    · rcases exists_build isScalarOperator with ⟨build, known⟩
      cases scalar : Scalar.ofJson? operand with
      | none => exact .inr ⟨_, .scalar isScalarOperator scalar⟩
      | some value => exact .inl ⟨_, .scalar known scalar⟩
    by_cases isListOperator : operator ∈ listOperators.map Prod.fst
    · rcases exists_build isListOperator with ⟨build, known⟩
      by_cases isArray : ∃ items, operand = .array items
      · rcases isArray with ⟨items, rfl⟩
        rcases exists_none_or_forall₂ Scalar.ofJson? items with
          ⟨item, member, noScalar⟩ | ⟨values, areScalars⟩
        · exact .inr ⟨_, .item isListOperator member noScalar⟩
        · exact .inl ⟨_, .list known areScalars⟩
      · exact .inr ⟨_, .list isListOperator fun items same => isArray ⟨items, same⟩⟩
    · exact .inr ⟨_, .unknown isScalarOperator isListOperator⟩

end Predicate

/-! ## Members and documents -/

/-- The name of a column: an identifier, or two with a point between them. -/
def IsColumnName (name : String) : Prop :=
  Name.isIdentifier name = true ∨
    ∃ table column : String, Name.isIdentifier table = true ∧ Name.isIdentifier column = true ∧
      name = table ++ "." ++ column

theorem isColumnReference_iff (name : String) :
    isColumnReference name = true ↔ IsColumnName name := by
  constructor
  · intro valid
    rw [isColumnReference] at valid
    rcases Reference.ofText_cases name with ⟨whole, _⟩ | ⟨table, column, cut, name_eq, _⟩
    · rw [whole, Reference.isValid, Bool.true_and] at valid
      exact .inl valid
    · rw [cut, Reference.isValid, Bool.and_eq_true] at valid
      exact .inr ⟨table, column, valid.1, valid.2, name_eq⟩
  · rintro (valid | ⟨table, column, tableValid, columnValid, rfl⟩)
    · rw [isColumnReference, Reference.ofText_bare (Name.isIdentifier_noPoint valid),
        Reference.isValid, Bool.true_and]
      exact valid
    · rw [isColumnReference, Reference.ofText_qualified (Name.isIdentifier_noPoint tableValid),
        Reference.isValid, Bool.and_eq_true]
      exact ⟨tableValid, columnValid⟩

theorem Scalar.ofJson?_eq_none_iff (json : Json) : ofJson? json = none ↔
    (∃ items, json = .array items) ∨ ∃ members, json = .object members := by
  cases json with
  | number n => cases n <;> simp [ofJson?, Json.Number.integer?]
  | _ => simp [ofJson?]

namespace Filter

/-- Require predicates of columns, first to last. -/
def pushAll (f : Filter) (said : List (String × Predicate)) : Filter :=
  said.foldl (fun f (column, predicate) => f.push column predicate) f

/-- What a member says: that its column equals a scalar, or what its operators say about the
column. -/
inductive MemberMeans : String × Json → List (String × Predicate) → Prop where
  | value {column : String} {json : Json} {value : Scalar} (named : IsColumnName column)
      (isScalar : Scalar.ofJson? json = some value) :
      MemberMeans (column, json) [(column, .compare .eq value)]
  | operators {column : String} {operators : OrderedMap Json} {predicates : List Predicate}
      (named : IsColumnName column) (nonempty : operators.entries ≠ [])
      (each : List.Forall₂ Predicate.Means operators.entries predicates) :
      MemberMeans (column, .object operators) (predicates.map fun predicate => (column, predicate))

/-- Why a member says nothing.  Its name is looked at first. -/
inductive MemberRefused : String × Json → QueryError → Prop where
  | name {column : String} {json : Json} (unnamed : ¬ IsColumnName column) :
      MemberRefused (column, json) (.invalidArgument (.invalidColumnName column))
  | array {column : String} {items : List Json} (named : IsColumnName column) :
      MemberRefused (column, .array items) (.invalidArgument (.scalarExpected "$eq"))
  | noOperator {column : String} (named : IsColumnName column) :
      MemberRefused (column, .object ⟨[]⟩) (.invalidArgument (.noOperator column))
  | operator {column : String} {operators : OrderedMap Json} {e : QueryError}
      (named : IsColumnName column)
      (first : FirstRefused Predicate.Means Predicate.Refused operators.entries e) :
      MemberRefused (column, .object operators) e

/-- What a document says, in the order in which it is written. -/
inductive Means : Json → List (String × Predicate) → Prop where
  | null : Means .null []
  | members {members : OrderedMap Json} {said : List (List (String × Predicate))}
      (each : List.Forall₂ MemberMeans members.entries said) : Means (.object members) said.flatten

/-- Why a document says nothing. -/
inductive Refused : Json → QueryError → Prop where
  | noObject {document : Json} (notNull : document ≠ .null)
      (noObject : ∀ members, document ≠ .object members) :
      Refused document (.invalidArgument .filterNotObject)
  | member {members : OrderedMap Json} {e : QueryError}
      (first : FirstRefused MemberMeans MemberRefused members.entries e) :
      Refused (.object members) e

theorem pushAll_column (f : Filter) (column : String) (predicates : List Predicate) :
    f.pushAll (predicates.map fun predicate => (column, predicate)) =
      predicates.foldl (fun f predicate => f.push column predicate) f := by
  rw [pushAll, List.foldl_map]

theorem pushAll_flatten (f : Filter) (said : List (List (String × Predicate))) :
    f.pushAll said.flatten = said.foldl pushAll f := by
  rw [pushAll, List.foldl_flatten]
  rfl

theorem reads_pushOperators (column : String) (f : Filter) (operators : List (String × Json)) :
    Reads (pushOperators column f operators)
      (fun g => ∃ predicates, List.Forall₂ Predicate.Means operators predicates ∧
        g = predicates.foldl (fun f predicate => f.push column predicate) f)
      (FirstRefused Predicate.Means Predicate.Refused operators) := by
  refine reads_entries (fun _ => rfl) ?_
    (fun f entry => (Predicate.reads_ofJson entry).map (f.push column)) f operators
  intro f entry rest
  rw [pushOperators]
  cases Predicate.ofJson entry.1 entry.2 <;> rfl

section

variable {column : String} (named : IsColumnName column) (f : Filter)
include named

theorem pushMember_value {json : Json} (noObject : ∀ operators, json ≠ .object operators) :
    f.pushMember column json = (Predicate.ofJson "$eq" json).map (f.push column) := by
  unfold pushMember
  rw [(isColumnReference_iff column).mpr named]
  cases json with
  | object operators => exact absurd rfl (noObject operators)
  | _ => rfl

theorem pushMember_operators {operators : OrderedMap Json} (nonempty : operators.entries ≠ []) :
    f.pushMember column (.object operators) = pushOperators column f operators.entries := by
  rcases operators with ⟨_ | ⟨first, rest⟩⟩
  · exact absurd rfl nonempty
  · rw [pushMember, (isColumnReference_iff column).mpr named]
    rfl

theorem pushMember_noOperator : f.pushMember column (.object ⟨[]⟩) =
    .error (.invalidArgument (.noOperator column)) := by
  rw [pushMember, (isColumnReference_iff column).mpr named]
  rfl

end

theorem pushMember_name {column : String} (unnamed : ¬ IsColumnName column) (f : Filter)
    (json : Json) :
    f.pushMember column json = .error (.invalidArgument (.invalidColumnName column)) := by
  have invalid : isColumnReference column = false :=
    Bool.eq_false_iff.mpr (mt (isColumnReference_iff column).mp unnamed)
  unfold pushMember
  rw [invalid]
  rfl

theorem reads_pushMember (f : Filter) (member : String × Json) :
    Reads (f.pushMember member.1 member.2)
      (fun g => ∃ said, MemberMeans member said ∧ g = f.pushAll said) (MemberRefused member) := by
  have notObject {json : Json} {value : Scalar} (isScalar : Scalar.ofJson? json = some value)
      (operators : OrderedMap Json) : json ≠ .object operators := by
    rintro rfl
    exact nomatch isScalar
  refine Reads.of_total ?_ ?_ ?_
  · rintro _ ⟨_, ⟨named, isScalar⟩ | @⟨column, operators, predicates, named, nonempty, each⟩, rfl⟩
    · rw [pushMember_value named f (notObject isScalar),
        Predicate.ofJson_scalar List.mem_cons_self, Predicate.scalarOperand_ok isScalar]
      rfl
    · rw [pushMember_operators named f nonempty, pushAll_column]
      exact ((reads_pushOperators column f operators.entries).ok_iff _).mpr ⟨predicates, each, rfl⟩
  · rintro _ (unnamed | @⟨column, items, named⟩ | named | @⟨column, operators, _, named, first⟩)
    · exact pushMember_name unnamed f _
    · have noObject (operators : OrderedMap Json) : Json.array items ≠ .object operators := nofun
      rw [pushMember_value named f noObject, Predicate.ofJson_scalar List.mem_cons_self,
        Predicate.scalarOperand_error rfl]
      rfl
    · exact pushMember_noOperator named f
    · have nonempty : operators.entries ≠ [] := by
        rcases first with ⟨before, entry, after, split, _⟩
        rw [split]
        simp
      rw [pushMember_operators named f nonempty]
      exact ((reads_pushOperators column f operators.entries).error_iff _).mpr first
  · rcases member with ⟨column, json⟩
    by_cases named : IsColumnName column
    · cases scalar : Scalar.ofJson? json with
      | some value => exact .inl ⟨_, _, .value named scalar, rfl⟩
      | none =>
          rcases (Scalar.ofJson?_eq_none_iff json).mp scalar with ⟨items, rfl⟩ | ⟨operators, rfl⟩
          · exact .inr ⟨_, .array named⟩
          · by_cases empty : operators.entries = []
            · rcases operators with ⟨entries⟩
              subst empty
              exact .inr ⟨_, .noOperator named⟩
            have reads := reads_pushOperators column f operators.entries
            cases read : pushOperators column f operators.entries with
            | ok g =>
                rcases (reads.ok_iff g).mp read with ⟨predicates, each, rfl⟩
                exact .inl ⟨_, _, .operators named empty each, rfl⟩
            | error e => exact .inr ⟨e, .operator named ((reads.error_iff e).mp read)⟩
    · exact .inr ⟨_, .name named⟩

theorem reads_pushMembers (f : Filter) (members : List (String × Json)) :
    Reads (pushMembers f members)
      (fun g => ∃ said, List.Forall₂ MemberMeans members said ∧ g = said.foldl pushAll f)
      (FirstRefused MemberMeans MemberRefused members) :=
  reads_entries (fun _ => rfl) (fun _ _ _ => rfl) reads_pushMember f members

theorem reads_ofJson (document : Json) :
    Reads (ofJson document) (fun f => ∃ said, Means document said ∧ f = all.pushAll said)
      (Refused document) := by
  refine Reads.of_total ?_ ?_ ?_
  · rintro _ ⟨_, ⟨⟩ | @⟨members, said, each⟩, rfl⟩
    · rfl
    · rw [pushAll_flatten]
      exact ((reads_pushMembers all members.entries).ok_iff _).mpr ⟨said, each, rfl⟩
  · rintro e (⟨notNull, noObject⟩ | @⟨members, _, first⟩)
    · cases document with
      | null => exact absurd rfl notNull
      | object members => exact absurd rfl (noObject members)
      | _ => rfl
    · exact ((reads_pushMembers all members.entries).error_iff e).mpr first
  · cases document with
    | null => exact .inl ⟨_, _, .null, rfl⟩
    | object members =>
        have reads := reads_pushMembers all members.entries
        cases read : pushMembers all members.entries with
        | ok f =>
            rcases (reads.ok_iff f).mp read with ⟨said, each, _⟩
            exact .inl ⟨_, _, .members each, rfl⟩
        | error e => exact .inr ⟨e, .member ((reads.error_iff e).mp read)⟩
    | _ => exact .inr ⟨_, .noObject nofun nofun⟩

/-! ## What a filter requires -/

/-- The filter requires a predicate of a column. -/
def Requires (f : Filter) (column : String) (p : Predicate) : Prop :=
  ∃ c ∈ f.conditions, c.column = column ∧ p ∈ c.predicates

theorem requires_push (f : Filter) (column : String) (predicate : Predicate) (name : String)
    (p : Predicate) : (f.push column predicate).Requires name p ↔
      (name, p) = (column, predicate) ∨ f.Requires name p := by
  rcases f with ⟨conditions⟩
  simp only [Requires, push, Prod.mk.injEq]
  fun_induction Condition.add column predicate conditions with
  | case1 => simp [eq_comm]
  | case2 condition rest same =>
      simp only [List.mem_cons, exists_eq_or_imp, same, List.mem_append, List.not_mem_nil, or_false]
      rw [← or_assoc, and_or_left, eq_comm (a := name),
        or_comm (a := column = name ∧ p = predicate)]
  | case3 condition rest other inductionHypothesis =>
      simp only [List.mem_cons, exists_eq_or_imp, inductionHypothesis]
      exact or_left_comm

theorem requires_pushAll (f : Filter) (said : List (String × Predicate)) (name : String)
    (p : Predicate) : (f.pushAll said).Requires name p ↔ (name, p) ∈ said ∨ f.Requires name p := by
  induction said generalizing f with
  | nil => simp [pushAll]
  | cons first rest inductionHypothesis =>
      have later := inductionHypothesis (f.push first.1 first.2)
      rw [requires_push] at later
      rw [List.mem_cons, or_assoc, or_left_comm]
      exact later

/-- Each condition has a predicate. -/
def Nonempty (f : Filter) : Prop :=
  ∀ c ∈ f.conditions, c.predicates ≠ []

theorem Nonempty.push {f : Filter} (nonempty : f.Nonempty) (column : String)
    (predicate : Predicate) : (f.push column predicate).Nonempty := by
  rcases f with ⟨conditions⟩
  simp only [Nonempty, Filter.push] at nonempty ⊢
  fun_induction Condition.add column predicate conditions with
  | case1 => simp
  | case2 condition rest same =>
      refine List.forall_mem_cons.mpr ⟨by simp, (List.forall_mem_cons.mp nonempty).2⟩
  | case3 condition rest other inductionHypothesis =>
      rcases List.forall_mem_cons.mp nonempty with ⟨first, later⟩
      exact List.forall_mem_cons.mpr ⟨first, inductionHypothesis later⟩

theorem Nonempty.pushAll {f : Filter} (nonempty : f.Nonempty) (said : List (String × Predicate)) :
    (f.pushAll said).Nonempty := by
  induction said generalizing f with
  | nil => exact nonempty
  | cons first rest inductionHypothesis => exact inductionHypothesis (nonempty.push first.1 first.2)

/-! ## Compiling what is read -/

end Filter

namespace Predicate

/-- The element that is looked for in a set. -/
def sought? : Predicate → Option Scalar
  | .contains element => some element
  | .lacks element => some element
  | _ => none

/-- On a set column of this type, the element that is looked for cannot be in a set. -/
def Unfindable (type? : Option ColumnType) (p : Predicate) (e : QueryError) : Prop :=
  ∃ (element : Scalar) (type : ColumnType), p.sought? = some element ∧ type? = some type ∧
    type.isSet = true ∧ type.element (.ofScalar element) = .error e

theorem soughtOperand_error_iff (type? : Option ColumnType) (element : Scalar) (e : QueryError) :
    soughtOperand type? element = .error e ↔ ∃ type : ColumnType, type? = some type ∧
      type.isSet = true ∧ type.element (.ofScalar element) = .error e := by
  cases type? with
  | none => simp [soughtOperand, ColumnType.membershipOperand, ok_bind, pure, Except.pure]
  | some type =>
      rw [soughtOperand, ColumnType.membershipOperand]
      by_cases set : type.isSet = true
      · rw [if_pos set]
        cases operand : type.element (.ofScalar element) <;>
          simp [set, operand, Except.map, ok_bind, error_bind, pure, Except.pure]
      · rw [if_neg set]
        simp [set, ok_bind, pure, Except.pure]

/-- Nothing else can be wrong with an operand. -/
theorem operands_error_iff (type? : Option ColumnType) (p : Predicate) (e : QueryError) :
    p.operands type? = .error e ↔ p.Unfindable type? e := by
  unfold operands
  split
  case h_8 => simp [soughtOperand_error_iff, Unfindable, sought?]
  case h_9 => simp [soughtOperand_error_iff, Unfindable, sought?]
  all_goals simp [Unfindable, sought?]

end Predicate

namespace Filter

/-- A document says of a column of the table that it has an element which none of its sets has. -/
def Unfindable (table : Table) (said : List (String × Predicate)) (e : QueryError) : Prop :=
  ∃ column p, (column, p) ∈ said ∧ p.Unfindable ((Scope.single table).columnType? column) e

/-- The operands of a filter are those of its predicates, if its columns are valid. -/
theorem operands_error {f : Filter} (valid : ∀ c ∈ f.conditions, isColumnReference c.column = true)
    (nonempty : f.Nonempty) {columns : Columns} {e : QueryError}
    (refused : f.operands columns = .error e) :
    ∃ column p, f.Requires column p ∧ p.Unfindable (columns.type? column) e := by
  rw [operands] at refused
  by_cases empty : f.isEmpty = true
  · rw [if_pos empty] at refused
    exact nomatch refused
  · rw [if_neg empty] at refused
    rcases operandsOf_error refused with ⟨c, member, refused⟩
    rw [Condition.operands_of_valid columns (valid c member) (nonempty c member)] at refused
    rcases operandsOf_error refused with ⟨p, pMember, refused⟩
    exact ⟨c.column, p, ⟨c, member, rfl, pMember⟩, (p.operands_error_iff _ e).mp refused⟩

theorem exists_operands_error {f : Filter}
    (valid : ∀ c ∈ f.conditions, isColumnReference c.column = true) (nonempty : f.Nonempty)
    (columns : Columns) {column : String} {p : Predicate} {e : QueryError}
    (required : f.Requires column p) (unfindable : p.Unfindable (columns.type? column) e) :
    ∃ e, f.operands columns = .error e := by
  rcases required with ⟨c, member, rfl, pMember⟩
  have notEmpty : ¬ f.isEmpty = true := by
    intro empty
    rw [List.isEmpty_iff.mp empty] at member
    exact nomatch member
  cases operands_eq : f.operands columns with
  | error e => exact ⟨e, rfl⟩
  | ok values =>
      rw [operands, if_neg notEmpty] at operands_eq
      rcases operandsOf_ok operands_eq c member with ⟨own, accepted⟩
      rw [Condition.operands_of_valid columns (valid c member) (nonempty c member)] at accepted
      rcases operandsOf_ok accepted p pMember with ⟨own, accepted⟩
      exact nomatch accepted.symm.trans ((p.operands_error_iff _ e).mpr unfindable)

theorem conditionText_error_iff (columns : Columns) (f : Filter) (params : List Scalar)
    (e : QueryError) :
    conditionText columns f params = .error e ↔ f.operands columns = .error e := by
  rw [conditionText_eq]
  cases f.operands columns <;> simp [Except.map]

theorem Means.named {document : Json} {said : List (String × Predicate)}
    (means : Means document said) {column : String} {p : Predicate} (member : (column, p) ∈ said) :
    IsColumnName column := by
  rcases means with _ | ⟨each⟩
  · exact nomatch member
  · rcases List.mem_flatten.mp member with ⟨own, ownMember, member⟩
    rcases exists_left_of_forall₂ each ownMember with ⟨entry, _, ⟨named, _⟩ | ⟨named, _, _⟩⟩
    · cases List.mem_singleton.mp member
      exact named
    · rcases List.mem_map.mp member with ⟨p, _, same⟩
      cases same
      exact named

/-- The language of filter documents.  A document is read as the filter that requires what the
document says, and refused if it says nothing.  What is read can be compiled with its columns as
they are named.  For a table it can be compiled unless an element is looked for that cannot be in a
set of its column, and then this is the reason. -/
theorem ofJson_language (document : Json) :
    (∀ f, ofJson document = .ok f ↔ ∃ said, Means document said ∧ f = all.pushAll said) ∧
      (∀ e, ofJson document = .error e ↔ Refused document e) ∧
      ∀ said, Means document said → ∀ params,
        (∃ compiled, conditionText .asNamed (all.pushAll said) params = .ok compiled) ∧
        ∀ table,
          (∀ e, conditionText (.ofScope (.single table)) (all.pushAll said) params = .error e →
            Unfindable table said e) ∧
          ((∃ e, Unfindable table said e) → ∃ e,
            conditionText (.ofScope (.single table)) (all.pushAll said) params = .error e) := by
  refine ⟨(reads_ofJson document).ok_iff, (reads_ofJson document).error_iff, ?_⟩
  intro said means params
  have nonempty : (all.pushAll said).Nonempty := Nonempty.pushAll (f := all) nofun said
  have requires (column : String) (p : Predicate) :
      (all.pushAll said).Requires column p ↔ (column, p) ∈ said := by
    rw [requires_pushAll]
    exact or_iff_left fun ⟨c, member, _⟩ => nomatch member
  have valid : ∀ c ∈ (all.pushAll said).conditions, isColumnReference c.column = true := by
    intro c member
    rcases List.exists_mem_of_ne_nil _ (nonempty c member) with ⟨p, pMember⟩
    have isSaid := (requires c.column p).mp ⟨c, member, rfl, pMember⟩
    exact (isColumnReference_iff c.column).mpr (means.named isSaid)
  have refused {columns : Columns} {e : QueryError}
      (failed : conditionText columns (all.pushAll said) params = .error e) :
      ∃ column p, (column, p) ∈ said ∧ p.Unfindable (columns.type? column) e := by
    rcases operands_error valid nonempty ((conditionText_error_iff _ _ _ e).mp failed) with
      ⟨column, p, required, unfindable⟩
    exact ⟨column, p, (requires column p).mp required, unfindable⟩
  constructor
  · cases compiled : conditionText .asNamed (all.pushAll said) params with
    | ok text => exact ⟨text, rfl⟩
    | error e =>
        -- columns as they are named have no type, so nothing is looked for in a set
        rcases refused compiled with ⟨column, p, _, element, type, _, typed, _⟩
        exact nomatch typed
  · intro table
    refine ⟨fun e failed => refused failed, ?_⟩
    rintro ⟨e, column, p, isSaid, unfindable⟩
    rcases exists_operands_error valid nonempty (.ofScope (.single table))
      ((requires column p).mpr isSaid) unfindable with ⟨error, failed⟩
    exact ⟨error, (conditionText_error_iff _ _ _ error).mpr failed⟩

/-- A word can be looked for among numbers, until it is known that they are numbers. -/
theorem ofJson_word :
    let document : Json := .object ⟨[("age", .object ⟨[("$gt", .ofInt64 21),
      ("$nin", .array [.ofInt64 30])]⟩), ("nums", .object ⟨[("$contain", .string "many")]⟩)]⟩
    let people : Table := ⟨"default", "people", [{ name := "nums", type := .integerSet }]⟩
    let f : Filter := ⟨[⟨"age", [.compare .gt (.integer 21), .noneOf [.integer 30]]⟩,
      ⟨"nums", [.contains (.text "many")]⟩]⟩
    ofJson document = .ok f ∧ (∃ compiled, conditionText .asNamed f [] = .ok compiled) ∧
      ∃ e, conditionText (.ofScope (.single people)) f [] = .error e := by
  intro document people f
  let said : List (String × Predicate) := [("age", .compare .gt (.integer 21)),
    ("age", .noneOf [.integer 30]), ("nums", .contains (.text "many"))]
  have ages : MemberMeans ("age", .object ⟨[("$gt", .ofInt64 21), ("$nin", .array [.ofInt64 30])]⟩)
      [("age", .compare .gt (.integer 21)), ("age", .noneOf [.integer 30])] := by
    refine .operators (.inl (by decide)) (by simp) (.cons ?_ (.cons ?_ .nil))
    · exact .scalar (by simp [Predicate.scalarOperators]) rfl
    · exact .list (by simp [Predicate.listOperators]) (.cons rfl .nil)
  have numbers : MemberMeans ("nums", .object ⟨[("$contain", .string "many")]⟩)
      [("nums", .contains (.text "many"))] := by
    refine .operators (.inl (by decide)) (by simp) (.cons ?_ .nil)
    exact .scalar (by simp [Predicate.scalarOperators]) rfl
  have means : Means document said := .members (.cons ages (.cons numbers .nil))
  have unfindable : Unfindable people said
      (.invalidArgument (.invalidElement (.string "many") .integerSet)) := by
    refine ⟨"nums", .contains (.text "many"), by simp [said], .text "many", .integerSet, rfl, ?_⟩
    exact ⟨by rfl, rfl, by rfl⟩
  rcases ofJson_language document with ⟨read, _, compiles⟩
  rcases compiles said means [] with ⟨compiled, onTable⟩
  exact ⟨(read f).mpr ⟨said, means, rfl⟩, compiled, (onTable people).2 ⟨_, unfindable⟩⟩

end Filter
end DocumentQuery
