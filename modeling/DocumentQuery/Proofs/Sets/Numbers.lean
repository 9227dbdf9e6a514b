import DocumentQuery.Proofs.Decimal.ExactValue
import DocumentQuery.Proofs.Sets.Columns

namespace DocumentQuery

open Sql

/-!
# Numbers as elements of integer sets

A JSON number is read as a 64-bit integer or as a double.  In a column of integer sets it has to
be an integer, and what the store then receives for it is a 64-bit integer.

Whether a number is an integer is decided on its exact value, so a number with a fractional part
is refused wherever it is an operand.  Whether 64 bits hold it is not asked.  An integer beyond
them is accepted as well, and the store receives the end of the range in its place.
-/

/-- The number that a value is exactly, if it is an integer or a finite real. -/
def Value.exactValue? : Value → Option ℚ
  | .integer n => some n.toInt
  | .real x => if x.isFinite then some (Decimal.exactValue x) else none
  | _ => none

/-- A JSON number is read as an integer or as a real. -/
theorem Value.ofJson_number (number : Json.Number) :
    (∃ n : Int64, ofJson (.number number) = .integer n) ∨
      ∃ x : Float, ofJson (.number number) = .real x := by
  rw [ofJson]
  cases number.integer? with
  | none => exact .inr ⟨_, rfl⟩
  | some n => exact .inl ⟨n, rfl⟩

theorem Decimal.clampInt64_self (n : Int64) : clampInt64 n.toInt = n := by
  rw [← Int64.toInt_inj, clampInt64_toInt_eq_iff]
  exact ⟨n.le_toInt, n.toInt_lt⟩

/-! ## The element of a number -/

namespace ColumnType

open Value

/-- The element of an integer is the 64-bit integer nearest to it. -/
theorem integerElement?_of_integer {v : Value} {z : ℤ} (integer : v.exactValue? = some (z : ℚ)) :
    integerElement? v = some (Decimal.clampInt64 z) := by
  cases v with
  | integer n =>
      have same : n.toInt = z := by exact_mod_cast Option.some.inj integer
      rw [integerElement?, ← same, Decimal.clampInt64_self]
  | real x =>
      by_cases finite : x.isFinite = true
      · rw [exactValue?, if_pos finite] at integer
        have value := Option.some.inj integer
        rw [integerElement?, if_pos (Decimal.isIntegral_of_exactValue finite value),
          Decimal.toInt64_of_exactValue finite value]
      · rw [exactValue?, if_neg finite] at integer
        exact nomatch integer
  | _ => exact nomatch integer

/-- A number that is no integer is no element. -/
theorem integerElement?_of_not_integer {number : Json.Number}
    (notInteger : ∀ z : ℤ, (ofJson (.number number)).exactValue? ≠ some (z : ℚ)) :
    integerElement? (ofJson (.number number)) = none := by
  rcases ofJson_number number with ⟨n, read⟩ | ⟨x, read⟩
  · rw [read] at notInteger
    exact absurd rfl (notInteger n.toInt)
  · rw [read] at notInteger ⊢
    have notIntegral : ¬ Decimal.isIntegral x = true := by
      intro integral
      have finite := (Bool.and_eq_true_iff.mp integral).1
      refine notInteger (Decimal.truncate x) ?_
      rw [exactValue?, if_pos finite, Decimal.exactValue_eq_truncate integral]
    rw [integerElement?, if_neg notIntegral]

/-- What is bound for a value as an element, or its refusal. -/
def elementOperands (bound : Int64 → Scalar) (v : Value) : Except QueryError (List Scalar) := do
  let n ← orReject (integerElement? v) (.invalidElement v.toJson .integerSet)
  pure [bound n]

theorem operands_element_eq (v : Value) :
    Change.operands.element .integerSet v = elementOperands .integer v := by
  rw [Change.operands.element, element, element?, elementOperands]
  cases integerElement? v <;> rfl

theorem soughtOperand_eq (sought : Scalar) :
    Predicate.soughtOperand (some .integerSet) sought =
      elementOperands .integer (.ofScalar sought) := by
  rw [Predicate.soughtOperand, membershipOperand, element, element?, elementOperands]
  cases integerElement? (.ofScalar sought) <;> rfl

/-- The text of the set of one integer. -/
def singleton (n : Int64) : Scalar :=
  .text (Json.array [.ofInt64 n]).compact

theorem operands_set_eq (column : String) (number : Json.Number) :
    (Change.set (ofJson (.number number))).operands column .integerSet =
      elementOperands singleton (ofJson (.number number)) := by
  have single : ∀ v : Value, v.isNull = false → elementsOf v = [v] →
      (Change.set v).operands column .integerSet = elementOperands singleton v := by
    intro v notNull alone
    rw [Change.operands, stored, notNull, alone, elementOperands]
    change (do
      let stored ← (do
        let elements ← List.mapM (element .integerSet) [v]
        pure (setOf .integerSet elements).toScalar)
      pure [stored]) = _
    rw [List.mapM_cons, List.mapM_nil, element, element?]
    cases integerElement? v <;> rfl
  rcases ofJson_number number with ⟨n, read⟩ | ⟨x, read⟩ <;> rw [read] <;> exact single _ rfl rfl

end ColumnType

/-! ## Expressions with a number -/

/-- Where a number is the operand of an expression on a column: in a change, alone or after an
operator, or after an operator of a filter. -/
inductive NumberUse where
  | bare
  | change (operator : String)
  | condition (operator : String)

namespace NumberUse

open ColumnType

/-- What is built for a number in a column of integer sets. -/
def build (column : String) (number : Json.Number) : NumberUse → Binder Expr
  | bare => changed (.number number)
  | change operator => changed (.object ⟨[(operator, .number number)]⟩)
  | condition operator => do
    let p ← Predicate.ofJson operator (.number number)
    predicate (.column (Reference.ofText column).path) (some .integerSet) p
where
  changed (document : Json) : Binder Expr := do
    let change ← Change.ofJson document
    changedValue column .integerSet change

/-- The expression takes its number for an element, and this is what is bound for the element:
the set of it alone for a new value, and the element itself otherwise. -/
inductive Binds : NumberUse → (Int64 → Scalar) → Prop where
  | bare : Binds bare singleton
  | set : Binds (change "$set") singleton
  | add : Binds (change "$add") .integer
  | remove {operator : String} (named : operator ∈ ["$del", "$remove"]) :
      Binds (change operator) .integer
  | contains {operator : String} (named : operator ∈ ["$contains", "$contain"]) :
      Binds (condition operator) .integer
  | lacks {operator : String} (named : operator ∈ ["$notContains", "$notContain", "$ncontains"]) :
      Binds (condition operator) .integer

variable {use : NumberUse} {bound : Int64 → Scalar}

theorem builds_changed {column : String} {document : Json} (change : Change)
    (read : Change.ofJson document = .ok change) :
    Builds (build.changed column document) (change.operands column .integerSet) 1
      (change.written column .integerSet) := by
  rw [build.changed, read]
  exact builds_changedValue column .integerSet change

theorem builds_condition {column : String} {number : Json.Number} {operator : String}
    {sought : Scalar} {p : Predicate}
    (read : Predicate.ofJson operator (.number number) = .ok p)
    (operands : p.operands (some .integerSet) = Predicate.soughtOperand (some .integerSet) sought)
    (same : Value.ofScalar sought = .ofJson (.number number)) :
    Builds ((condition operator).build column number)
      (elementOperands .integer (.ofJson (.number number))) p.arity
      (p.written (.column (Reference.ofText column).path)) := by
  rw [build, read, ← same, ← soughtOperand_eq, ← operands]
  exact builds_predicate _ (some .integerSet) p

/-- The scalar of a number in a filter stands for the value that is read from it. -/
theorem exists_scalar (number : Json.Number) : ∃ sought : Scalar,
    Scalar.ofJson? (.number number) = some sought ∧
      Value.ofScalar sought = .ofJson (.number number) := by
  cases number with
  | integer n => exact ⟨.integer n, rfl, rfl⟩
  | large n => exact ⟨.real (Float.ofNat n.toNat), rfl, rfl⟩
  | real x => exact ⟨.real x, rfl, rfl⟩

/-- Every use binds the element of its number and nothing else, or is refused with the number. -/
theorem exists_builds (binds : use.Binds bound) (column : String) (number : Json.Number) :
    ∃ (arity : Nat) (written : Nat → Expr), Builds (use.build column number)
      (elementOperands bound (.ofJson (.number number))) arity written := by
  rcases exists_scalar number with ⟨sought, scalar, same⟩
  cases binds with
  | bare =>
      rw [← operands_set_eq column number]
      exact ⟨_, _, builds_changed (.set (.ofJson (.number number))) rfl⟩
  | set =>
      rw [← operands_set_eq column number]
      exact ⟨_, _, builds_changed (.set (.ofJson (.number number))) rfl⟩
  | add =>
      rw [← operands_element_eq]
      exact ⟨_, _, builds_changed (.add (.ofJson (.number number))) rfl⟩
  | remove named =>
      rw [← operands_element_eq]
      rcases List.mem_pair.mp named with rfl | rfl
      all_goals exact ⟨_, _, builds_changed (.remove (.ofJson (.number number))) rfl⟩
  | @contains operator named =>
      have read : Predicate.ofJson operator (.number number) = .ok (.contains sought) := by
        rcases List.mem_pair.mp named with rfl | rfl
        all_goals
          change (Predicate.scalarOperand _ _).map Predicate.contains = _
          rw [Predicate.scalarOperand, scalar]
          rfl
      exact ⟨_, _, builds_condition read rfl same⟩
  | @lacks operator named =>
      have read : Predicate.ofJson operator (.number number) = .ok (.lacks sought) := by
        simp only [List.mem_cons, List.not_mem_nil, or_false] at named
        rcases named with rfl | rfl | rfl
        all_goals
          change (Predicate.scalarOperand _ _).map Predicate.lacks = _
          rw [Predicate.scalarOperand, scalar]
          rfl
      exact ⟨_, _, builds_condition read rfl same⟩

/-- A number that is an integer is accepted as an element wherever it is used, and what is bound
is the 64-bit integer nearest to it: the number itself exactly if 64 bits hold it, and one end of
the range otherwise.  A number that is no integer is refused. -/
theorem binds_nearest (binds : use.Binds bound) (number : Json.Number) (column : String)
    (params : List Scalar) :
    let read := Value.ofJson (.number number)
    let outcome := (use.build column number).run params
    (∀ z : ℤ, read.exactValue? = some (z : ℚ) → ∃ (n : Int64) (written : Expr),
      outcome = .ok (written, params ++ [bound n]) ∧
      n.toInt = max (-2 ^ 63) (min z (2 ^ 63 - 1)) ∧
      (n.toInt = z ↔ -2 ^ 63 ≤ z ∧ z < 2 ^ 63)) ∧
    ((∀ z : ℤ, read.exactValue? ≠ some (z : ℚ)) →
      outcome = .error (.invalidArgument (.invalidElement read.toJson .integerSet))) := by
  intro read outcome
  rcases exists_builds binds column number with ⟨_, written, builds⟩
  have run : outcome = (elementOperands bound read).map fun values =>
      (written params.length, params ++ values) := builds.run_eq params
  refine ⟨fun z integer => ?_, fun notInteger => ?_⟩
  · rw [elementOperands, integerElement?_of_integer integer] at run
    exact ⟨_, _, run, Decimal.clampInt64_toInt z, Decimal.clampInt64_toInt_eq_iff⟩
  · rw [elementOperands, integerElement?_of_not_integer notInteger] at run
    exact run

/-- The element that is added for ten to the nineteenth is the greatest 64-bit integer. -/
theorem binds_nearest_beyond :
    let number : Json.Number := .real 1e19
    Binds (change "$add") .integer ∧
      (Value.ofJson (.number number)).exactValue? = some ((10 ^ 19 : ℤ) : ℚ) ∧
      ∃ written : Expr, ((change "$add").build "nums" number).run [] =
        .ok (written, [.integer 9223372036854775807]) := by
  intro number
  have integral : Decimal.isIntegral 1e19 = true := by decide +kernel
  have truncated : Decimal.truncate 1e19 = 10 ^ 19 := by decide +kernel
  have value : (Value.ofJson (.number number)).exactValue? = some ((10 ^ 19 : ℤ) : ℚ) := by
    rw [← truncated, ← Decimal.exactValue_eq_truncate integral]
    exact if_pos (Bool.and_eq_true_iff.mp integral).1
  refine ⟨.add, value, ?_⟩
  rcases (binds_nearest .add number "nums" []).1 _ value with ⟨n, written, outcome, nearest, _⟩
  have greatest : n = 9223372036854775807 := Int64.toInt_inj.mp nearest
  rw [greatest] at outcome
  exact ⟨written, outcome⟩

end NumberUse
end DocumentQuery
