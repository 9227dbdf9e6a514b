import DocumentQuery.Proofs.Decimal.Rounding
import DocumentQuery.Proofs.Filter.Conjunctions

namespace DocumentQuery

open Decimal Sql

/-!
# Comparisons of integers

Rows that have been fetched compare their integers as doubles.  So two integers are in the order of
the nearest numbers with 53 bits.  They are never taken in the wrong order, but integers beyond the
53rd power of two may be taken for equal that are not.  The store compares them as integers.

The tests of an integer column are the six relations and the two lists.  A filter that is made of
them is evaluated both ways here: the store selects the rows whose integers pass all tests, and the
matcher those whose rounded integers pass the tests with rounded operands.  Where no operand is
rounded to the same number as another integer of the row, there is no difference.
-/

/-- A relation of two integers. -/
def Relation.Between : Relation → Int → Int → Prop
  | .eq, a, b => a = b
  | .ne, a, b => a ≠ b
  | .lt, a, b => a < b
  | .le, a, b => a ≤ b
  | .gt, a, b => b < a
  | .ge, a, b => b ≤ a

theorem Relation.holds_compare_iff (relation : Relation) (a b : Int) :
    relation.holds (some (compare a b)) = true ↔ relation.Between a b := by
  rcases lt_trichotomy a b with less | rfl | greater
  · rw [compare_lt_iff_lt.mpr less]
    cases relation <;> simp [holds, Between] <;> omega
  · rw [compare_eq_iff_eq.mpr rfl]
    cases relation <;> simp [holds, Between]
  · rw [compare_gt_iff_gt.mpr greater]
    cases relation <;> simp [holds, Between] <;> omega

/-- A test of an integer column: a comparison with an integer, or a list of integers. -/
inductive IntegerTest where
  | comparison (relation : Relation) (operand : Int64)
  | oneOf (items : List Int64)
  | noneOf (items : List Int64)

/-- The value of an integer column that may be null. -/
def Value.ofInteger? : Option Int64 → Value
  | none => .null
  | some n => .integer n

namespace IntegerTest

def predicate : IntegerTest → Predicate
  | .comparison relation operand => .compare relation (.integer operand)
  | .oneOf items => .oneOf (items.map .integer)
  | .noneOf items => .noneOf (items.map .integer)

def operands : IntegerTest → List Int64
  | .comparison _ operand => [operand]
  | .oneOf items => items
  | .noneOf items => items

/-- What is looked at of an integer passes the test with what is looked at of its operands. -/
def Passes (view : Int → Int) (n : Int64) : IntegerTest → Prop
  | .comparison relation operand => relation.Between (view n.toInt) (view operand.toInt)
  | .oneOf items => ∃ item ∈ items, view n.toInt = view item.toInt
  | .noneOf items => ∀ item ∈ items, view n.toInt ≠ view item.toInt

theorem predicate_injective {test other : IntegerTest}
    (same : test.predicate = other.predicate) : test = other := by
  have integers {items others : List Int64}
      (same : items.map Scalar.integer = others.map .integer) : items = others :=
    List.map_injective_iff.mpr (fun _ _ same => Scalar.integer.inj same) same
  cases test with
  | comparison relation operand =>
      cases other with
      | comparison _ _ =>
          rcases Predicate.compare.inj same with ⟨rfl, operands⟩
          rw [Scalar.integer.inj operands]
      | oneOf _ => exact nomatch same
      | noneOf _ => exact nomatch same
  | oneOf items =>
      cases other with
      | oneOf _ => rw [integers (Predicate.oneOf.inj same)]
      | comparison _ _ => exact nomatch same
      | noneOf _ => exact nomatch same
  | noneOf items =>
      cases other with
      | noneOf _ => rw [integers (Predicate.noneOf.inj same)]
      | comparison _ _ => exact nomatch same
      | oneOf _ => exact nomatch same

/-- Views that relate an integer to each of the operands alike make no difference. -/
theorem passes_congr {view other : Int → Int} {n : Int64} {test : IntegerTest}
    (alike : ∀ operand ∈ test.operands, ∀ relation : Relation,
      relation.Between (view n.toInt) (view operand.toInt) ↔
        relation.Between (other n.toInt) (other operand.toInt)) :
    test.Passes view n ↔ test.Passes other n := by
  cases test with
  | comparison relation operand => exact alike operand List.mem_cons_self relation
  | oneOf items =>
      exact exists_congr fun item => and_congr_right fun member => alike item member .eq
  | noneOf items =>
      exact forall₂_congr fun item member => not_congr (alike item member .eq)

end IntegerTest

/-! ## Integers as doubles -/

namespace Value

/-- Integers are in the order of the nearest doubles. -/
theorem compareScalar_integer (a b : Int64) : (integer a).compareScalar (.integer b) =
    some (compare (nearestInt a.toInt) (nearestInt b.toInt)) := by
  rcases exactValue_ofInt64 a with ⟨finiteLeft, left⟩
  rcases exactValue_ofInt64 b with ⟨finiteRight, right⟩
  change compareFloats (ofInt64 a) (ofInt64 b) = _
  rw [compareFloats_eq finiteLeft finiteRight, left, right, ← cmp_eq_compare, ← cmp_eq_compare,
    StrictMono.cmp_map_eq Int.cast_strictMono]

/-- Rounding never reverses an order, so that only different integers that become equal are
confused. -/
theorem compare_nearestInt_iff (a b : Int) :
    compare (nearestInt a) (nearestInt b) = compare a b ↔
      (nearestInt a = nearestInt b → a = b) := by
  rcases lt_trichotomy a b with less | rfl | greater
  · have le := nearestInt_mono less.le
    rw [compare_lt_iff_lt.mpr less, compare_lt_iff_lt]
    exact ⟨fun lt same => absurd same lt.ne, fun kept =>
      le.lt_of_ne fun same => less.ne (kept same)⟩
  · exact iff_of_true (by rw [compare_eq_iff_eq.mpr rfl, compare_eq_iff_eq.mpr rfl]) fun _ => rfl
  · have le := nearestInt_mono greater.le
    rw [compare_gt_iff_gt.mpr greater, compare_gt_iff_gt]
    exact ⟨fun gt same => absurd same gt.ne', fun kept =>
      le.lt_of_ne fun same => greater.ne' (kept same.symm)⟩

theorem compareScalar_integer_eq_iff (a b : Int64) :
    (integer a).compareScalar (.integer b) = some (compare a.toInt b.toInt) ↔
      (nearestInt a.toInt = nearestInt b.toInt → a = b) := by
  rw [compareScalar_integer, Option.some_inj, compare_nearestInt_iff, Int64.toInt_inj]

end Value

namespace IntegerTest

/-! ## One test -/

/-- The matcher accepts an integer if the rounded integer passes the test, and never null. -/
theorem accepts_iff (test : IntegerTest) (cell : Option Int64) :
    test.predicate.accepts (.ofInteger? cell) = true ↔ ∃ n ∈ cell, test.Passes nearestInt n := by
  cases cell with
  | none =>
      refine iff_of_false ?_ (by simp)
      cases test with
      | comparison relation operand => cases relation <;> exact Bool.false_ne_true
      | oneOf items => exact Bool.false_ne_true
      | noneOf items => exact Bool.false_ne_true
  | some n =>
      have equals_iff (item : Int64) : Predicate.equals (.integer n) (.integer item) = true ↔
          nearestInt n.toInt = nearestInt item.toInt := by
        rw [Predicate.equals, Value.compareScalar_integer, beq_iff_eq, Option.some_inj,
          compare_eq_iff_eq]
      simp only [Option.mem_some_iff, exists_eq_left']
      cases test with
      | comparison relation operand =>
          have order := relation.holds_compare_iff (nearestInt n.toInt) (nearestInt operand.toInt)
          rw [← Value.compareScalar_integer] at order
          cases relation <;> exact order
      | oneOf items =>
          simp [predicate, Predicate.accepts, Value.ofInteger?, Value.isNull, Passes, equals_iff]
      | noneOf items =>
          simp [predicate, Predicate.accepts, Value.ofInteger?, Value.isNull, Passes, ← equals_iff]

/-- The store lets an integer pass the test as it is.  Null passes the empty list alone, which
excludes nothing. -/
def Stored : IntegerTest → Option Int64 → Prop
  | test, some n => test.Passes id n
  | test, none => test = .noneOf []

section

variable {engine : Engine} (documented : engine.Documented)
include documented

theorem related_integer (relation : Relation) (m n : Int) :
    related engine relation (.integer m) (.integer n) =
      some (relation.holds (some (compare m n))) := by
  rw [related, documented.compare_integer]
  rfl

/-- It is decided of every integer whether it is in a list of integers. -/
theorem amongst_integer (m : Int) (items : List Int64) :
    amongst engine (.integer m) (items.map fun item => .integer item.toInt) =
      some (items.any fun item => Relation.eq.holds (some (compare m item.toInt))) := by
  induction items with
  | nil => rfl
  | cons item rest inductionHypothesis =>
      rw [List.map_cons, amongst, inductionHypothesis, related_integer documented, List.any_cons]
      rcases Relation.eq.holds (some (compare m item.toInt)) with _ | _ <;>
        rcases rest.any fun item => Relation.eq.holds (some (compare m item.toInt)) with _ | _ <;>
        rfl

omit documented in
/-- Of null this is only decided for the empty list. -/
theorem amongst_null (items : List Datum) :
    amongst engine .null items = if items = [] then some false else none := by
  induction items with
  | nil => rfl
  | cons item rest inductionHypothesis =>
      rw [amongst, inductionHypothesis, if_neg (List.cons_ne_nil item rest)]
      split <;> rfl

variable {cells : List String → Datum} {path : List String} {cell : Option Int64}

theorem amongst_iff (items : List Int64) :
    (amongst engine (Value.ofInteger? cell).toScalar.datum
      (items.map fun item => .integer item.toInt) = some true ↔
        (IntegerTest.oneOf items).Stored cell) ∧
    ((amongst engine (Value.ofInteger? cell).toScalar.datum
      (items.map fun item => .integer item.toInt)).map not = some true ↔
        (IntegerTest.noneOf items).Stored cell) := by
  cases cell with
  | none =>
      change (amongst engine .null _ = _ ↔ _) ∧ (Option.map not (amongst engine .null _) = _ ↔ _)
      rw [amongst_null]
      cases items <;> simp [Stored]
  | some n =>
      change (amongst engine (.integer n.toInt) _ = _ ↔ _) ∧
        (Option.map not (amongst engine (.integer n.toInt) _) = _ ↔ _)
      rw [amongst_integer documented]
      simp [Stored, Passes, Relation.holds]

theorem related_iff (relation : Relation) (operand : Int64) :
    related engine relation (Value.ofInteger? cell).toScalar.datum (.integer operand.toInt) =
      some true ↔ (IntegerTest.comparison relation operand).Stored cell := by
  cases cell with
  | none => exact iff_of_false nofun nofun
  | some n =>
      change related engine relation (.integer n.toInt) (.integer operand.toInt) = _ ↔ _
      rw [related_integer documented, Option.some_inj, relation.holds_compare_iff]
      rfl

/-- The condition that is built for a test is true exactly if the store lets the cell pass. -/
theorem trueIff_predicate (holds : cells path = (Value.ofInteger? cell).toScalar.datum)
    (type? : Option ColumnType) (test : IntegerTest) :
    TrueIff engine cells (test.predicate.operands type?) test.predicate.arity
      (test.predicate.written (.column path)) (test.Stored cell) := by
  have truth := truth_ofTruth_of documented.truth_null documented.truth_integer
  have lengths := (builds_predicate (.column path) type? test.predicate).length_eq
  have data (items : List Int64) : (items.map Scalar.integer).map Scalar.datum =
      items.map fun item => .integer item.toInt := List.map_map
  cases test with
  | comparison relation operand =>
      have noTest : ¬ Predicate.IsNullTest relation (.integer operand) := nofun
      have written (bound : Nat) := Predicate.written_compare noTest (.column path) bound type?
      refine ⟨[.integer operand], (written 0).2, lengths _ (written 0).2, fun earlier later => ?_⟩
      rw [predicate, (written earlier.length).1, Expr.IsTrue, Expr.eval,
        Engine.Reads.eval_column holds, Expr.eval, Env.param_bound, ← related_iff documented]
      cases relation <;> rw [Operator.ofRelation, Operator.apply, truth] <;> rfl
  | oneOf items =>
      refine ⟨items.map .integer, rfl, lengths _ rfl, fun earlier later => ?_⟩
      rw [predicate, Predicate.written, Expr.IsTrue, Expr.eval, Engine.Reads.eval_column holds,
        Env.map_param_bound, truth, data]
      exact (amongst_iff documented items).1
  | noneOf items =>
      refine ⟨items.map .integer, rfl, lengths _ rfl, fun earlier later => ?_⟩
      rw [predicate, Predicate.written, Expr.IsTrue, Expr.eval, Engine.Reads.eval_column holds,
        Env.map_param_bound, truth, data]
      exact (amongst_iff documented items).2

end

end IntegerTest

/-! ## Filters of tests -/

/-- Tests of integer columns, column by column. -/
abbrev IntegerTests := List (String × List IntegerTest)

namespace IntegerTests

def filter (tests : IntegerTests) : Filter :=
  ⟨tests.map fun (column, each) => ⟨column, each.map IntegerTest.predicate⟩⟩

/-- Every test holds of the cell of its column. -/
def All (tests : IntegerTests) (cells : String → Option Int64)
    (holds : IntegerTest → Option Int64 → Prop) : Prop :=
  ∀ entry ∈ tests, ∀ test ∈ entry.2, holds test (cells entry.1)

/-- No operand of a test is rounded to the same number as another integer in the cell of its
column. -/
def TellsApart (tests : IntegerTests) (cells : String → Option Int64) : Prop :=
  tests.All cells fun test cell => ∀ n ∈ cell, ∀ operand ∈ test.operands,
    nearestInt n.toInt = nearestInt operand.toInt → n = operand

variable {tests : IntegerTests} {cells : String → Option Int64}

theorem All.congr {holds other : IntegerTest → Option Int64 → Prop}
    (same : tests.All cells fun test cell => holds test cell ↔ other test cell) :
    tests.All cells holds ↔ tests.All cells other :=
  forall₂_congr fun entry member => forall₂_congr fun test testMember =>
    same entry member test testMember

/-- The matcher selects the rows whose rounded integers pass all tests. -/
theorem selects_iff {row : Row}
    (read : ∀ entry ∈ tests, row.valueOf entry.1 = .ofInteger? (cells entry.1)) :
    tests.filter.selects row = true ↔
      tests.All cells fun test cell => ∃ n ∈ cell, test.Passes nearestInt n := by
  simp only [filter, Filter.selects, List.all_map, List.all_eq_true, Function.comp_apply]
  refine forall₂_congr fun entry member => forall₂_congr fun test _ => ?_
  rw [read entry member]
  exact test.accepts_iff (cells entry.1)

/-- Integers that are told apart pass the tests as they do without rounding. -/
theorem passes_of_tellsApart (apart : tests.TellsApart cells) :
    (tests.All cells fun test cell => ∃ n ∈ cell, test.Passes nearestInt n) ↔
      tests.All cells fun test cell => ∃ n ∈ cell, test.Passes id n := by
  refine All.congr fun entry member test testMember => ?_
  refine exists_congr fun n => and_congr_right fun held => IntegerTest.passes_congr ?_
  intro operand operandMember relation
  have kept := apart entry member test testMember n held operand operandMember
  rw [← relation.holds_compare_iff, ← relation.holds_compare_iff,
    (Value.compare_nearestInt_iff n.toInt operand.toInt).mpr fun same => by rw [kept same]]
  rfl

/-- Integers up to the 53rd power of two are told apart from each other. -/
theorem tellsApart_of_small
    (small : tests.All cells fun test cell => ∀ n ∈ cell, n.toInt.natAbs ≤ 2 ^ 53 ∧
      ∀ operand ∈ test.operands, operand.toInt.natAbs ≤ 2 ^ 53) : tests.TellsApart cells := by
  intro entry member test testMember n held operand operandMember same
  rcases small entry member test testMember n held with ⟨smallInteger, smallOperands⟩
  rw [nearestInt_of_le smallInteger, nearestInt_of_le (smallOperands operand operandMember)] at same
  exact Int64.toInt_inj.mp same

/-- The store selects the rows whose integers pass all tests as they are. -/
theorem isTrue_filter {engine : Engine} (documented : engine.Documented) {columns : Columns}
    (valid : ∀ entry ∈ tests, isColumnReference entry.1 = true ∧ entry.2 ≠ [])
    {data : List String → Datum}
    (stored : ∀ entry ∈ tests,
      data (columns.path entry.1) = (Value.ofInteger? (cells entry.1)).toScalar.datum)
    (earlier later : List Scalar) :
    ∃ (condition : Expr) (bound : List Scalar),
      (whereClause columns tests.filter).run earlier = .ok (condition, bound) ∧
      (condition.IsTrue engine ⟨data, bound ++ later⟩ ↔ tests.All cells IntegerTest.Stored) := by
  have truth := truth_ofTruth_of documented.truth_null documented.truth_integer
  cases tests with
  | nil =>
      -- the empty filter compares two bound truth values
      have left := Env.param_bound data earlier (.bool true :: later) (.bool true)
      have right := Env.param_bound data (earlier ++ [.bool true]) later (.bool true)
      rw [List.length_append, List.length_singleton] at right
      refine ⟨_, _, (builds_whereClause columns (filter [])).run_eq earlier, iff_of_true ?_ nofun⟩
      simp only [List.append_assoc, List.cons_append, List.nil_append] at left right
      change engine.truth (.ofTruth (related engine .eq (Env.param ⟨data, _⟩ (earlier.length + 1))
        (Env.param ⟨data, _⟩ (earlier.length + 1 + 1)))) = some true
      simp only [List.append_assoc, List.cons_append, List.nil_append, left, right, truth]
      exact IntegerTest.related_integer documented .eq 1 1
  | cons first rest =>
      let holds (c : Condition) (p : Predicate) : Prop :=
        ∀ test : IntegerTest, test.predicate = p → test.Stored (cells c.column)
      have holds_iff (c : Condition) (test : IntegerTest) :
          holds c test.predicate ↔ test.Stored (cells c.column) := by
        refine ⟨fun every => every test rfl, fun passed other same => ?_⟩
        rw [IntegerTest.predicate_injective same]
        exact passed
      have written := isTrue_whereClause truth data columns (f := filter (first :: rest))
        (List.cons_ne_nil _ _) ?_ holds ?_ earlier later
      · rcases written with ⟨condition, bound, run, isTrue⟩
        refine ⟨condition, bound, run, isTrue.trans ?_⟩
        simp only [filter, List.forall_mem_map, holds_iff]
        rfl
      · simp only [filter, List.forall_mem_map]
        intro entry member
        rcases valid entry member with ⟨reference, nonempty⟩
        exact ⟨reference, fun empty => nonempty (List.map_eq_nil_iff.mp empty)⟩
      · simp only [filter, List.forall_mem_map, holds_iff]
        intro entry member test _
        exact test.trueIff_predicate documented (stored entry member) _

end IntegerTests

/-- Fetched rows compare integers as the nearest doubles.  So a comparison is the one of the
integers unless it takes two of them for equal, a filter of tests selects the rows whose rounded
integers pass them, which are those whose integers pass them where no operand is confused, and the
store selects these always. -/
theorem integers_compare_rounded (a b : Int64) (tests : IntegerTests)
    (cells : String → Option Int64) :
    ((ofInt64 a).isFinite = true ∧ exactValue (ofInt64 a) = nearestInt a.toInt) ∧
    (Value.integer a).compareScalar (.integer b) =
      some (compare (nearestInt a.toInt) (nearestInt b.toInt)) ∧
    ((Value.integer a).compareScalar (.integer b) = some (compare a.toInt b.toInt) ↔
      (nearestInt a.toInt = nearestInt b.toInt → a = b)) ∧
    (∀ row : Row, (∀ entry ∈ tests, row.valueOf entry.1 = .ofInteger? (cells entry.1)) →
      (tests.filter.selects row = true ↔
        tests.All cells fun test cell => ∃ n ∈ cell, test.Passes nearestInt n) ∧
      (tests.TellsApart cells → (tests.filter.selects row = true ↔
        tests.All cells fun test cell => ∃ n ∈ cell, test.Passes id n))) ∧
    ∀ (engine : Engine) (columns : Columns) (data : List String → Datum), engine.Documented →
      (∀ entry ∈ tests, isColumnReference entry.1 = true ∧ entry.2 ≠ []) →
      (∀ entry ∈ tests,
        data (columns.path entry.1) = (Value.ofInteger? (cells entry.1)).toScalar.datum) →
      ∀ earlier later : List Scalar, ∃ (condition : Expr) (bound : List Scalar),
        (whereClause columns tests.filter).run earlier = .ok (condition, bound) ∧
        (condition.IsTrue engine ⟨data, bound ++ later⟩ ↔ tests.All cells IntegerTest.Stored) := by
  refine ⟨exactValue_ofInt64 a, Value.compareScalar_integer a b,
    Value.compareScalar_integer_eq_iff a b, fun row read => ?_, ?_⟩
  · have selected := IntegerTests.selects_iff read
    exact ⟨selected, fun apart => selected.trans (IntegerTests.passes_of_tellsApart apart)⟩
  · intro engine columns data documented valid stored earlier later
    exact IntegerTests.isTrue_filter documented valid stored earlier later

/-- A row with the successor of the 53rd power of two is fetched for that power, which the store
does not select it for. -/
theorem integers_compare_rounded_successor :
    let tests : IntegerTests := [("n", [.comparison .eq 9007199254740992])]
    let row : Row := ⟨[("n", .integer 9007199254740993)]⟩
    (Value.integer 9007199254740993).compareScalar (.integer 9007199254740992) = some .eq ∧
    tests.filter.selects row = true ∧
    ∃ (condition : Expr) (bound : List Scalar),
      (whereClause .asNamed tests.filter).run [] = .ok (condition, bound) ∧
      ¬ condition.IsTrue .reference ⟨fun _ => .integer 9007199254740993, bound ++ []⟩ := by
  intro tests row
  let cells : String → Option Int64 := fun _ => some 9007199254740993
  have rounded : nearestInt 9007199254740993 = nearestInt 9007199254740992 := by decide
  have single (entry : String × List IntegerTest) (member : entry ∈ tests) :
      entry = ("n", [.comparison .eq 9007199254740992]) := List.mem_singleton.mp member
  rcases integers_compare_rounded 9007199254740993 9007199254740992 tests cells with
    ⟨_, compared, _, matcher, store⟩
  have read : ∀ entry ∈ tests, row.valueOf entry.1 = .ofInteger? (cells entry.1) := by
    intro entry member
    rw [single entry member]
    rfl
  have valid : ∀ entry ∈ tests, isColumnReference entry.1 = true ∧ entry.2 ≠ [] := by
    intro entry member
    rw [single entry member]
    exact ⟨by decide, List.cons_ne_nil _ _⟩
  refine ⟨?_, ?_, ?_⟩
  · exact compared.trans (congrArg some (compare_eq_iff_eq.mpr rounded))
  · refine (matcher _ read).1.mpr fun entry member test testMember => ?_
    rw [single entry member] at testMember
    rw [List.mem_singleton.mp testMember]
    exact ⟨_, rfl, rounded⟩
  · rcases store .reference .asNamed (fun _ => .integer 9007199254740993)
      Engine.reference_documented valid (fun _ _ => rfl) [] [] with
      ⟨condition, bound, built, isTrue⟩
    refine ⟨condition, bound, built, fun true => ?_⟩
    have passed : (9007199254740993 : Int64).toInt = (9007199254740992 : Int64).toInt :=
      isTrue.mp true _ List.mem_cons_self _ List.mem_cons_self
    exact absurd passed (by decide)

end DocumentQuery
