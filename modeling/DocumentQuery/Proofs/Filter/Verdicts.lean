import DocumentQuery.Bytes.Utf8
import DocumentQuery.Proofs.Decimal.Comparison
import DocumentQuery.Proofs.Filter.Patterns
import DocumentQuery.Proofs.Sql.Operands
import DocumentQuery.Proofs.Store.Evaluation

namespace DocumentQuery

open Sql

/-!
# Verdicts on a value

A predicate that compares a value, matches it with a pattern or looks it up in a list has one of
three verdicts: it is true, false or unknown, and null is what makes it unknown.  The store
evaluates the condition that is built for the predicate, and comes to that verdict; it selects a
row if it is true.

Rows that have been fetched are judged again without the store, with two truth values.  This
agrees with the verdict for every predicate and every place of null, with few exceptions.  Null
is neither at most nor at least null, but it is accepted as such.  Null is not excluded by an
empty list, but it is refused.  A list with null in it leaves open whether a value is excluded,
but the value is accepted if no other item equals it.  An operand that is not a number is bound as
null, so nothing is known to differ from it, but every value is accepted as different.

Patterns are an exception of another kind.  A store has texts of its own for reals and bytes, and
where one of them is matched the verdict is what the store says.  The matcher reads a real as its
shortest digits and bytes as nothing, and misjudges the value wherever the store says otherwise.

What a store makes of a cell is not known here.  It is assumed that it compares the cell of the
value with operands as the value is compared with scalars, and that it matches integers and plain
texts with patterns as patterns describe them.  This is asked for one value at a time, because the
cells of two values may look alike.
-/

/-- A store ends a text at the character zero, and takes the last two characters of the first plane
for another one. -/
def Text.isPlain (c : Char) : Bool :=
  c != '\x00' && c != '\uFFFE' && c != '\uFFFF'

/-- The text of a cell that every store matches with patterns alike. -/
def Datum.plainText? : Datum → Option String
  | .integer n => some (String.ofList (Decimal.integer n))
  | .text s => if s.toList.all Text.isPlain then some s else none
  | _ => none

/-- A plain text that is a pattern.  Stores refuse patterns of more bytes. -/
def Datum.plainPattern? (pattern : Datum) : Option String :=
  pattern.plainText?.filter fun s => s.utf8ByteSize ≤ 50000

/-- The matcher reads a plain text as every store does. -/
theorem Scalar.matchedText?_of_plain {scalar : Scalar} {s : String}
    (plain : scalar.datum.plainText? = some s) : Predicate.matchedText? scalar = some s := by
  cases scalar with
  | null => exact nomatch plain
  | blob bytes => exact nomatch plain
  | integer n => exact plain
  | bool b => cases b <;> exact plain
  | real x =>
      rw [datum] at plain
      split at plain <;> exact nomatch plain
  | text t =>
      rw [datum, Datum.plainText?] at plain
      split at plain
      · exact plain
      · exact nomatch plain

/-- Null is bound for null and for a real that is not a number. -/
theorem Scalar.datum_isNull_cases {scalar : Scalar} (bound : scalar.datum.isNull = true) :
    scalar = .null ∨ ∃ x : Float, scalar = .real x ∧ x.isNaN = true := by
  cases scalar with
  | null => exact .inl rfl
  | real x =>
      rw [datum] at bound
      split at bound
      · rename_i noNumber
        exact .inr ⟨x, rfl, noNumber⟩
      · exact nomatch bound
  | _ => exact nomatch bound

/-- Two nulls are equal, but nothing else has an order with an operand that is bound as null. -/
theorem Value.compareScalar_of_null {x : Value} {operand : Scalar}
    (bound : operand.datum.isNull = true) (different : x.isNull = false ∨ operand ≠ .null) :
    x.compareScalar operand = none := by
  rcases operand.datum_isNull_cases bound with rfl | ⟨y, rfl, noNumber⟩
  · have notNull := different.resolve_right (not_not_intro rfl)
    cases x with
    | null => exact nomatch notNull
    | _ => rfl
  · cases x with
    | integer n => exact compareFloats_of_isNaN noNumber
    | real x => exact compareFloats_of_isNaN noNumber
    | bool b => exact compareFloats_of_isNaN noNumber
    | _ => rfl

/-- The store treats the cell of the value as the value is compared.  It can hold the value: only a
real that is not a number is none of its values.  Patterns are matched where neither side is null,
and as they describe plain texts; nothing is said of other texts. -/
structure Engine.Reads (engine : Engine) (x : Value) : Prop where
  held : x.toScalar.datum.isNull = x.isNull
  truth_null : engine.truth .null = none
  truth_integer : ∀ n : Int, engine.truth (.integer n) = some (n != 0)
  compare_eq : x.isNull = false → ∀ operand : Scalar, operand.datum.isNull = false →
    engine.compare x.toScalar.datum operand.datum = x.compareScalar operand
  like_null : ∀ cell pattern : Datum, cell.isNull = true ∨ pattern.isNull = true →
    engine.like cell pattern = none
  like_text : ∀ (cell pattern : Datum) (s t : String), cell.plainText? = some s →
    pattern.plainPattern? = some t →
    ∃ found : Bool, engine.like cell pattern = some found ∧
      (found = true ↔ Pattern.Describes t.toList s.toList)

namespace Predicate

/-! ## Verdicts -/

/-- A comparison of a value with an operand; with null it is unknown. -/
def compared (relation : Relation) (x : Value) (operand : Scalar) : Option Bool :=
  if x.isNull || operand.datum.isNull then none
  else some (relation.holds (x.compareScalar operand))

/-- A value is in a list if it equals an item.  Otherwise this is unknown if there is an item and
the value or an item is null. -/
def listed (x : Value) (items : List Scalar) : Option Bool :=
  if items.any fun item => compared .eq x item == some true then some true
  else if !items.isEmpty && (x.isNull || items.any fun item => item.datum.isNull) then none
  else some false

/-- A match of a value with a pattern; with null it is unknown.  What is not read alike everywhere
is left to the store. -/
def liked (engine : Engine) (x : Value) (pattern : Scalar) : Option Bool :=
  if x.isNull || pattern.datum.isNull then none
  else
    match x.toScalar.datum.plainText?, pattern.datum.plainPattern? with
    | some s, some t => some (Pattern.isLike s t)
    | _, _ => engine.like x.toScalar.datum pattern.datum

/-- The verdict of a predicate on a value.  On the elements of sets there is none here. -/
def verdict (engine : Engine) (x : Value) : Predicate → Option Bool
  | .compare .eq .null => some x.isNull
  | .compare .ne .null => some !x.isNull
  | .compare relation operand => compared relation x operand
  | .like pattern => liked engine x pattern
  | .notLike pattern => (liked engine x pattern).map not
  | .oneOf items => listed x items
  | .noneOf items => (listed x items).map not
  | .contains _ => none
  | .lacks _ => none

/-- A predicate on the elements of a set. -/
def isMembership : Predicate → Bool
  | .contains _ => true
  | .lacks _ => true
  | _ => false

/-- The test for null, which is no comparison. -/
def IsNullTest (relation : Relation) (operand : Scalar) : Prop :=
  operand = .null ∧ (relation = .eq ∨ relation = .ne)

theorem verdict_compare {relation : Relation} {operand : Scalar}
    (noTest : ¬ IsNullTest relation operand) (engine : Engine) (x : Value) :
    verdict engine x (.compare relation operand) = compared relation x operand := by
  cases relation <;> cases operand
  all_goals first
    | rfl
    | exact absurd ⟨rfl, Or.inl rfl⟩ noTest
    | exact absurd ⟨rfl, Or.inr rfl⟩ noTest

theorem written_compare {relation : Relation} {operand : Scalar}
    (noTest : ¬ IsNullTest relation operand) (column : Expr) (bound : Nat)
    (type? : Option ColumnType) :
    written column (.compare relation operand) bound =
        .binary (.ofRelation relation) column (.param (bound + 1)) ∧
      operands type? (.compare relation operand) = .ok [operand] := by
  cases relation <;> cases operand
  all_goals first
    | exact ⟨rfl, rfl⟩
    | exact absurd ⟨rfl, Or.inl rfl⟩ noTest
    | exact absurd ⟨rfl, Or.inr rfl⟩ noTest

/-- Such a predicate is never refused. -/
theorem operands_of_plain {p : Predicate} (plain : p.isMembership = false)
    (type? : Option ColumnType) : ∃ values : List Scalar, p.operands type? = .ok values := by
  cases p with
  | compare relation operand =>
      by_cases test : IsNullTest relation operand
      · rcases test with ⟨rfl, rfl | rfl⟩ <;> exact ⟨[], rfl⟩
      · exact ⟨[operand], (written_compare test .null 0 type?).2⟩
  | contains element => exact nomatch plain
  | lacks element => exact nomatch plain
  | _ => exact ⟨_, rfl⟩

theorem compared_of_isNull {x : Value} (relation : Relation) (null : x.isNull = true)
    (operand : Scalar) : compared relation x operand = none :=
  if_pos (Bool.or_eq_true_iff.mpr (.inl null))

theorem compared_of_bound {operand : Scalar} (relation : Relation) (x : Value)
    (bound : operand.datum.isNull = true) : compared relation x operand = none :=
  if_pos (Bool.or_eq_true_iff.mpr (.inr bound))

theorem compared_of_not_null {x : Value} {operand : Scalar} (relation : Relation)
    (notNull : x.isNull = false) (operandNotNull : operand.datum.isNull = false) :
    compared relation x operand = some (relation.holds (x.compareScalar operand)) := by
  rw [compared, notNull, operandNotNull]
  rfl

/-- A value other than null equals an operand in the store if it does so for the matcher. -/
theorem compared_eq_true_iff {x : Value} (notNull : x.isNull = false) (operand : Scalar) :
    compared .eq x operand = some true ↔ equals x operand = true := by
  cases bound : operand.datum.isNull with
  | true =>
      rw [compared_of_bound .eq x bound, equals, Value.compareScalar_of_null bound (.inl notNull)]
      exact iff_of_false nofun Bool.false_ne_true
  | false =>
      rw [compared_of_not_null .eq notNull bound, Option.some_inj, Relation.holds, equals]

/-- That a value differs from an operand is only known of an operand that is not bound as null. -/
theorem compared_eq_false_iff {x : Value} (notNull : x.isNull = false) (operand : Scalar) :
    compared .eq x operand = some false ↔
      operand.datum.isNull = false ∧ equals x operand = false := by
  cases bound : operand.datum.isNull with
  | true =>
      rw [compared_of_bound .eq x bound]
      exact iff_of_false nofun fun both => nomatch both.1
  | false =>
      rw [compared_of_not_null .eq notNull bound, Option.some_inj, Relation.holds, equals]
      exact (and_iff_right rfl).symm

theorem listed_eq_true_iff (x : Value) (items : List Scalar) :
    listed x items = some true ↔ ∃ item ∈ items, compared .eq x item = some true := by
  rw [listed]
  split
  · next found => simpa using found
  · next missing =>
    rw [List.any_eq_true] at missing
    refine iff_of_false (by split <;> simp) ?_
    simpa using missing

/-- A comparison for equality is decided unless null takes part in it. -/
theorem compared_eq_none_iff (x : Value) (operand : Scalar) :
    compared .eq x operand = none ↔ x.isNull = true ∨ operand.datum.isNull = true := by
  rw [compared, ← Bool.or_eq_true_iff]
  split
  · rename_i null
    exact iff_of_true rfl null
  · rename_i known
    exact iff_of_false nofun known

/-- Null leaves open whether a value is in a list if it leaves open whether it equals an item. -/
theorem exists_compared_none_iff (x : Value) (items : List Scalar) :
    (∃ item ∈ items, compared .eq x item = none) ↔
      (!items.isEmpty && (x.isNull || items.any fun item => item.datum.isNull)) = true := by
  simp only [compared_eq_none_iff, Bool.and_eq_true, Bool.or_eq_true, List.any_eq_true,
    Bool.not_eq_true', List.isEmpty_eq_false_iff]
  constructor
  · rintro ⟨item, member, null | null⟩
    · exact ⟨List.ne_nil_of_mem member, Or.inl null⟩
    · exact ⟨List.ne_nil_of_mem member, Or.inr ⟨item, member, null⟩⟩
  · rintro ⟨nonempty, null | ⟨item, member, null⟩⟩
    · rcases List.exists_mem_of_ne_nil items nonempty with ⟨item, member⟩
      exact ⟨item, member, Or.inl null⟩
    · exact ⟨item, member, Or.inr null⟩

/-- A value is known not to be in a list if it is known to differ from every item. -/
theorem listed_eq_false_iff (x : Value) (items : List Scalar) :
    listed x items = some false ↔ ∀ item ∈ items, compared .eq x item = some false := by
  have open_iff := exists_compared_none_iff x items
  have true_iff := listed_eq_true_iff x items
  constructor
  · intro missing item member
    cases decided : compared .eq x item with
    | none =>
        have unknown : listed x items ≠ some false := by
          rw [listed]
          split
          · exact nofun
          · rw [if_pos (open_iff.mp ⟨item, member, decided⟩)]
            exact nofun
        exact absurd missing unknown
    | some equal =>
        cases equal with
        | false => rfl
        | true =>
            rw [true_iff.mpr ⟨item, member, decided⟩] at missing
            exact nomatch missing
  · intro every
    have notTrue : ¬ (items.any fun item => compared .eq x item == some true) = true := by
      rw [List.any_eq_true]
      rintro ⟨item, member, equal⟩
      rw [every item member] at equal
      exact nomatch equal
    have notOpen := mt open_iff.mpr (by
      rintro ⟨item, member, unknown⟩
      rw [every item member] at unknown
      exact nomatch unknown)
    rw [listed, if_neg notTrue, if_neg notOpen]

/-! ## The matcher -/

/-- Both the value and the pattern are read alike by every store. -/
def PlainlyMatched (x : Value) (pattern : Scalar) : Prop :=
  x.toScalar.datum.plainText?.isSome ∧ pattern.datum.plainPattern?.isSome

/-- The matcher comes to another verdict. -/
inductive Misjudged (engine : Engine) (x : Value) : Predicate → Prop where
  | nullCompared {relation : Relation} (null : x.isNull = true)
      (weak : relation = .le ∨ relation = .ge) : Misjudged engine x (.compare relation .null)
  | noNumber {operand : Scalar} (notNull : x.isNull = false) (operandNotNull : operand ≠ .null)
      (bound : operand.datum.isNull = true) : Misjudged engine x (.compare .ne operand)
  | nothingListed (null : x.isNull = true) : Misjudged engine x (.noneOf [])
  | nullListed {items : List Scalar} {item : Scalar} (notNull : x.isNull = false)
      (listed : item ∈ items) (null : item.datum.isNull = true)
      (missing : ∀ item ∈ items, equals x item = false) : Misjudged engine x (.noneOf items)
  | liked {pattern : Scalar} (notPlain : ¬ PlainlyMatched x pattern)
      (differ : ¬ (likeValue? x pattern = some true ↔ liked engine x pattern = some true)) :
      Misjudged engine x (.like pattern)
  | notLiked {pattern : Scalar} (notPlain : ¬ PlainlyMatched x pattern)
      (differ : ¬ (likeValue? x pattern = some false ↔ liked engine x pattern = some false)) :
      Misjudged engine x (.notLike pattern)

/-- Integers and plain texts are matched as the store does it. -/
theorem liked_of_plain {x : Value} {pattern : Scalar} (engine : Engine)
    (plain : PlainlyMatched x pattern) : liked engine x pattern = likeValue? x pattern := by
  rcases Option.isSome_iff_exists.mp plain.1 with ⟨s, text⟩
  rcases Option.isSome_iff_exists.mp plain.2 with ⟨t, patternText⟩
  have whole := (Option.filter_eq_some_iff.mp patternText).1
  have known : ¬ (x.isNull || pattern.datum.isNull) = true := by
    rw [Bool.or_eq_true_iff]
    rintro (null | null)
    · rw [x.isNull_iff.mp null] at text
      exact nomatch text
    · cases cell : pattern.datum <;> rw [cell] at null whole
      · exact nomatch whole
      all_goals exact nomatch null
  rw [liked, if_neg known, text, patternText, likeValue?, Scalar.matchedText?_of_plain text,
    Scalar.matchedText?_of_plain whole]

theorem accepts_oneOf_iff (x : Value) (items : List Scalar) :
    (Predicate.oneOf items).accepts x = true ↔ listed x items = some true := by
  rw [listed_eq_true_iff]
  cases null : x.isNull with
  | true =>
      refine iff_of_false (by simp [accepts, null]) ?_
      rintro ⟨item, _, known⟩
      rw [compared_of_isNull .eq null] at known
      exact nomatch known
  | false =>
      simp only [compared_eq_true_iff null]
      simp [accepts, null]

theorem accepts_noneOf_iff (engine : Engine) (x : Value) (items : List Scalar) :
    ((Predicate.noneOf items).accepts x = true ↔ listed x items = some false) ↔
      ¬ Misjudged engine x (.noneOf items) := by
  rw [listed_eq_false_iff]
  cases null : x.isNull with
  | true =>
      have refused : ¬ (Predicate.noneOf items).accepts x = true := by simp [accepts, null]
      cases items with
      | nil =>
          refine iff_of_false (fun same => refused (same.mpr nofun)) ?_
          exact fun right => right (.nothingListed null)
      | cons item rest =>
          refine iff_of_true (iff_of_false refused fun every => ?_) ?_
          · have first := every item List.mem_cons_self
            rw [compared_of_isNull .eq null] at first
            exact nomatch first
          · rintro (_ | _ | _ | ⟨notNull, _, _, _⟩)
            rw [null] at notNull
            exact nomatch notNull
  | false =>
      have accepted : (Predicate.noneOf items).accepts x = true ↔
          ∀ item ∈ items, equals x item = false := by simp [accepts, null]
      simp only [accepted, compared_eq_false_iff null]
      constructor
      · rintro same (_ | _ | isNull | ⟨_, listed, bound, missing⟩)
        · rw [null] at isNull
          exact nomatch isNull
        · rw [(same.mp missing _ listed).1] at bound
          exact nomatch bound
      · intro right
        constructor
        · intro missing item member
          refine ⟨Bool.eq_false_iff.mpr fun bound => right ?_, missing item member⟩
          exact .nullListed null member bound missing
        · exact fun every item member => (every item member).2

/-- A comparison with null itself is misjudged for null only. -/
theorem satisfies_null_iff {relation : Relation} (noTest : ¬ IsNullTest relation .null)
    (engine : Engine) (x : Value) :
    (satisfies relation x .null = true ↔ compared relation x .null = some true) ↔
      ¬ Misjudged engine x (.compare relation .null) := by
  have known : ¬ compared relation x .null = some true := by
    rw [compared_of_bound relation x rfl]
    exact nofun
  have satisfied : satisfies relation x .null = true ↔
      x.isNull = true ∧ (relation = .le ∨ relation = .ge) := by
    cases null : x.isNull with
    | true =>
        rw [x.isNull_iff.mp null]
        cases relation
        all_goals first
          | exact absurd ⟨rfl, Or.inl rfl⟩ noTest
          | exact absurd ⟨rfl, Or.inr rfl⟩ noTest
          | decide
    | false =>
        have unordered : x.compareScalar .null = none := Value.compareScalar_of_null rfl (.inl null)
        cases relation
        all_goals first
          | exact absurd ⟨rfl, Or.inl rfl⟩ noTest
          | exact absurd ⟨rfl, Or.inr rfl⟩ noTest
          | simp [satisfies, unordered, Relation.holds]
  rw [iff_false_right known, satisfied]
  refine not_congr ⟨fun both => .nullCompared both.1 both.2, ?_⟩
  rintro (⟨null, weak⟩ | ⟨_, operandNotNull, _⟩)
  · exact ⟨null, weak⟩
  · exact absurd rfl operandNotNull

/-- With an operand other than null only the order decides, unless the value is null. -/
theorem satisfies_eq {operand : Scalar} (operandNotNull : operand ≠ .null) (relation : Relation)
    (x : Value) : satisfies relation x operand =
      (!x.isNull && relation.holds (x.compareScalar operand)) := by
  cases null : x.isNull with
  | true =>
      rw [x.isNull_iff.mp null]
      cases operand with
      | null => exact absurd rfl operandNotNull
      | _ => cases relation <;> rfl
  | false =>
      cases operand with
      | null => exact absurd rfl operandNotNull
      | _ => cases relation <;> simp [satisfies, null]

/-- What is not null but bound as null has no order, so it is only ever accepted as different. -/
theorem satisfies_of_bound {operand : Scalar} (operandNotNull : operand ≠ .null)
    (bound : operand.datum.isNull = true) (relation : Relation) (x : Value) :
    satisfies relation x operand = true ↔ relation = .ne ∧ x.isNull = false := by
  rw [satisfies_eq operandNotNull, Value.compareScalar_of_null bound (.inr operandNotNull)]
  cases relation <;> simp [Relation.holds]

/-- A comparison is misjudged for null at most, or for what is bound as null. -/
theorem satisfies_iff {relation : Relation} {operand : Scalar}
    (noTest : ¬ IsNullTest relation operand) (engine : Engine) (x : Value) :
    (satisfies relation x operand = true ↔ compared relation x operand = some true) ↔
      ¬ Misjudged engine x (.compare relation operand) := by
  by_cases operandNull : operand = .null
  · subst operandNull
    exact satisfies_null_iff noTest engine x
  · cases bound : operand.datum.isNull with
    | true =>
        have known : ¬ compared relation x operand = some true := by
          rw [compared_of_bound relation x bound]
          exact nofun
        rw [iff_false_right known, satisfies_of_bound operandNull bound]
        refine not_congr ⟨?_, ?_⟩
        · rintro ⟨rfl, notNull⟩
          exact .noNumber notNull operandNull bound
        · rintro (⟨_, _⟩ | ⟨notNull, _, _⟩)
          · exact absurd rfl operandNull
          · exact ⟨rfl, notNull⟩
    | false =>
        refine iff_of_true ?_ ?_
        · rw [satisfies_eq operandNull]
          cases null : x.isNull with
          | true =>
              rw [compared_of_isNull relation null]
              exact iff_of_false Bool.false_ne_true nofun
          | false =>
              rw [compared_of_not_null relation null bound, Option.some_inj]
              rfl
        · rintro (⟨_, _⟩ | ⟨_, _, isBound⟩)
          · exact operandNull rfl
          · rw [bound] at isBound
            exact nomatch isBound

theorem accepts_like_iff (engine : Engine) (x : Value) (pattern : Scalar) :
    ((Predicate.like pattern).accepts x = true ↔ liked engine x pattern = some true) ↔
      ¬ Misjudged engine x (.like pattern) := by
  rw [accepts, beq_iff_eq]
  constructor
  · rintro same (_ | _ | _ | _ | ⟨_, differ⟩)
    exact differ same
  · intro right
    by_cases plain : PlainlyMatched x pattern
    · rw [liked_of_plain engine plain]
    · exact of_not_not fun differ => right (.liked plain differ)

theorem accepts_notLike_iff (engine : Engine) (x : Value) (pattern : Scalar) :
    ((Predicate.notLike pattern).accepts x = true ↔ liked engine x pattern = some false) ↔
      ¬ Misjudged engine x (.notLike pattern) := by
  rw [accepts, beq_iff_eq]
  constructor
  · rintro same (_ | _ | _ | _ | _ | ⟨_, differ⟩)
    exact differ same
  · intro right
    by_cases plain : PlainlyMatched x pattern
    · rw [liked_of_plain engine plain]
    · exact of_not_not fun differ => right (.notLiked plain differ)

/-- The negation of what is known to be false, and of nothing else, is true. -/
theorem map_not_eq_true_iff (truth : Option Bool) :
    truth.map not = some true ↔ truth = some false := by
  rcases truth with _ | _ | _ <;> decide

/-- The matcher accepts a value exactly if the verdict is that the predicate is true, unless it
misjudges the value. -/
theorem accepts_iff_verdict {p : Predicate} (plain : p.isMembership = false) (engine : Engine)
    (x : Value) :
    (p.accepts x = true ↔ p.verdict engine x = some true) ↔ ¬ p.Misjudged engine x := by
  cases p with
  | compare relation operand =>
      by_cases test : IsNullTest relation operand
      · rcases test with ⟨rfl, rfl | rfl⟩
        · refine iff_of_true ?_ ?_
          · rw [verdict, Option.some_inj]
            rfl
          · rintro ⟨_, weak | weak⟩ <;> exact nomatch weak
        · refine iff_of_true ?_ ?_
          · rw [verdict, Option.some_inj]
            rfl
          · rintro (⟨_, weak | weak⟩ | ⟨_, operandNotNull, _⟩)
            · exact nomatch weak
            · exact nomatch weak
            · exact operandNotNull rfl
      · rw [verdict_compare test]
        exact satisfies_iff test engine x
  | like pattern => exact accepts_like_iff engine x pattern
  | notLike pattern =>
      rw [verdict, map_not_eq_true_iff]
      exact accepts_notLike_iff engine x pattern
  | oneOf items => exact iff_of_true (accepts_oneOf_iff x items) nofun
  | noneOf items =>
      rw [verdict, map_not_eq_true_iff]
      exact accepts_noneOf_iff engine x items
  | contains element => exact nomatch plain
  | lacks element => exact nomatch plain

end Predicate

/-! ## The store -/

namespace Engine.Reads

variable {engine : Engine} {x : Value} (reads : engine.Reads x)
include reads

theorem truth_ofTruth (truth : Option Bool) : engine.truth (.ofTruth truth) = truth :=
  truth_ofTruth_of reads.truth_null reads.truth_integer truth

theorem related_eq (relation : Relation) (operand : Scalar) :
    related engine relation x.toScalar.datum operand.datum =
      Predicate.compared relation x operand := by
  rw [related, Predicate.compared, reads.held]
  split
  · rfl
  · rename_i known
    rw [Bool.or_eq_true_iff, not_or, Bool.not_eq_true, Bool.not_eq_true] at known
    rw [reads.compare_eq known.1 operand known.2]

theorem amongst_eq_true_iff (items : List Scalar) :
    amongst engine x.toScalar.datum (items.map Scalar.datum) = some true ↔
      ∃ item ∈ items, Predicate.compared .eq x item = some true := by
  induction items with
  | nil => simp [amongst]
  | cons item rest inductionHypothesis =>
      rw [List.map_cons, amongst, reads.related_eq, eitherTruth_eq_true_iff,
        inductionHypothesis, List.exists_mem_cons_iff]

theorem amongst_eq_false_iff (items : List Scalar) :
    amongst engine x.toScalar.datum (items.map Scalar.datum) = some false ↔
      ∀ item ∈ items, Predicate.compared .eq x item = some false := by
  induction items with
  | nil => simp [amongst]
  | cons item rest inductionHypothesis =>
      rw [List.map_cons, amongst, reads.related_eq, eitherTruth_eq_false_iff,
        inductionHypothesis, List.forall_mem_cons]

/-- What the store finds item by item is what is said of the list as a whole. -/
theorem amongst_eq (items : List Scalar) :
    amongst engine x.toScalar.datum (items.map Scalar.datum) = Predicate.listed x items := by
  have true_iff := (reads.amongst_eq_true_iff items).trans
    (Predicate.listed_eq_true_iff x items).symm
  have false_iff := (reads.amongst_eq_false_iff items).trans
    (Predicate.listed_eq_false_iff x items).symm
  revert true_iff false_iff
  rcases amongst engine x.toScalar.datum (items.map Scalar.datum) with _ | _ | _ <;>
    rcases Predicate.listed x items with _ | _ | _ <;> simp

theorem like_eq (pattern : Scalar) :
    engine.like x.toScalar.datum pattern.datum = Predicate.liked engine x pattern := by
  rw [Predicate.liked]
  split
  · rename_i null
    rw [Bool.or_eq_true_iff, ← reads.held] at null
    exact reads.like_null _ _ null
  · split
    · rename_i s t text patternText
      rcases reads.like_text _ _ s t text patternText with ⟨found, like, described⟩
      rw [like, Option.some_inj, Bool.eq_iff_iff, described, Pattern.isLike,
        Pattern.matchesChars_iff]
    · rfl

variable {cells : List String → Datum} {path : List String}
  (holds : cells path = x.toScalar.datum) (earlier later : List Scalar)
include holds

omit reads in
theorem eval_column (params : List Scalar) :
    (Expr.column path).eval engine ⟨cells, params⟩ = x.toScalar.datum := by
  rw [Expr.eval]
  exact holds

theorem truth_comparison (relation : Relation) (operand : Scalar) :
    engine.truth ((Expr.binary (.ofRelation relation) (.column path)
      (.param (earlier.length + 1))).eval engine ⟨cells, earlier ++ [operand] ++ later⟩) =
      Predicate.compared relation x operand := by
  rw [Expr.eval, eval_column holds, Expr.eval, Env.param_bound]
  cases relation <;>
    rw [Operator.ofRelation, Operator.apply, reads.truth_ofTruth, reads.related_eq]

/-- The store comes to the verdict of the predicate. -/
theorem truth_written {p : Predicate} (plain : p.isMembership = false)
    {type? : Option ColumnType} {values : List Scalar} (operands : p.operands type? = .ok values) :
    engine.truth ((p.written (.column path) earlier.length).eval engine
      ⟨cells, earlier ++ values ++ later⟩) = p.verdict engine x := by
  cases p with
  | compare relation operand =>
      by_cases test : Predicate.IsNullTest relation operand
      · rcases test with ⟨rfl, rfl | rfl⟩ <;>
          rw [Predicate.written, Expr.eval, eval_column holds, reads.truth_ofTruth,
            reads.held, Predicate.verdict]
      · rcases Predicate.written_compare test (.column path) earlier.length type? with
          ⟨written, bound⟩
        rw [bound] at operands
        cases operands
        rw [written, reads.truth_comparison holds, Predicate.verdict_compare test]
  | like pattern =>
      cases operands
      rw [Predicate.written, Expr.eval, eval_column holds, Expr.eval, Env.param_bound,
        Operator.apply, reads.truth_ofTruth, reads.like_eq, Predicate.verdict]
  | notLike pattern =>
      cases operands
      rw [Predicate.written, Expr.eval, eval_column holds, Expr.eval, Env.param_bound,
        Operator.apply, reads.truth_ofTruth, reads.like_eq, Predicate.verdict]
  | oneOf items =>
      cases operands
      rw [Predicate.written, Expr.eval, eval_column holds, Env.map_param_bound,
        reads.truth_ofTruth, reads.amongst_eq, Predicate.verdict]
  | noneOf items =>
      cases operands
      rw [Predicate.written, Expr.eval, eval_column holds, Env.map_param_bound,
        reads.truth_ofTruth, reads.amongst_eq, Predicate.verdict]
  | contains element => exact nomatch plain
  | lacks element => exact nomatch plain

end Engine.Reads

/-- The scalar that a cell stands for. -/
def Datum.scalar : Datum → Scalar
  | .null => .null
  | .integer n => .integer (Int64.ofInt n)
  | .real x => .real x
  | .text s => .text s
  | .blob bytes => .blob bytes

/-- The text of a cell for matching, with a point in every real and bytes read as characters. -/
def Datum.likeText? : Datum → Option String
  | .null => none
  | .integer n => some (String.ofList (Decimal.integer n))
  | .real x =>
    let digits := realText x
    some (if digits.toList.contains '.' then digits else digits ++ ".0")
  | .text s => some s
  | .blob bytes => some (Bytes.decode bytes)

theorem Datum.likeText?_of_plain {cell : Datum} {s : String} (plain : cell.plainText? = some s) :
    cell.likeText? = some s := by
  cases cell with
  | integer n => exact plain
  | text t =>
      rw [plainText?] at plain
      split at plain
      · exact plain
      · exact nomatch plain
  | _ => exact nomatch plain

namespace Engine

/-- An engine that compares every cell as one value is compared. -/
def reading (x : Value) : Engine :=
  { reference with
    compare := fun _ operand => x.compareScalar operand.scalar
    like := fun cell pattern =>
      match cell.likeText?, pattern.likeText? with
      | some s, some t => some (Pattern.isLike s t)
      | _, _ => none }

/-- For a value that compares alike with a truth value and with its integer, this is a store that
treats its cell as it should. -/
theorem reading_reads {x : Value} (held : x.toScalar.datum.isNull = x.isNull)
    (alike : ∀ b : Bool, x.compareScalar (.bool b) = x.compareScalar (.integer (Scalar.ofBool b))) :
    (reading x).Reads x where
  held := held
  truth_null := rfl
  truth_integer _ := rfl
  compare_eq _ operand notNull := by
    cases operand with
    | bool b =>
        have stored : Scalar.datum (.bool b) = .integer (Scalar.ofBool b).toInt := by
          cases b <;> rfl
        rw [stored, alike b]
        exact congrArg (fun n => x.compareScalar (.integer n)) (Int64.ofInt_toInt _)
    | integer n => exact congrArg (fun n => x.compareScalar (.integer n)) (Int64.ofInt_toInt n)
    | real y =>
        rw [Scalar.datum] at notNull ⊢
        split at notNull
        · exact nomatch notNull
        · rename_i number
          rw [if_neg number]
          rfl
    | _ => rfl
  like_null cell pattern null := by
    rcases null with null | null
    · cases cell with
      | null => rfl
      | _ => exact nomatch null
    · cases pattern with
      | null => cases cell <;> rfl
      | _ => exact nomatch null
  like_text cell pattern s t cellText patternText := by
    refine ⟨Pattern.isLike s t, ?_, Pattern.matchesChars_iff s.toList t.toList⟩
    have whole := (Option.filter_eq_some_iff.mp patternText).1
    simp only [reading, Datum.likeText?_of_plain cellText, Datum.likeText?_of_plain whole]

end Engine

end DocumentQuery
