import DocumentQuery.Proofs.Sets.Brackets
import DocumentQuery.Proofs.Store.Evaluation
import DocumentQuery.Sql.Membership

namespace DocumentQuery
namespace Sql

open Brackets

/-!
# What membership and editing do to a text

The expressions that look for an element, insert it and remove it are evaluated here on any
text and any word, with no regard to whether the text is that of a set.  Their outcome is
stated on characters: which marks occur, and which mark is replaced.  Whether that outcome
is the right one is a matter of the words alone, and is settled elsewhere.
-/

/-! ## Outcomes on characters -/

/-- The word has one of its marks in a text. -/
def Found (word s : List Char) : Prop :=
  mark '[' word ']' <:+: s ∨ mark '[' word ',' <:+: s ∨ mark ',' word ',' <:+: s ∨
    mark ',' word ']' <:+: s

/-- The word has in a text one of the marks that it has next to another element. -/
def FoundBeside (word s : List Char) : Prop :=
  mark '[' word ',' <:+: s ∨ mark ',' word ',' <:+: s ∨ mark ',' word ']' <:+: s

/-- The text is that of the empty list, or of the word alone. -/
def Alone (word s : List Char) : Prop :=
  s = ['[', ']'] ∨ s = mark '[' word ']'

/-- What insertion makes of a text. -/
inductive Inserted (word s : List Char) : List Char → Prop where
  | alone (alone : Alone word s) : Inserted word s (mark '[' word ']')
  | found (notAlone : ¬ Alone word s) (beside : FoundBeside word s) : Inserted word s s
  | missing (notAlone : ¬ Alone word s) (notBeside : ¬ FoundBeside word s) :
      Inserted word s (s.dropLast ++ ',' :: word ++ [']'])

/-- What removal makes of a text.  The first mark that occurs is replaced, wherever it does. -/
inductive Removed (word s : List Char) : List Char → Prop where
  | alone (alone : Alone word s) : Removed word s ['[', ']']
  | first {t : List Char} (notAlone : ¬ Alone word s) (isFirst : mark '[' word ',' <:+: s)
      (replaced : Replaced (mark '[' word ',') ['['] s t) : Removed word s t
  | middle {t : List Char} (notAlone : ¬ Alone word s) (notFirst : ¬ mark '[' word ',' <:+: s)
      (isMiddle : mark ',' word ',' <:+: s) (replaced : Replaced (mark ',' word ',') [','] s t) :
      Removed word s t
  | last {t : List Char} (notAlone : ¬ Alone word s) (notFirst : ¬ mark '[' word ',' <:+: s)
      (notMiddle : ¬ mark ',' word ',' <:+: s) (isLast : mark ',' word ']' <:+: s)
      (replaced : Replaced (mark ',' word ']') [']'] s t) : Removed word s t
  | missing (notAlone : ¬ Alone word s) (notBeside : ¬ FoundBeside word s) : Removed word s s

theorem exists_removed (word s : List Char) : ∃ t : List Char, Removed word s t := by
  by_cases alone : Alone word s
  · exact ⟨_, Removed.alone alone⟩
  by_cases first : mark '[' word ',' <:+: s
  · rcases exists_replaced (mark_ne_nil '[' word ',') ['['] s with ⟨t, replaced⟩
    exact ⟨t, Removed.first alone first replaced⟩
  by_cases middle : mark ',' word ',' <:+: s
  · rcases exists_replaced (mark_ne_nil ',' word ',') [','] s with ⟨t, replaced⟩
    exact ⟨t, Removed.middle alone first middle replaced⟩
  by_cases last : mark ',' word ']' <:+: s
  · rcases exists_replaced (mark_ne_nil ',' word ']') [']'] s with ⟨t, replaced⟩
    exact ⟨t, Removed.last alone first middle last replaced⟩
  · refine ⟨s, Removed.missing alone ?_⟩
    rintro (found | found | found)
    · exact first found
    · exact middle found
    · exact last found

/-! ## Evaluation -/

section

variable {engine : Engine} {env : Env}

theorem truth_ofTruth (documented : engine.Documented) (truth : Option Bool) :
    engine.truth (.ofTruth truth) = truth :=
  truth_ofTruth_of documented.truth_null documented.truth_integer truth

theorem related_eq_text (documented : engine.Documented) (s t : String) :
    related engine .eq (.text s) (.text t) = some (decide (s = t)) := by
  have equal := documented.compare_text s t
  by_cases same : s = t
  · subst same
    simp [related, Datum.isNull, Relation.holds, equal.mpr rfl]
  · have other : engine.compare (.text s) (.text t) ≠ some .eq := mt equal.mp same
    simp [related, Datum.isNull, Relation.holds, other, same]

theorem eval_between (documented : engine.Documented) {element : Expr} {word : List Char}
    (reads : element.eval engine env = .text (String.ofList word)) (left right : Char) :
    (between (String.singleton left) element (String.singleton right)).eval engine env =
      .text (String.ofList (mark left word right)) := by
  simp only [between, Expr.eval, Operator.apply, reads, documented.concat_text]
  congr 1
  apply String.toList_inj.mp
  simp [mark]

/-- A part occurs in a column exactly if it is part of its text. -/
theorem eval_occurs (documented : engine.Documented) {column part : Expr} {s t : List Char}
    (column_eval : column.eval engine env = .text (String.ofList s))
    (part_eval : part.eval engine env = .text (String.ofList t)) :
    (occurs column part).eval engine env = .ofTruth (some (decide (t <:+: s))) := by
  rcases documented.instr_text (String.ofList s) (String.ofList t) with ⟨position, found, positive⟩
  rw [String.toList_ofList, String.toList_ofList] at positive
  simp only [occurs, Expr.eval, Operator.apply, column_eval, part_eval, found, related,
    Datum.isNull, Bool.or_self, Bool.false_eq_true, if_false, documented.compare_integer]
  congr 2
  by_cases occurring : t <:+: s
  · have greater : compare position 0 = .gt := Int.compare_eq_gt.mpr (positive.mpr occurring)
    simp [greater, occurring, Relation.holds]
  · have notGreater : compare position 0 ≠ .gt := fun greater =>
      occurring (positive.mp (Int.compare_eq_gt.mp greater))
    simp [notGreater, occurring, Relation.holds]

theorem eval_or (documented : engine.Documented) {left right : Expr} {a b : Bool}
    (left_eval : left.eval engine env = .ofTruth (some a))
    (right_eval : right.eval engine env = .ofTruth (some b)) :
    (Expr.binary .or left right).eval engine env = .ofTruth (some (a || b)) := by
  simp only [Expr.eval, Operator.apply, left_eval, right_eval, truth_ofTruth documented]
  cases a <;> cases b <;> rfl

theorem eval_eq_text (documented : engine.Documented) {left right : Expr} {s t : List Char}
    (left_eval : left.eval engine env = .text (String.ofList s))
    (right_eval : right.eval engine env = .text (String.ofList t)) :
    (Expr.binary .eq left right).eval engine env = .ofTruth (some (decide (s = t))) := by
  simp only [Expr.eval, Operator.apply, left_eval, right_eval, related_eq_text documented,
    String.ofList_inj]

/-- A case whose condition is known is taken if it is true. -/
theorem eval_when (documented : engine.Documented) {condition value : Expr} {rest : Cases}
    {truth : Bool} (condition_eval : condition.eval engine env = .ofTruth (some truth)) :
    (Cases.when condition value rest).eval engine env =
      if truth then value.eval engine env else rest.eval engine env := by
  simp only [Cases.eval, condition_eval, truth_ofTruth documented, Option.some.injEq]

variable {element column : Expr} {word s : List Char}

/-- Each of the four marks is in the column exactly if it is part of its text. -/
theorem eval_marks (documented : engine.Documented)
    (reads : element.eval engine env = .text (String.ofList word))
    (column_eval : column.eval engine env = .text (String.ofList s)) :
    (occurs column (Positions.of element).only).eval engine env =
        .ofTruth (some (decide (mark '[' word ']' <:+: s))) ∧
      (occurs column (Positions.of element).first).eval engine env =
        .ofTruth (some (decide (mark '[' word ',' <:+: s))) ∧
      (occurs column (Positions.of element).middle).eval engine env =
        .ofTruth (some (decide (mark ',' word ',' <:+: s))) ∧
      (occurs column (Positions.of element).last).eval engine env =
        .ofTruth (some (decide (mark ',' word ']' <:+: s))) := by
  have occursMark : ∀ left right : Char,
      (occurs column (between (String.singleton left) element (String.singleton right))).eval
        engine env = .ofTruth (some (decide (mark left word right <:+: s))) :=
    fun left right => eval_occurs documented column_eval (eval_between documented reads left right)
  exact ⟨occursMark '[' ']', occursMark '[' ',', occursMark ',' ',', occursMark ',' ']'⟩

/-- On a text, the search for an element is a search for its four marks. -/
theorem eval_contained (documented : engine.Documented)
    (reads : element.eval engine env = .text (String.ofList word))
    (column_eval : column.eval engine env = .text (String.ofList s)) :
    ∃ truth : Bool, ((Positions.of element).contained column).eval engine env =
      .ofTruth (some truth) ∧ (truth = true ↔ Found word s) := by
  rcases eval_marks documented reads column_eval with ⟨only, first, middle, last⟩
  refine ⟨_, eval_or documented (eval_or documented (eval_or documented only first) middle) last, ?_⟩
  simp only [Bool.or_eq_true, decide_eq_true_eq, Found, or_assoc]

theorem eval_contained_null (documented : engine.Documented)
    (column_eval : column.eval engine env = .null) :
    ((Positions.of element).contained column).eval engine env = .ofTruth none := by
  have unknown : ∀ part : Expr, (occurs column part).eval engine env = .ofTruth none := by
    intro part
    simp only [occurs, Expr.eval, Operator.apply, column_eval, documented.instr_null]
    rfl
  simp only [Positions.contained, Expr.eval, Operator.apply, unknown, truth_ofTruth documented]
  rfl

/-- The word has a mark next to another element: the condition under which insertion keeps
the text. -/
private theorem eval_foundBeside (documented : engine.Documented)
    (reads : element.eval engine env = .text (String.ofList word))
    (column_eval : column.eval engine env = .text (String.ofList s)) :
    ∃ truth : Bool, (Expr.binary .or (.binary .or (occurs column (Positions.of element).first)
        (occurs column (Positions.of element).middle))
        (occurs column (Positions.of element).last)).eval engine env = .ofTruth (some truth) ∧
      (truth = true ↔ FoundBeside word s) := by
  rcases eval_marks documented reads column_eval with ⟨_, first, middle, last⟩
  refine ⟨_, eval_or documented (eval_or documented first middle) last, ?_⟩
  simp only [Bool.or_eq_true, decide_eq_true_eq, FoundBeside, or_assoc]

private theorem eval_appended (documented : engine.Documented) (nonzero : '\x00' ∉ s)
    (nonempty : s ≠ []) (reads : element.eval engine env = .text (String.ofList word))
    (column_eval : column.eval engine env = .text (String.ofList s)) :
    (Expr.binary .concat (.binary .concat (.binary .concat
      (.substr column (.number 1) (.binary .minus (.length column) (.number 1)))
      (.literal ",")) element) (.literal "]")).eval engine env =
      .text (String.ofList (s.dropLast ++ ',' :: word ++ [']'])) := by
  have nonzero' : '\x00' ∉ (String.ofList s).toList := by rwa [String.toList_ofList]
  have positive : 0 < s.length := List.length_pos_of_ne_nil nonempty
  have shorter : engine.minus (.integer s.length) (.integer 1) = .integer (s.length - 1 : Nat) :=
    documented.minus_integer s.length 1 positive
  have cut := documented.substr_text (String.ofList s) (s.length - 1) nonzero'
  rw [String.toList_ofList, ← List.dropLast_eq_take] at cut
  have length := documented.length_text (String.ofList s) nonzero'
  rw [String.toList_ofList] at length
  simp only [Expr.eval, Operator.apply, column_eval, reads, length, Int.natCast_one, shorter, cut,
    documented.concat_text]
  congr 1
  apply String.toList_inj.mp
  simp

/-- The condition under which insertion gives the element alone, and removal nothing. -/
private theorem eval_alone (documented : engine.Documented)
    (reads : element.eval engine env = .text (String.ofList word))
    (column_eval : column.eval engine env = .text (String.ofList s)) :
    ((Expr.isNull column).eval engine env = .ofTruth (some false)) ∧
      ((Expr.binary .eq column (.literal "[]")).eval engine env =
        .ofTruth (some (decide (s = ['[', ']'])))) ∧
      ((Expr.binary .eq column (Positions.of element).only).eval engine env =
        .ofTruth (some (decide (s = mark '[' word ']')))) := by
  have literal : (Expr.literal "[]").eval engine env = .text (String.ofList ['[', ']']) := rfl
  refine ⟨?_, ?_, ?_⟩
  · simp only [Expr.eval, column_eval, Datum.isNull]
  · exact eval_eq_text documented column_eval literal
  · exact eval_eq_text documented column_eval (eval_between documented reads '[' ']')

/-- Insertion into a text has the outcome that is stated on characters. -/
theorem eval_inserted (documented : engine.Documented) (nonzero : '\x00' ∉ s)
    (nonempty : s ≠ []) (reads : element.eval engine env = .text (String.ofList word))
    (column_eval : column.eval engine env = .text (String.ofList s)) {t : List Char}
    (inserted : Inserted word s t) :
    ((Positions.of element).inserted column).eval engine env = .text (String.ofList t) := by
  rcases eval_alone documented reads column_eval with ⟨isNull, isEmpty, isOnly⟩
  have isAlone := eval_or documented (eval_or documented isNull isEmpty) isOnly
  have alone_iff : (false || decide (s = ['[', ']']) || decide (s = mark '[' word ']')) = true ↔
      Alone word s := by
    simp only [Bool.false_or, Bool.or_eq_true, decide_eq_true_eq, Alone]
  rcases eval_foundBeside documented reads column_eval with ⟨found, isFound, found_iff⟩
  rw [Positions.inserted, Expr.eval, eval_when documented isAlone, eval_when documented isFound]
  cases inserted with
  | alone alone =>
      rw [if_pos (alone_iff.mpr alone)]
      exact eval_between documented reads '[' ']'
  | found notAlone beside =>
      rw [if_neg (mt alone_iff.mp notAlone), if_pos (found_iff.mpr beside)]
      exact column_eval
  | missing notAlone notBeside =>
      rw [if_neg (mt alone_iff.mp notAlone), if_neg (mt found_iff.mp notBeside)]
      exact eval_appended documented nonzero nonempty reads column_eval

theorem eval_inserted_null (documented : engine.Documented)
    (reads : element.eval engine env = .text (String.ofList word))
    (column_eval : column.eval engine env = .null) :
    ((Positions.of element).inserted column).eval engine env =
      .text (String.ofList (mark '[' word ']')) := by
  have isNull : (Expr.isNull column).eval engine env = .ofTruth (some true) := by
    simp only [Expr.eval, column_eval, Datum.isNull]
  have unknown : ∀ right : Expr,
      (Expr.binary .eq column right).eval engine env = .ofTruth none := by
    intro right
    simp only [Expr.eval, Operator.apply, column_eval]
    rfl
  have either : ∀ {left right : Expr}, left.eval engine env = .ofTruth (some true) →
      right.eval engine env = .ofTruth none →
      (Expr.binary .or left right).eval engine env = .ofTruth (some true) := by
    intro left right leftTrue rightUnknown
    rw [Expr.eval, Operator.apply, leftTrue, rightUnknown, truth_ofTruth documented,
      truth_ofTruth documented]
    rfl
  have isAlone := either (either isNull (unknown (.literal "[]")))
    (unknown (Positions.of element).only)
  rw [Positions.inserted, Expr.eval, eval_when documented isAlone, if_pos rfl]
  exact eval_between documented reads '[' ']'

/-- Replacing a mark in a column is replacing it in its text. -/
private theorem eval_replace (documented : engine.Documented)
    (reads : element.eval engine env = .text (String.ofList word))
    (column_eval : column.eval engine env = .text (String.ofList s)) (left right other : Char)
    (nonzero : left ≠ '\x00') {t : List Char}
    (replaced : Replaced (mark left word right) [other] s t) :
    (Expr.replace column (between (String.singleton left) element (String.singleton right))
      (.literal (String.singleton other))).eval engine env = .text (String.ofList t) := by
  have nonempty : String.ofList (mark left word right) ≠ "" := by
    intro empty
    have noMark := congrArg String.toList empty
    rw [String.toList_ofList] at noMark
    exact mark_ne_nil left word right noMark
  rw [Expr.eval, column_eval, eval_between documented reads, Expr.eval]
  apply documented.replace_text _ _ _ _ nonempty
  · rw [String.toList_ofList]
    exact fun zero => nonzero (Option.some.inj zero)
  · simpa only [String.toList_ofList, String.toList_singleton] using replaced

/-- Removal from a text has the outcome that is stated on characters. -/
theorem eval_removed (documented : engine.Documented)
    (reads : element.eval engine env = .text (String.ofList word))
    (column_eval : column.eval engine env = .text (String.ofList s)) {t : List Char}
    (removed : Removed word s t) :
    ((Positions.of element).removed column).eval engine env = .text (String.ofList t) := by
  rcases eval_alone documented reads column_eval with ⟨isNull, isEmpty, isOnly⟩
  rcases eval_marks documented reads column_eval with ⟨_, isFirst, isMiddle, isLast⟩
  rw [Positions.removed, Expr.eval, eval_when documented isNull, if_neg Bool.false_ne_true,
    eval_when documented isEmpty, eval_when documented isOnly, eval_when documented isFirst,
    eval_when documented isMiddle, eval_when documented isLast]
  simp only [decide_eq_true_eq]
  cases removed with
  | alone alone =>
      rcases alone with empty | only
      · rw [if_pos empty]
        rfl
      · rw [if_pos only, ite_self]
        rfl
  | first notAlone isFirst replaced =>
      rw [if_neg (mt Or.inl notAlone), if_neg (mt Or.inr notAlone), if_pos isFirst]
      exact eval_replace documented reads column_eval '[' ',' '[' (by decide) replaced
  | middle notAlone notFirst isMiddle replaced =>
      rw [if_neg (mt Or.inl notAlone), if_neg (mt Or.inr notAlone), if_neg notFirst,
        if_pos isMiddle]
      exact eval_replace documented reads column_eval ',' ',' ',' (by decide) replaced
  | last notAlone notFirst notMiddle isLast replaced =>
      rw [if_neg (mt Or.inl notAlone), if_neg (mt Or.inr notAlone), if_neg notFirst,
        if_neg notMiddle, if_pos isLast]
      exact eval_replace documented reads column_eval ',' ']' ']' (by decide) replaced
  | missing notAlone notBeside =>
      rw [if_neg (mt Or.inl notAlone), if_neg (mt Or.inr notAlone), if_neg (mt Or.inl notBeside),
        if_neg (mt (Or.inr ∘ Or.inl) notBeside), if_neg (mt (Or.inr ∘ Or.inr) notBeside)]
      exact column_eval

theorem eval_removed_null (documented : engine.Documented)
    (column_eval : column.eval engine env = .null) :
    ((Positions.of element).removed column).eval engine env = .null := by
  have isNull : (Expr.isNull column).eval engine env = .ofTruth (some true) := by
    simp only [Expr.eval, column_eval, Datum.isNull]
  rw [Positions.removed, Expr.eval, eval_when documented isNull, if_pos rfl, Expr.eval]

end

end Sql
end DocumentQuery
