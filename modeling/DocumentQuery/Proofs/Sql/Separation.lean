import DocumentQuery.Proofs.Sql.Scanning

namespace DocumentQuery
namespace Sql

/-!
# Separate pieces

A statement can be read piece by piece if its pieces are `Separate`.  This holds of every
expression, whatever names and literals it has, as long as values are cast to types that are
plain words.  The proof follows the cases of expressions; parts are put together at words
that begin with no digit, and at no other place.
-/

theorem separate_append {first second : List Piece} (separateFirst : Separate first)
    (separateSecond : Separate second) (apart : opensApart second = true) :
    Separate (first ++ second) := by
  induction first with
  | nil => exact separateSecond
  | cons piece rest inductionHypothesis =>
      cases piece with
      | word text => exact ⟨separateFirst.1, inductionHypothesis separateFirst.2⟩
      | name text => exact inductionHypothesis separateFirst
      | literal text => exact inductionHypothesis separateFirst
      | param number =>
          refine ⟨?_, inductionHypothesis separateFirst.2⟩
          cases rest with
          | nil => exact apart
          | cons next others =>
              have first := separateFirst.1
              cases next <;> exact first

theorem opensApart_append {first second : List Piece} (apartFirst : opensApart first = true)
    (apartSecond : opensApart second = true) : opensApart (first ++ second) = true := by
  cases first with
  | nil => exact apartSecond
  | cons piece rest => cases piece <;> exact apartFirst

theorem separate_word {first rest : List Piece} {text : String} (separateFirst : Separate first)
    (separateRest : Separate rest) (plain : text.toList.all isPlain = true)
    (apart : (text.toList.head?.any fun c => !c.isDigit) = true) :
    Separate (first ++ .word text :: rest) :=
  separate_append separateFirst ⟨plain, separateRest⟩ apart

theorem separate_closed {first : List Piece} (separate : Separate first) :
    Separate (first ++ [.word ")"]) :=
  separate_word separate trivial (by decide) (by decide)

theorem separate_comma {first rest : List Piece} (separateFirst : Separate first)
    (separateRest : Separate rest) : Separate (first ++ .word ", " :: rest) :=
  separate_word separateFirst separateRest (by decide) (by decide)

theorem separate_pathPieces (path : List String) : Separate (pathPieces path) := by
  induction path with
  | nil => trivial
  | cons name rest inductionHypothesis =>
      cases rest with
      | nil => trivial
      | cons next others => exact ⟨by decide, inductionHypothesis⟩

@[simp] theorem paramsOf_nil : paramsOf [] = [] := rfl

@[simp] theorem paramsOf_word (text : String) (rest : List Piece) :
    paramsOf (.word text :: rest) = paramsOf rest := rfl

@[simp] theorem paramsOf_name (text : String) (rest : List Piece) :
    paramsOf (.name text :: rest) = paramsOf rest := rfl

@[simp] theorem paramsOf_literal (text : String) (rest : List Piece) :
    paramsOf (.literal text :: rest) = paramsOf rest := rfl

@[simp] theorem paramsOf_param (number : Nat) (rest : List Piece) :
    paramsOf (.param number :: rest) = number :: paramsOf rest := rfl

@[simp] theorem paramsOf_append (first second : List Piece) :
    paramsOf (first ++ second) = paramsOf first ++ paramsOf second :=
  List.filterMap_append

@[simp] theorem paramsOf_pathPieces (path : List String) : paramsOf (pathPieces path) = [] := by
  induction path with
  | nil => rfl
  | cons name rest inductionHypothesis =>
      cases rest with
      | nil => rfl
      | cons next others => exact inductionHypothesis

theorem separate_separated {separator : String} {parts : List (List Piece)}
    (plain : separator.toList.all isPlain = true)
    (apart : (separator.toList.head?.any fun c => !c.isDigit) = true)
    (each : ∀ part ∈ parts, Separate part) : Separate (separated separator parts) := by
  induction parts with
  | nil => trivial
  | cons part rest inductionHypothesis =>
      have first := each part List.mem_cons_self
      have later := inductionHypothesis fun other member =>
        each other (List.mem_cons_of_mem part member)
      cases rest with
      | nil => exact first
      | cons next others => exact separate_word first later plain apart

theorem paramsOf_separated (separator : String) (parts : List (List Piece)) :
    paramsOf (separated separator parts) = parts.flatMap paramsOf := by
  induction parts with
  | nil => rfl
  | cons part rest inductionHypothesis =>
      cases rest with
      | nil => rw [separated, List.flatMap_cons, List.flatMap_nil, List.append_nil]
      | cons next others =>
          rw [separated, paramsOf_append, List.flatMap_cons, ← inductionHypothesis]
          rfl

theorem separate_paramPieces (params : List Nat) : Separate (paramPieces params) := by
  apply separate_separated (by decide) (by decide)
  intro part member
  rcases List.mem_map.mp member with ⟨number, _, rfl⟩
  exact ⟨rfl, trivial⟩

@[simp] theorem paramsOf_paramPieces (params : List Nat) : paramsOf (paramPieces params) = params := by
  rw [paramPieces, paramsOf_separated]
  induction params with
  | nil => rfl
  | cons number rest inductionHypothesis =>
      rw [List.map_cons, List.flatMap_cons, inductionHypothesis]
      rfl

/-! ## Expressions -/

attribute [simp] Expr.pieces Cases.pieces

mutual

/-- The types that values are cast to are plain words. -/
@[simp]
def Expr.Plain : Expr → Prop
  | .column _ => True
  | .param _ => True
  | .number _ => True
  | .literal _ => True
  | .null => True
  | .binary _ left right => left.Plain ∧ right.Plain
  | .isNull operand => operand.Plain
  | .isNotNull operand => operand.Plain
  | .not operand => operand.Plain
  | .oneOf operand _ => operand.Plain
  | .noneOf operand _ => operand.Plain
  | .group operand => operand.Plain
  | .cast operand type => operand.Plain ∧ type.toList.all isPlain = true
  | .jsonQuote operand => operand.Plain
  | .length operand => operand.Plain
  | .instr text part => text.Plain ∧ part.Plain
  | .substr text start count => text.Plain ∧ start.Plain ∧ count.Plain
  | .replace text part other => text.Plain ∧ part.Plain ∧ other.Plain
  | .choice cases => cases.Plain

@[simp]
def Cases.Plain : Cases → Prop
  | .otherwise value => value.Plain
  | .when condition value rest => condition.Plain ∧ value.Plain ∧ rest.Plain

end

theorem isPlain_of_isDigit {c : Char} (digit : c.isDigit = true) : isPlain c = true := by
  simp only [isPlain, Bool.and_eq_true, bne_iff_ne]
  refine ⟨⟨?_, ?_⟩, ?_⟩ <;> rintro rfl <;> exact absurd digit (by decide)

theorem plain_natural (n : Nat) : (Decimal.natural n).all isPlain = true := by
  rw [List.all_eq_true]
  exact fun c member =>
    isPlain_of_isDigit (Nat.isDigit_of_mem_toDigits (by decide) (by decide) member)

theorem Operator.text_plain (operator : Operator) : operator.text.toList.all isPlain = true := by
  cases operator <;> decide

theorem Operator.text_apart (operator : Operator) :
    (operator.text.toList.head?.any fun c => !c.isDigit) = true := by
  cases operator <;> decide

theorem Cases.opensApart_pieces (cases : Cases) : opensApart cases.pieces = true := by
  cases cases <;> rfl

mutual

/-- The pieces of an expression are separate. -/
theorem Expr.separate_pieces : ∀ e : Expr, e.Plain → Separate e.pieces
  | .column path, _ => separate_pathPieces path
  | .param _, _ => ⟨rfl, trivial⟩
  | .number n, _ => ⟨by rw [String.toList_ofList]; exact plain_natural n, trivial⟩
  | .literal _, _ => trivial
  | .null, _ => ⟨by decide, trivial⟩
  | .binary operator left right, plain =>
    separate_word (left.separate_pieces plain.1) (right.separate_pieces plain.2)
      operator.text_plain operator.text_apart
  | .isNull operand, plain =>
    separate_word (operand.separate_pieces plain) trivial (by decide) (by decide)
  | .isNotNull operand, plain =>
    separate_word (operand.separate_pieces plain) trivial (by decide) (by decide)
  | .not operand, plain => ⟨by decide, operand.separate_pieces plain⟩
  | .oneOf operand params, plain =>
    separate_closed (separate_word (operand.separate_pieces plain) (separate_paramPieces params)
      (by decide) (by decide))
  | .noneOf operand params, plain =>
    separate_closed (separate_word (operand.separate_pieces plain) (separate_paramPieces params)
      (by decide) (by decide))
  | .group operand, plain => separate_closed ⟨by decide, operand.separate_pieces plain⟩
  | .cast operand type, plain => by
    refine separate_word ⟨by decide, operand.separate_pieces plain.1⟩ trivial ?_ ?_
    · rw [String.toList_append, String.toList_append, List.all_append, List.all_append, plain.2]
      decide
    · rw [String.toList_append, String.toList_append]
      rfl
  | .jsonQuote operand, plain => separate_closed ⟨by decide, operand.separate_pieces plain⟩
  | .length operand, plain => separate_closed ⟨by decide, operand.separate_pieces plain⟩
  | .instr text part, plain =>
    separate_closed (separate_comma ⟨by decide, text.separate_pieces plain.1⟩
      (part.separate_pieces plain.2))
  | .substr text start count, plain =>
    separate_closed (separate_comma (separate_comma ⟨by decide, text.separate_pieces plain.1⟩
      (start.separate_pieces plain.2.1)) (count.separate_pieces plain.2.2))
  | .replace text part other, plain =>
    separate_closed (separate_comma (separate_comma ⟨by decide, text.separate_pieces plain.1⟩
      (part.separate_pieces plain.2.1)) (other.separate_pieces plain.2.2))
  | .choice cases, plain =>
    separate_word ⟨by decide, cases.separate_pieces plain⟩ trivial (by decide) (by decide)

/-- The pieces of a choice are separate. -/
theorem Cases.separate_pieces : ∀ cases : Cases, cases.Plain → Separate cases.pieces
  | .otherwise value, plain => ⟨by decide, value.separate_pieces plain⟩
  | .when condition value rest, plain =>
    separate_append (separate_word ⟨by decide, condition.separate_pieces plain.1⟩
      (value.separate_pieces plain.2.1) (by decide) (by decide))
      (rest.separate_pieces plain.2.2) rest.opensApart_pieces

end

end Sql
end DocumentQuery
