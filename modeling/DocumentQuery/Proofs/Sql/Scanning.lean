import DocumentQuery.Sql.Expr
import Mathlib.Data.List.Basic

namespace DocumentQuery
namespace Sql

/-!
# Reading placeholders off a text

A reader of a statement who knows nothing of how it was built finds the placeholders by
passing over names in quotes and literals in apostrophes, and by taking every question mark
with the digits after it for a number.  Here that reader is defined on characters, and it is
shown to find the placeholders among the pieces of a statement and no others.

Two things could mislead the reader: a quote or a question mark in a word, and a digit right
after a placeholder.  `Separate` excludes both, and every expression is separate.

What the reader makes of a text is a list of tokens.  The numbers of the placeholders are read
off the tokens, and so is everything else that is said about the text of a statement.
-/

/-! ## The reader -/

/-- Where a reader stands: in the words of the language, inside a quoted part, or in a
placeholder of which some digits are read. -/
inductive Place where
  | words
  | quoted (quote : Char)
  | number (value : Nat)
deriving Repr, DecidableEq

/-- The place after a character among words. -/
def Place.afterWord (c : Char) : Place :=
  if c = '?' then .number 0 else if c = '"' || c = '\'' then .quoted c else .words

/-- The place after a character.  A quote that is written twice closes a quoted part and
opens it again at once. -/
def Place.next : Place → Char → Place
  | .words, c => .afterWord c
  | .quoted quote, c => if c = quote then .words else .quoted quote
  | .number value, c =>
    if c.isDigit then .number (10 * value + (c.toNat - '0'.toNat)) else .afterWord c

/-- The number that is complete before a character. -/
def Place.complete : Place → Char → List Nat
  | .number value, c => if c.isDigit then [] else [value]
  | _, _ => []

/-- The numbers of the placeholders in a text, as they come.  A question mark without digits
has the number zero. -/
@[simp]
def placeholdersFrom : Place → List Char → List Nat
  | .number value, [] => [value]
  | _, [] => []
  | place, c :: rest => place.complete c ++ placeholdersFrom (place.next c) rest

def placeholders (text : String) : List Nat :=
  placeholdersFrom .words text.toList

/-! ## Tokens -/

/-- What a reader finds in a text: placeholders, and characters that belong to none. -/
inductive Token where
  | char (c : Char)
  | placeholder (number : Nat)
deriving Repr, DecidableEq

def Token.number? : Token → Option Nat
  | .char _ => none
  | .placeholder number => some number

/-- The token of a character among words.  A question mark only begins a placeholder. -/
def Token.ofWord (c : Char) : List Token :=
  if c = '?' then [] else [.char c]

/-- The tokens that are complete with a character. -/
def Place.tokens : Place → Char → List Token
  | .words, c => Token.ofWord c
  | .quoted _, c => [.char c]
  | .number value, c => if c.isDigit then [] else .placeholder value :: Token.ofWord c

/-- The tokens of a text, as they come. -/
@[simp]
def tokensFrom : Place → List Char → List Token
  | .number value, [] => [.placeholder value]
  | _, [] => []
  | place, c :: rest => place.tokens c ++ tokensFrom (place.next c) rest

def tokens (text : String) : List Token :=
  tokensFrom .words text.toList

theorem Place.complete_eq (place : Place) (c : Char) :
    place.complete c = (place.tokens c).filterMap Token.number? := by
  have ofWord (c : Char) : (Token.ofWord c).filterMap Token.number? = [] := by
    rw [Token.ofWord]
    split <;> rfl
  cases place with
  | words => exact (ofWord c).symm
  | quoted quote => rfl
  | number value =>
      rw [Place.complete, Place.tokens]
      split
      · rfl
      · simp only [List.filterMap_cons, Token.number?, ofWord]

/-- The placeholders of a text are those among its tokens. -/
theorem placeholdersFrom_eq (place : Place) (text : List Char) :
    placeholdersFrom place text = (tokensFrom place text).filterMap Token.number? := by
  induction text generalizing place with
  | nil => cases place <;> rfl
  | cons c rest inductionHypothesis =>
      rw [placeholdersFrom, tokensFrom, List.filterMap_append, place.complete_eq,
        inductionHypothesis]

/-! ## Reading pieces -/

/-- The character neither begins a placeholder nor a quoted part. -/
def isPlain (c : Char) : Bool :=
  c != '?' && c != '"' && c != '\''

/-- The text does not continue a number. -/
def EndsNumber (text : List Char) : Prop :=
  ∀ c ∈ text.head?, c.isDigit = false

theorem tokensFrom_plain (word rest : List Char) (plain : word.all isPlain = true) :
    tokensFrom .words (word ++ rest) = word.map .char ++ tokensFrom .words rest := by
  induction word with
  | nil => rfl
  | cons c others inductionHypothesis =>
      rw [List.all_cons, Bool.and_eq_true] at plain
      have first := plain.1
      simp only [isPlain, Bool.and_eq_true, bne_iff_ne] at first
      have stays : Place.next .words c = .words := by
        simp [Place.next, Place.afterWord, first]
      have read : Place.tokens .words c = [.char c] := by
        simp [Place.tokens, Token.ofWord, first]
      rw [List.cons_append, tokensFrom, stays, read, inductionHypothesis plain.2]
      rfl

theorem toList_quoteName (name : String) : (quoteName name).toList = enclosed '"' name := by
  rw [quoteName, piecesText, String.toList_ofList]
  exact List.append_nil _

section

variable {quote : Char}

/-- A character that opens a quoted part begins no placeholder. -/
theorem ofWord_quote (opens : Place.afterWord quote = .quoted quote) :
    Token.ofWord quote = [.char quote] := by
  have notMark : quote ≠ '?' := by
    rintro rfl
    exact nomatch opens
  exact if_neg notMark

theorem tokensFrom_doubled (opens : Place.afterWord quote = .quoted quote) (s rest : List Char) :
    tokensFrom (.quoted quote) (doubled quote s ++ quote :: rest) =
      (doubled quote s ++ [quote]).map .char ++ tokensFrom .words rest := by
  have closes : Place.next (.quoted quote) quote = .words := if_pos rfl
  have opensAgain : Place.next .words quote = .quoted quote := opens
  have readAgain : Place.tokens .words quote = [.char quote] := ofWord_quote opens
  induction s with
  | nil => simp [doubled, closes, Place.tokens]
  | cons c others inductionHypothesis =>
      rw [doubled]
      by_cases same : c = quote
      · subst same
        rw [if_pos rfl, List.cons_append, List.cons_append, tokensFrom, closes, tokensFrom,
          opensAgain, readAgain, inductionHypothesis]
        rfl
      · have stays : Place.next (.quoted quote) c = .quoted quote := if_neg same
        rw [if_neg same, List.cons_append, tokensFrom, stays, inductionHypothesis]
        rfl

/-- A quoted part is passed over, whatever it holds. -/
theorem tokensFrom_enclosed (opens : Place.afterWord quote = .quoted quote) (s : String)
    (rest : List Char) :
    tokensFrom .words (enclosed quote s ++ rest) =
      (enclosed quote s).map .char ++ tokensFrom .words rest := by
  have opened : Place.next .words quote = .quoted quote := opens
  have read : Place.tokens .words quote = [.char quote] := ofWord_quote opens
  have inside := tokensFrom_doubled opens s.toList rest
  rw [← List.singleton_append, ← List.append_assoc] at inside
  rw [enclosed, List.cons_append, List.cons_append, tokensFrom, opened, read, inside]
  rfl

end

theorem tokensFrom_digits (digits rest : List Char) (value : Nat)
    (areDigits : ∀ c ∈ digits, c.isDigit = true) :
    tokensFrom (.number value) (digits ++ rest) =
      tokensFrom (.number (Nat.ofDigitChars 10 digits value)) rest := by
  induction digits generalizing value with
  | nil => rfl
  | cons c others inductionHypothesis =>
      have first := areDigits c List.mem_cons_self
      have later := inductionHypothesis (10 * value + (c.toNat - '0'.toNat)) fun d member =>
        areDigits d (List.mem_cons_of_mem c member)
      rw [Nat.ofDigitChars_cons, ← later]
      simp only [List.cons_append, tokensFrom, Place.next, Place.tokens, first, if_true,
        List.nil_append]

theorem tokensFrom_number {rest : List Char} (ends : EndsNumber rest) (value : Nat) :
    tokensFrom (.number value) rest = .placeholder value :: tokensFrom .words rest := by
  cases rest with
  | nil => rfl
  | cons c others =>
      have notDigit : c.isDigit = false := ends c rfl
      simp [Place.next, Place.tokens, notDigit]

theorem tokensFrom_param {rest : List Char} (ends : EndsNumber rest) (number : Nat) :
    tokensFrom .words ('?' :: Decimal.natural number ++ rest) =
      .placeholder number :: tokensFrom .words rest := by
  have opened : Place.next .words '?' = .number 0 := rfl
  have digits : ∀ c ∈ Decimal.natural number, c.isDigit = true := fun c member =>
    Nat.isDigit_of_mem_toDigits (by decide) (by decide) member
  have value : Nat.ofDigitChars 10 (Decimal.natural number) 0 = number :=
    Nat.ofDigitChars_ten_toDigits
  rw [List.cons_append, tokensFrom, opened, tokensFrom_digits _ _ _ digits, value,
    tokensFrom_number ends]
  rfl

def Piece.param? : Piece → Option Nat
  | .param number => some number
  | _ => none

/-- The numbers of the placeholders among pieces, in order. -/
def paramsOf (pieces : List Piece) : List Nat :=
  pieces.filterMap Piece.param?

/-- What a reader finds in a piece. -/
def Piece.tokens : Piece → List Token
  | .param number => [.placeholder number]
  | piece => piece.text.map .char

/-- The pieces do not begin with a digit, so that a placeholder may stand before them. -/
def opensApart : List Piece → Bool
  | .word text :: _ => text.toList.head?.any fun c => !c.isDigit
  | _ => true

/-- No word has a quote or a question mark, and no digit follows a placeholder. -/
def Separate : List Piece → Prop
  | [] => True
  | .word text :: rest => text.toList.all isPlain = true ∧ Separate rest
  | .param _ :: rest => opensApart rest = true ∧ Separate rest
  | _ :: rest => Separate rest

theorem endsNumber_of_opensApart {pieces : List Piece} (apart : opensApart pieces = true)
    {rest : List Char} (ends : EndsNumber rest) :
    EndsNumber (pieces.flatMap Piece.text ++ rest) := by
  cases pieces with
  | nil => exact ends
  | cons piece others =>
      intro c first
      cases piece with
      | word text =>
          rw [opensApart, Option.any_eq_true] at apart
          rcases apart with ⟨d, head, notDigit⟩
          rcases List.head?_eq_some_iff.mp head with ⟨tail, text_eq⟩
          rw [List.flatMap_cons, Piece.text, text_eq] at first
          cases first
          exact Bool.not_eq_true' _ |>.mp notDigit
      | name text => cases first; rfl
      | literal text => cases first; rfl
      | param number => cases first; rfl

/-- The reader finds in separate pieces what each of them holds. -/
theorem tokensFrom_pieces {pieces : List Piece} (separate : Separate pieces)
    {rest : List Char} (ends : EndsNumber rest) :
    tokensFrom .words (pieces.flatMap Piece.text ++ rest) =
      pieces.flatMap Piece.tokens ++ tokensFrom .words rest := by
  induction pieces with
  | nil => rfl
  | cons piece others inductionHypothesis =>
      rw [List.flatMap_cons, List.flatMap_cons, List.append_assoc, List.append_assoc]
      cases piece with
      | word text =>
          rw [Piece.text, tokensFrom_plain _ _ separate.1, inductionHypothesis separate.2]
          rfl
      | name text =>
          rw [Piece.text, tokensFrom_enclosed rfl, inductionHypothesis separate]
          rfl
      | literal text =>
          rw [Piece.text, tokensFrom_enclosed rfl, inductionHypothesis separate]
          rfl
      | param number =>
          rw [Piece.text, tokensFrom_param (endsNumber_of_opensApart separate.1 ends),
            inductionHypothesis separate.2]
          rfl

theorem tokens_piecesText {pieces : List Piece} (separate : Separate pieces) :
    tokens (piecesText pieces) = pieces.flatMap Piece.tokens := by
  have ends : EndsNumber [] := fun c first => nomatch first
  have read := tokensFrom_pieces separate ends
  rw [List.append_nil] at read
  rw [tokens, piecesText, String.toList_ofList, read]
  exact List.append_nil _

theorem filterMap_tokens (pieces : List Piece) :
    (pieces.flatMap Piece.tokens).filterMap Token.number? = paramsOf pieces := by
  have plain (text : List Char) : (text.map Token.char).filterMap Token.number? = [] := by
    rw [List.filterMap_map]
    exact List.filterMap_eq_nil_iff.mpr fun _ _ => rfl
  induction pieces with
  | nil => rfl
  | cons piece others inductionHypothesis =>
      rw [List.flatMap_cons, List.filterMap_append, inductionHypothesis]
      cases piece with
      | word text => exact congrArg (· ++ paramsOf others) (plain text.toList)
      | name text => exact congrArg (· ++ paramsOf others) (plain (enclosed '"' text))
      | literal text => exact congrArg (· ++ paramsOf others) (plain (enclosed '\'' text))
      | param number => rfl

/-- The reader finds the placeholders among separate pieces, and no others. -/
theorem placeholders_piecesText {pieces : List Piece} (separate : Separate pieces) :
    placeholders (piecesText pieces) = paramsOf pieces := by
  rw [placeholders, placeholdersFrom_eq, ← filterMap_tokens, ← tokens_piecesText separate, tokens]

end Sql
end DocumentQuery
