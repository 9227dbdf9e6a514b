import DocumentQuery.Proofs.Json.Escapes

namespace DocumentQuery
namespace Brackets

open Json

/-!
# Words in quotes

A text in quotes may have separators inside, so its marks may be found where no word begins
or ends.  Escapes leave one way for that.  The first quote of the word is then the last one
of some element, the separator after that element is all that the word has inside, and the
second quote of the word is the first one of the next element.  So only the text of one
comma is ever mistaken, and only between two neighbours of which the first ends and the
second begins with a separator.
-/

/-- A text as a word. -/
def quoted (s : String) : List Char :=
  writeString s.toList

theorem quoted_of_split {x : String} {s t : List Char} {c : Char} (separator : IsSeparator c)
    (split : x.toList = s ++ c :: t) :
    quoted x = '"' :: s.flatMap escapeChar ++ c :: (t.flatMap escapeChar ++ ['"']) := by
  rw [quoted, writeString, split, List.flatMap_append, List.flatMap_cons,
    escapeChar_separator separator]
  simp

/-- A place of a mark in the text of a list: around an element, or across the border of two
neighbours. -/
inductive Occurrence (xs : List String) (left : Char) (v : String) (right : Char)
    (u r : List Char) : Prop where
  | around {before after : List String} (split : xs = before ++ v :: after)
      (opens : opening (before.map quoted) = u ++ [left])
      (closes : closing (after.map quoted) = right :: r) : Occurrence xs left v right u r
  | across {before after : List String} {x y : String} {s t : List Char}
      (split : xs = before ++ x :: y :: after) (comma : v = ",")
      (ends : x.toList = s ++ [left]) (begins : y.toList = right :: t)
      (opens : u = opening (before.map quoted) ++ '"' :: s.flatMap escapeChar)
      (closes : r = t.flatMap escapeChar ++ '"' :: closing (after.map quoted)) :
      Occurrence xs left v right u r

variable {xs : List String} {v : String} {left right : Char} {u r : List Char}

theorem map_quoted_split {before after : List (List Char)} {word : List Char}
    (split : xs.map quoted = before ++ word :: after) :
    ∃ (earlier later : List String) (x : String), xs = earlier ++ x :: later ∧
      before = earlier.map quoted ∧ word = quoted x ∧ after = later.map quoted := by
  rcases List.map_eq_append_iff.mp split with ⟨earlier, rest, rfl, before_eq, rest_eq⟩
  rcases List.map_eq_cons_iff.mp rest_eq with ⟨x, later, rfl, word_eq, after_eq⟩
  exact ⟨earlier, later, x, rfl, before_eq.symm, word_eq.symm, after_eq.symm⟩

/-- A word begins where the separator before it belongs to no element. -/
private theorem Occurrence.of_opening {before after : List String} {x : String}
    (split : xs = before ++ x :: after) (opens : opening (before.map quoted) = u ++ [left])
    (rest : quoted v ++ right :: r = quoted x ++ closing (after.map quoted)) :
    Occurrence xs left v right u r := by
  rcases writeString_inj rest with ⟨same, closes⟩
  rw [← String.toList_inj.mp same] at split
  exact Occurrence.around split opens closes.symm

theorem ne_quote_of_separator {c : Char} (separator : IsSeparator c) : c ≠ '"' := by
  rintro rfl
  exact absurd separator (by decide)

/-- A separator is not what stands before a quote inside a written string. -/
private theorem quote_after_separator {s a b : List Char} (separator : IsSeparator left)
    (cut : s.flatMap escapeChar = a ++ left :: '"' :: b) : False := by
  rw [List.append_cons] at cut
  rcases exists_backslash_of_quote cut with ⟨w, before⟩
  have same := (List.append_inj' before rfl).2
  rw [(List.cons.inj same).1] at separator
  exact absurd separator (by decide)

/-- A separator inside an element is the last character of the element, if the first quote
of a word comes after it. -/
private theorem last_of_inside {x : String} {a b w : List Char} {after : List (List Char)}
    (separator : IsSeparator left) (word_eq : quoted x = a ++ left :: b)
    (rest : '"' :: w = b ++ closing after) :
    ∃ s : List Char, x.toList = s ++ [left] ∧ a = '"' :: s.flatMap escapeChar ∧ b = ['"'] := by
  have notQuote := ne_quote_of_separator separator
  cases a with
  | nil => exact absurd (List.cons.inj word_eq).1.symm notQuote
  | cons first a =>
      rcases List.cons.inj word_eq with ⟨rfl, inside⟩
      rcases append_cut inside with ⟨e, escapes, rfl⟩ | ⟨e, _, last⟩
      · rcases exists_split_of_separator separator escapes with ⟨s, t, split, rfl, rfl⟩
        cases written : t.flatMap escapeChar with
        | nil =>
            rw [flatMap_escapeChar_eq_nil written] at split
            exact ⟨s, split, rfl, rfl⟩
        | cons c e =>
            rw [written] at rest escapes
            rw [← (List.cons.inj rest).1] at escapes
            exact (quote_after_separator separator escapes).elim
      · cases e with
        | nil => exact absurd (List.cons.inj last).1.symm notQuote
        | cons _ e => exact absurd (List.cons.inj last).2.symm (by simp)

/-- A separator at the beginning of a written string is its first character. -/
private theorem first_of_escapes {y : String} {w : List Char} (separator : IsSeparator right)
    (begins : right :: r = y.toList.flatMap escapeChar ++ '"' :: w) :
    ∃ t : List Char, y.toList = right :: t ∧ r = t.flatMap escapeChar ++ '"' :: w := by
  cases written : y.toList.flatMap escapeChar with
  | nil =>
      rw [written] at begins
      exact absurd (List.cons.inj begins).1 (ne_quote_of_separator separator)
  | cons c e =>
      rw [written] at begins
      rcases List.cons.inj begins with ⟨rfl, rest⟩
      rcases exists_split_of_separator (u := []) separator written with ⟨a, t, split, before, rfl⟩
      rw [flatMap_escapeChar_eq_nil before] at split
      exact ⟨t, split, rest⟩

/-- What stands between two quotes at the end of one element and the beginning of the next is
one comma. -/
private theorem comma_of_closing {after : List String} (separator : IsSeparator right)
    (rest : v.toList.flatMap escapeChar ++ '"' :: right :: r = closing (after.map quoted)) :
    v = "," ∧ ∃ (y : String) (later : List String) (t : List Char), after = y :: later ∧
      y.toList = right :: t ∧ r = t.flatMap escapeChar ++ '"' :: closing (later.map quoted) := by
  have comma : IsSeparator ',' := Or.inr (Or.inl rfl)
  cases after with
  | nil =>
      have lengths := congrArg List.length rest
      simp only [closing, List.length_append, List.length_cons, List.map_nil, List.flatMap_nil,
        List.length_nil] at lengths
      omega
  | cons y later =>
      rw [List.map_cons, closing_cons] at rest
      cases written : v.toList.flatMap escapeChar with
      | nil =>
          rw [written] at rest
          exact absurd (List.cons.inj rest).1 (by decide)
      | cons c e =>
          rw [written] at rest
          rcases List.cons.inj rest with ⟨rfl, next⟩
          cases e with
          | nil =>
              have v_eq : v = "," := by
                rcases exists_split_of_separator (u := []) comma written with
                  ⟨a, b, split, before, behind⟩
                rw [flatMap_escapeChar_eq_nil before, flatMap_escapeChar_eq_nil behind] at split
                exact String.toList_inj.mp split
              have begins : right :: r =
                  y.toList.flatMap escapeChar ++ ['"'] ++ closing (later.map quoted) :=
                (List.cons.inj next).2
              rw [List.append_assoc] at begins
              rcases first_of_escapes separator begins with ⟨t, begins, r_eq⟩
              exact ⟨v_eq, y, later, t, rfl, begins, r_eq⟩
          | cons d e =>
              rw [(List.cons.inj next).1] at written
              exact (quote_after_separator (a := []) comma written).elim

/-- Every place of a mark of a text is around the element or across the border of two
neighbours. -/
theorem occurrence_of_mark (leftOpens : left = '[' ∨ left = ',') (separator : IsSeparator right)
    (found : bracketed (xs.map quoted) = u ++ mark left (quoted v) right ++ r) :
    Occurrence xs left v right u r := by
  have leftSeparates : IsSeparator left := leftOpens.imp_right Or.inl
  have notLast : left ≠ ']' := by rcases leftOpens with rfl | rfl <;> decide
  have cut : bracketed (xs.map quoted) = u ++ left :: (quoted v ++ right :: r) := by
    rw [found]
    simp [mark]
  by_cases empty : xs = []
  · have lengths := congrArg List.length cut
    simp only [empty, bracketed, quoted, writeString, List.map_nil, List.length_cons,
      List.length_append, List.length_nil] at lengths
    omega
  · have nonempty : xs.map quoted ≠ [] := mt List.map_eq_nil_iff.mp empty
    rcases bracketed_cut nonempty notLast cut with
      ⟨before, word, after, split, opens, rest⟩ | ⟨before, a, b, after, split, opens, rest⟩
    · rcases map_quoted_split split with ⟨earlier, later, x, xs_eq, rfl, rfl, rfl⟩
      exact Occurrence.of_opening xs_eq opens rest
    · rcases map_quoted_split split with ⟨earlier, later, x, xs_eq, rfl, word_eq, rfl⟩
      rcases last_of_inside leftSeparates word_eq.symm rest with ⟨s, ends, rfl, rfl⟩
      have rest : v.toList.flatMap escapeChar ++ ['"'] ++ right :: r =
          closing (later.map quoted) := (List.cons.inj rest).2
      rw [List.append_assoc] at rest
      rcases comma_of_closing separator rest with ⟨comma, y, others, t, rfl, begins, closes⟩
      exact Occurrence.across xs_eq comma ends begins opens closes

theorem Occurrence.found (leftOpens : left = '[' ∨ left = ',') (separator : IsSeparator right)
    (occurrence : Occurrence xs left v right u r) :
    bracketed (xs.map quoted) = u ++ mark left (quoted v) right ++ r := by
  have leftSeparates : IsSeparator left := leftOpens.imp_right Or.inl
  cases occurrence with
  | around split opens closes =>
      rw [split, List.map_append, List.map_cons, bracketed_append_cons, opens, closes]
      simp [mark]
  | across split comma ends begins opens closes =>
      have comma_quoted : quoted "," = ['"', ',', '"'] := rfl
      rw [split, List.map_append, List.map_cons, List.map_cons, bracketed_append_cons,
        closing_cons, opens, closes, comma, comma_quoted, quoted_of_split leftSeparates ends,
        quoted_of_split (s := []) separator begins]
      simp [mark]

end Brackets
end DocumentQuery
