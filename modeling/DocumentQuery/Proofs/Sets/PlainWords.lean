import DocumentQuery.Proofs.Sets.Editing

namespace DocumentQuery
namespace Brackets

/-!
# Words without separators

If no word has a bracket or a comma, the separators of a list can be told from the words.
A mark then begins at the end of one word or at the first bracket, and its own separators
are the next ones, so that it stands around a whole word.  Nothing depends on which words
begin or end like others.
-/

/-- The character separates the words of a list. -/
def IsSeparator (c : Char) : Prop :=
  c = '[' ∨ c = ',' ∨ c = ']'

instance : DecidablePred IsSeparator :=
  fun c => inferInstanceAs (Decidable (c = '[' ∨ c = ',' ∨ c = ']'))

/-- The word is not empty and has no separators. -/
structure Plain (word : List Char) : Prop where
  nonempty : word ≠ []
  notSeparator : ∀ c ∈ word, ¬ IsSeparator c

theorem Plain.eq_of_append {word other r s : List Char} {c d : Char} (plain : Plain word)
    (otherPlain : Plain other) (separator : IsSeparator c) (otherSeparator : IsSeparator d)
    (same : word ++ c :: r = other ++ d :: s) : word = other ∧ c :: r = d :: s := by
  rcases List.append_eq_append_iff.mp same with ⟨a, longer, rest⟩ | ⟨a, longer, rest⟩
  · cases a with
    | nil => exact ⟨by rw [longer, List.append_nil], rest⟩
    | cons e a =>
        rcases List.cons.inj rest with ⟨rfl, _⟩
        have member : c ∈ other := by
          rw [longer]
          exact List.mem_append_right word List.mem_cons_self
        exact absurd separator (otherPlain.notSeparator c member)
  · cases a with
    | nil => exact ⟨by rw [longer, List.append_nil], rest.symm⟩
    | cons e a =>
        rcases List.cons.inj rest with ⟨rfl, _⟩
        have member : d ∈ word := by
          rw [longer]
          exact List.mem_append_right other List.mem_cons_self
        exact absurd otherSeparator (plain.notSeparator d member)

theorem isSeparator_closeChar {α : Type} (after : List α) : IsSeparator (closeChar after) := by
  cases after with
  | nil => exact Or.inr (Or.inr rfl)
  | cons _ _ => exact Or.inr (Or.inl rfl)

/-- Among plain words, the marks of a plain word stand around it and nowhere else. -/
theorem faithful_of_plain {words : List (List Char)} {word : List Char} {left right : Char}
    (plainWords : ∀ other ∈ words, Plain other) (plain : Plain word)
    (leftOpens : left = '[' ∨ left = ',') (rightSeparates : IsSeparator right) :
    Faithful words left word right := by
  intro u v found
  have leftSeparates : IsSeparator left := by
    rcases leftOpens with rfl | rfl
    · exact Or.inl rfl
    · exact Or.inr (Or.inl rfl)
  have notLast : left ≠ ']' := by rcases leftOpens with rfl | rfl <;> decide
  have cut : bracketed words = u ++ left :: (word ++ right :: v) := by
    rw [found]
    simp [mark]
  by_cases nonempty : words = []
  · subst nonempty
    have lengths := congrArg List.length cut
    have positive : 0 < word.length := List.length_pos_of_ne_nil plain.nonempty
    simp only [bracketed, List.length_cons, List.length_append, List.length_nil] at lengths
    omega
  · rcases bracketed_cut nonempty notLast cut with
      ⟨before, next, after, split, opens, rest⟩ | ⟨before, a, b, after, split, _, _⟩
    · have nextPlain : Plain next := plainWords next (by
        rw [split]
        exact List.mem_append_right before List.mem_cons_self)
      rcases closing_eq after with ⟨w, closes⟩
      rw [closes] at rest
      rcases plain.eq_of_append nextPlain rightSeparates (isSeparator_closeChar after) rest with
        ⟨rfl, same⟩
      exact ⟨before, after, split, opens, closes.trans same.symm⟩
    · have inside : Plain (a ++ left :: b) := plainWords _ (by
        rw [split]
        exact List.mem_append_right before List.mem_cons_self)
      exact absurd leftSeparates
        (inside.notSeparator left (List.mem_append_right a List.mem_cons_self))

/-- A list with the text of one word alone is that word alone, if the mark is faithful. -/
theorem Faithful.eq_singleton {words : List (List Char)} {word : List Char}
    (faithful : Faithful words '[' word ']') (text : bracketed words = mark '[' word ']') :
    words = [word] := by
  rcases faithful [] [] (by rw [text]; simp) with ⟨before, after, rfl, opens, closes⟩
  rw [eq_nil_of_opening opens, eq_nil_of_closing closes]
  rfl

/-- Plain words may be looked up, inserted and removed. -/
theorem legible_of_plain {words : List (List Char)} {word : List Char}
    (plainWords : ∀ other ∈ words, Plain other) (plain : Plain word) : Legible words word where
  nonempty member := (plainWords [] member).nonempty rfl
  alone := (faithful_of_plain plainWords plain (Or.inl rfl) (Or.inr (Or.inr rfl))).eq_singleton
  first := faithful_of_plain plainWords plain (Or.inl rfl) (Or.inr (Or.inl rfl))
  middle := faithful_of_plain plainWords plain (Or.inr rfl) (Or.inr (Or.inl rfl))
  last := faithful_of_plain plainWords plain (Or.inr rfl) (Or.inr (Or.inr rfl))

end Brackets
end DocumentQuery
