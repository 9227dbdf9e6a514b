import DocumentQuery.Json.Writer
import DocumentQuery.Proofs.Store.Replacement
import Mathlib.Data.List.Nodup

namespace DocumentQuery
namespace Brackets

/-!
# Words in brackets

The compact text of a JSON array is a list of words in brackets with commas between them.
An element is looked for in that text by its *mark*: its word between the two characters
that surround it in one of the four positions.  A search for a mark does not know where
words begin and end, so it may find a mark that does not stand around an element.

`Faithful` says that this does not happen in a given list for a given word and a given pair
of surrounding characters.  What follows from it is the same for all kinds of words: a
mark is found exactly where the element stands, and in a list without repetitions
replacing the mark by one of its ends takes exactly that element out.
-/

/-- What stands before an element: the bracket, and each earlier word with its comma. -/
def opening (before : List (List Char)) : List Char :=
  '[' :: before.flatMap fun word => word ++ [',']

/-- What stands after an element: each later word after its comma, and the bracket. -/
def closing (after : List (List Char)) : List Char :=
  (after.flatMap fun word => ',' :: word) ++ [']']

/-- Words in brackets, with commas between them. -/
def bracketed : List (List Char) → List Char
  | [] => ['[', ']']
  | word :: rest => '[' :: word ++ closing rest

/-- The character before an element that comes after the given ones. -/
def openChar {α : Type} : List α → Char
  | [] => '['
  | _ :: _ => ','

/-- The character after an element that comes before the given ones. -/
def closeChar {α : Type} : List α → Char
  | [] => ']'
  | _ :: _ => ','

/-- A word between two characters. -/
def mark (left : Char) (word : List Char) (right : Char) : List Char :=
  left :: word ++ [right]

theorem openChar_of_ne_nil {α : Type} {before : List α} (nonempty : before ≠ []) :
    openChar before = ',' := by
  cases before with
  | nil => exact absurd rfl nonempty
  | cons _ _ => rfl

theorem openChar_eq_bracket_iff {α : Type} {before : List α} :
    openChar before = '[' ↔ before = [] := by
  cases before with
  | nil => exact iff_of_true rfl rfl
  | cons first rest => exact iff_of_false (show ',' ≠ '[' by decide) (List.cons_ne_nil first rest)

theorem closeChar_eq_bracket_iff {α : Type} {after : List α} :
    closeChar after = ']' ↔ after = [] := by
  cases after with
  | nil => exact iff_of_true rfl rfl
  | cons first rest => exact iff_of_false (show ',' ≠ ']' by decide) (List.cons_ne_nil first rest)

theorem openChar_eq_comma_iff {α : Type} {before : List α} :
    openChar before = ',' ↔ before ≠ [] := by
  refine ⟨?_, openChar_of_ne_nil⟩
  rintro opened rfl
  exact absurd opened (show '[' ≠ ',' by decide)

theorem closeChar_eq_comma_iff {α : Type} {after : List α} :
    closeChar after = ',' ↔ after ≠ [] := by
  cases after with
  | nil => exact iff_of_false (show ']' ≠ ',' by decide) (not_not_intro rfl)
  | cons first rest => exact iff_of_true rfl (List.cons_ne_nil first rest)

theorem openChar_map {α β : Type} (f : α → β) (before : List α) :
    openChar (before.map f) = openChar before := by
  cases before <;> rfl

theorem closeChar_map {α β : Type} (f : α → β) (after : List α) :
    closeChar (after.map f) = closeChar after := by
  cases after <;> rfl

theorem mark_ne_nil (left : Char) (word : List Char) (right : Char) : mark left word right ≠ [] :=
  List.cons_ne_nil left (word ++ [right])

theorem opening_append_singleton (before : List (List Char)) (word : List Char) :
    opening (before ++ [word]) = opening before ++ word ++ [','] := by
  simp [opening]

theorem length_opening_append_cons (before : List (List Char)) (word : List Char)
    (after : List (List Char)) : (opening (before ++ word :: after)).length =
      (opening (before ++ after)).length + word.length + 1 := by
  simp only [opening, List.flatMap_append, List.flatMap_cons, List.length_cons,
    List.length_append, List.length_nil]
  omega

theorem length_opening_le (before after : List (List Char)) :
    (opening before).length ≤ (opening (before ++ after)).length := by
  simp only [opening, List.flatMap_append, List.length_cons, List.length_append]
  omega

theorem closing_cons (word : List Char) (after : List (List Char)) :
    closing (word :: after) = ',' :: word ++ closing after := by
  simp [closing]

private theorem closing_append_cons (before : List (List Char)) (word : List Char)
    (after : List (List Char)) :
    closing (before ++ word :: after) =
      ',' :: (before.flatMap fun word => word ++ [',']) ++ word ++ closing after := by
  induction before with
  | nil => exact closing_cons word after
  | cons first rest inductionHypothesis =>
      rw [List.cons_append, closing_cons, inductionHypothesis]
      simp

/-- The compact text of a JSON array is the list of the compact texts of its items. -/
theorem write_array (items : List Json) :
    (Json.array items).write = bracketed (items.map Json.write) := by
  have writeItems_eq (item : Json) (rest : List Json) :
      Json.writeItems (item :: rest) ++ [']'] = item.write ++ closing (rest.map Json.write) := by
    induction rest generalizing item with
    | nil => rfl
    | cons next others inductionHypothesis =>
        rw [Json.writeItems, List.map_cons, closing_cons, List.append_assoc, List.cons_append,
          inductionHypothesis]
        simp
  cases items with
  | nil => rfl
  | cons item rest =>
      rw [Json.write, List.map_cons, bracketed, List.cons_append, writeItems_eq]
      rfl

/-- The text of a list splits at each of its elements. -/
theorem bracketed_append_cons (before : List (List Char)) (word : List Char)
    (after : List (List Char)) :
    bracketed (before ++ word :: after) = opening before ++ word ++ closing after := by
  cases before with
  | nil => simp [bracketed, opening]
  | cons first rest =>
      rw [List.cons_append, bracketed, closing_append_cons]
      simp [opening]

theorem bracketed_append_singleton (before : List (List Char)) (word : List Char) :
    bracketed (before ++ [word]) = opening before ++ word ++ [']'] :=
  bracketed_append_cons before word []

/-- The text of a list is what stands before a further element, closed by the bracket. -/
theorem bracketed_of_opening {before : List (List Char)} {u : List Char} (nonempty : before ≠ [])
    (opens : opening before = u ++ [',']) : bracketed before = u ++ [']'] := by
  rcases (List.eq_nil_or_concat before).resolve_left nonempty with ⟨rest, last, rfl⟩
  rw [List.concat_eq_append, opening_append_singleton] at opens
  rw [List.concat_eq_append, bracketed_append_singleton, (List.append_inj' opens rfl).1]

theorem length_bracketed {words : List (List Char)} (nonempty : words ≠ []) :
    (bracketed words).length = (opening words).length := by
  rcases (List.eq_nil_or_concat words).resolve_left nonempty with ⟨rest, last, rfl⟩
  rw [List.concat_eq_append, opening_append_singleton, bracketed_append_singleton]
  simp only [List.length_append, List.length_singleton]

theorem opening_eq (before : List (List Char)) :
    ∃ u : List Char, opening before = u ++ [openChar before] := by
  induction before using List.reverseRecOn with
  | nil => exact ⟨[], rfl⟩
  | append_singleton rest word _ =>
      refine ⟨opening rest ++ word, ?_⟩
      rw [opening_append_singleton]
      cases rest <;> rfl

theorem closing_eq (after : List (List Char)) :
    ∃ v : List Char, closing after = closeChar after :: v := by
  cases after with
  | nil => exact ⟨[], rfl⟩
  | cons word rest => exact ⟨word ++ closing rest, closing_cons word rest⟩

theorem openChar_of_opening {before : List (List Char)} {u : List Char} {c : Char}
    (opens : opening before = u ++ [c]) : openChar before = c := by
  rcases opening_eq before with ⟨w, ends⟩
  exact (List.cons.inj (List.append_inj' (ends.symm.trans opens) rfl).2).1

theorem closeChar_of_closing {after : List (List Char)} {v : List Char} {c : Char}
    (closes : closing after = c :: v) : closeChar after = c := by
  rcases closing_eq after with ⟨w, begins⟩
  exact (List.cons.inj (begins.symm.trans closes)).1

theorem eq_nil_of_opening {before : List (List Char)} {c : Char} (opens : opening before = [c]) :
    before = [] := by
  cases before with
  | nil => rfl
  | cons first rest =>
      have lengths := congrArg List.length opens
      simp [opening] at lengths

theorem eq_nil_of_closing {after : List (List Char)} {v : List Char}
    (closes : closing after = ']' :: v) : after = [] := by
  cases after with
  | nil => rfl
  | cons first rest =>
      rw [closing_cons] at closes
      exact absurd (List.cons.inj closes).1 (by decide)

theorem mark_infix_bracketed (before : List (List Char)) (word : List Char)
    (after : List (List Char)) :
    mark (openChar before) word (closeChar after) <:+: bracketed (before ++ word :: after) := by
  rcases opening_eq before with ⟨u, opens⟩
  rcases closing_eq after with ⟨v, closes⟩
  refine ⟨u, v, ?_⟩
  rw [bracketed_append_cons, opens, closes]
  simp [mark]

/-! ## Cutting the text of a list -/

/-- A character of two texts in a row belongs to the first or to the second. -/
theorem append_cut {s t u r : List Char} {c : Char} (cut : s ++ t = u ++ c :: r) :
    (∃ b, s = u ++ c :: b ∧ r = b ++ t) ∨ ∃ a, u = s ++ a ∧ t = a ++ c :: r := by
  rcases List.append_eq_append_iff.mp cut with ⟨a, before, after⟩ | ⟨a, before, after⟩
  · exact Or.inr ⟨a, before, after⟩
  · cases a with
    | nil =>
        rw [List.append_nil] at before
        exact Or.inr ⟨[], by rw [before, List.append_nil], after.symm⟩
    | cons d b =>
        rcases List.cons.inj after with ⟨rfl, rfl⟩
        exact Or.inl ⟨b, before, rfl⟩

/-- A character of a list after the first bracket, other than the last bracket, is a comma
between two words or belongs to a word. -/
private theorem closing_cut {word : List Char} {rest : List (List Char)} {u r : List Char}
    {c : Char} (notLast : c ≠ ']') (cut : word ++ closing rest = u ++ c :: r) :
    (∃ before next after, word :: rest = before ++ next :: after ∧
      opening before = '[' :: u ++ [c] ∧ r = next ++ closing after) ∨
    ∃ before a b after, word :: rest = before ++ (a ++ c :: b) :: after ∧
      '[' :: u = opening before ++ a ∧ r = b ++ closing after := by
  induction rest generalizing word u with
  | nil =>
      rcases append_cut cut with ⟨b, rfl, rfl⟩ | ⟨a, _, bracket⟩
      · exact Or.inr ⟨[], u, b, [], rfl, rfl, rfl⟩
      · cases a with
        | nil => exact absurd (List.cons.inj bracket).1.symm notLast
        | cons _ a => exact absurd (List.cons.inj bracket).2.symm (by simp)
  | cons next others inductionHypothesis =>
      rcases append_cut cut with ⟨b, rfl, rfl⟩ | ⟨a, rfl, comma⟩
      · exact Or.inr ⟨[], u, b, next :: others, rfl, rfl, rfl⟩
      · rw [closing_cons] at comma
        cases a with
        | nil =>
            rcases List.cons.inj comma with ⟨rfl, rfl⟩
            exact Or.inl ⟨[word], next, others, rfl, by simp [opening], rfl⟩
        | cons d a =>
            rcases List.cons.inj comma with ⟨rfl, later⟩
            rcases inductionHypothesis later with
              ⟨before, found, after, split, opens, rest⟩ | ⟨before, x, y, after, split, opens, rest⟩
            · refine Or.inl ⟨word :: before, found, after, by rw [split]; rfl, ?_, rest⟩
              simpa [opening] using opens
            · refine Or.inr ⟨word :: before, x, y, after, by rw [split]; rfl, ?_, rest⟩
              simpa [opening] using opens

/-- A character of the text of a list, other than the last bracket, stands before a word or
belongs to one. -/
theorem bracketed_cut {words : List (List Char)} {u r : List Char} {c : Char}
    (nonempty : words ≠ []) (notLast : c ≠ ']') (cut : bracketed words = u ++ c :: r) :
    (∃ before word after, words = before ++ word :: after ∧ opening before = u ++ [c] ∧
      r = word ++ closing after) ∨
    ∃ before a b after, words = before ++ (a ++ c :: b) :: after ∧ u = opening before ++ a ∧
      r = b ++ closing after := by
  rcases List.exists_cons_of_ne_nil nonempty with ⟨word, rest, rfl⟩
  cases u with
  | nil =>
      rcases List.cons.inj cut with ⟨rfl, rfl⟩
      exact Or.inl ⟨[], word, rest, rfl, rfl, rfl⟩
  | cons d u =>
      rcases List.cons.inj cut with ⟨rfl, later⟩
      exact closing_cut notLast later

/-! ## Surroundings -/

/-- An element of a list stands between two characters. -/
def Stands {α : Type} (items : List α) (left : Char) (item : α) (right : Char) : Prop :=
  ∃ before after : List α, items = before ++ item :: after ∧ openChar before = left ∧
    closeChar after = right

section

variable {α : Type} {items : List α} {item : α} {left right : Char}

theorem Stands.mem (stands : Stands items left item right) : item ∈ items := by
  rcases stands with ⟨before, after, rfl, _⟩
  exact List.mem_append_right before List.mem_cons_self

/-- An element with others beside it stands in one of three surroundings. -/
theorem stands_beside_iff_mem (notAlone : items ≠ [item]) :
    Stands items '[' item ',' ∨ Stands items ',' item ',' ∨ Stands items ',' item ']' ↔
      item ∈ items := by
  constructor
  · rintro (stands | stands | stands) <;> exact stands.mem
  · intro member
    rcases List.append_of_mem member with ⟨before, after, rfl⟩
    cases before <;> cases after
    · exact absurd rfl notAlone
    · exact Or.inl ⟨_, _, rfl, rfl, rfl⟩
    · exact Or.inr (Or.inr ⟨_, _, rfl, rfl, rfl⟩)
    · exact Or.inr (Or.inl ⟨_, _, rfl, rfl, rfl⟩)

theorem stands_iff_mem :
    Stands items '[' item ']' ∨ Stands items '[' item ',' ∨ Stands items ',' item ',' ∨
      Stands items ',' item ']' ↔ item ∈ items := by
  by_cases alone : items = [item]
  · exact iff_of_true (Or.inl ⟨[], [], alone, rfl, rfl⟩) (alone ▸ List.mem_cons_self)
  · rw [stands_beside_iff_mem alone]
    exact ⟨fun stands => stands.elim Stands.mem id, Or.inr⟩

end

/-! ## Marks that show elements -/

/-- Wherever the mark stands in the text of the list, it stands around the element. -/
def Faithful (words : List (List Char)) (left : Char) (word : List Char) (right : Char) : Prop :=
  ∀ u v : List Char, bracketed words = u ++ mark left word right ++ v →
    ∃ before after : List (List Char), words = before ++ word :: after ∧
      opening before = u ++ [left] ∧ closing after = right :: v

/-- A faithful mark occurs exactly where the element has the surroundings it names. -/
theorem Faithful.infix_iff {words : List (List Char)} {left : Char} {word : List Char}
    {right : Char} (faithful : Faithful words left word right) :
    mark left word right <:+: bracketed words ↔ Stands words left word right := by
  constructor
  · rintro ⟨u, v, found⟩
    rcases faithful u v found.symm with ⟨before, after, split, opens, closes⟩
    exact ⟨before, after, split, openChar_of_opening opens, closeChar_of_closing closes⟩
  · rintro ⟨before, after, rfl, rfl, rfl⟩
    exact mark_infix_bracketed before word after

/-- In a list without repetitions an element has one place. -/
theorem split_unique {α : Type} {before after before' after' : List α} {word : α}
    (distinct : (before ++ word :: after).Nodup)
    (split : before ++ word :: after = before' ++ word :: after') :
    before = before' ∧ after = after' := by
  have notBefore : word ∉ before := fun member =>
    List.disjoint_of_nodup_append distinct member List.mem_cons_self
  have notAfter : word ∉ after := (List.nodup_middle.mp distinct).notMem ∘ List.mem_append_right _
  have same := (List.append_cons_inj_of_notMem notBefore notAfter).mp split
  exact ⟨same.1, same.2.2⟩

/-- In a list without repetitions a faithful mark occurs if it names the surroundings of the
element, and otherwise it does not. -/
theorem Faithful.infix_iff_of_distinct {before after : List (List Char)} {word : List Char}
    {left right : Char} (distinct : (before ++ word :: after).Nodup)
    (faithful : Faithful (before ++ word :: after) left word right) :
    mark left word right <:+: bracketed (before ++ word :: after) ↔
      openChar before = left ∧ closeChar after = right := by
  rw [faithful.infix_iff]
  constructor
  · rintro ⟨before', after', split, surroundings⟩
    rcases split_unique distinct split with ⟨rfl, rfl⟩
    exact surroundings
  · exact fun surroundings => ⟨before, after, rfl, surroundings⟩

/-! ## Taking one element out -/

/-- Replacing a faithful mark that shows only one place of the word changes what stands between
the two characters around it, and nothing else. -/
theorem Faithful.replaced_of_unique {before after : List (List Char)} {word u v : List Char}
    {left right : Char} (other : List Char)
    (unique : ∀ before' after' : List (List Char),
      before ++ word :: after = before' ++ word :: after' → openChar before' = left →
        closeChar after' = right → before = before')
    (faithful : Faithful (before ++ word :: after) left word right)
    (opens : opening before = u ++ [left]) (closes : closing after = right :: v) :
    Replaced (mark left word right) other (bracketed (before ++ word :: after))
      (u ++ other ++ v) := by
  have text : bracketed (before ++ word :: after) = u ++ mark left word right ++ v := by
    rw [bracketed_append_cons, opens, closes]
    simp [mark]
  rw [text]
  apply replaced_once (mark_ne_nil left word right)
  intro u' v' found
  rcases faithful u' v' (text.trans found) with ⟨before', after', split, opens', closes'⟩
  rw [← unique before' after' split (openChar_of_opening opens') (closeChar_of_closing closes'),
    opens] at opens'
  exact (List.append_inj' opens' rfl).1.symm

/-- In a list without repetitions every faithful mark shows one place. -/
theorem Faithful.replaced {before after : List (List Char)} {word u v : List Char}
    {left right : Char} (other : List Char) (distinct : (before ++ word :: after).Nodup)
    (faithful : Faithful (before ++ word :: after) left word right)
    (opens : opening before = u ++ [left]) (closes : closing after = right :: v) :
    Replaced (mark left word right) other (bracketed (before ++ word :: after))
      (u ++ other ++ v) :=
  faithful.replaced_of_unique other
    (fun _ _ split _ _ => (split_unique distinct split).1) opens closes

end Brackets
end DocumentQuery
