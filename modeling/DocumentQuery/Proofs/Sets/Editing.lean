import DocumentQuery.Proofs.Sets.Positions

namespace DocumentQuery
namespace Brackets

open Sql

/-!
# Editing a list through its text

Where the marks of a word are faithful, what membership and editing do to the text of a
list is what they should do to the list: a mark is found exactly if the word is in the
list, insertion adds a missing word at the end, and removal takes a word out and keeps the
order of the others.
-/

/-- The three marks of a word next to another element show where it is, and so does the
text of the word alone. -/
structure Legible (words : List (List Char)) (word : List Char) : Prop where
  nonempty : [] ∉ words
  alone : bracketed words = mark '[' word ']' → words = [word]
  first : Faithful words '[' word ','
  middle : Faithful words ',' word ','
  last : Faithful words ',' word ']'

variable {words : List (List Char)} {word : List Char}

theorem bracketed_ne_nil (words : List (List Char)) : bracketed words ≠ [] := by
  cases words <;> exact List.cons_ne_nil _ _

theorem bracketed_eq_empty_iff (nonempty : [] ∉ words) :
    bracketed words = ['[', ']'] ↔ words = [] := by
  constructor
  · intro text
    cases words with
    | nil => rfl
    | cons first rest =>
        cases first with
        | nil => exact absurd List.mem_cons_self nonempty
        | cons c others =>
            have lengths := congrArg List.length text
            simp [bracketed, closing] at lengths
  · rintro rfl
    rfl

/-- The marks are found exactly if the word is in the list. -/
theorem found_iff_mem (only : Faithful words '[' word ']') (first : Faithful words '[' word ',')
    (middle : Faithful words ',' word ',') (last : Faithful words ',' word ']') :
    Found word (bracketed words) ↔ word ∈ words := by
  rw [Found, only.infix_iff, first.infix_iff, middle.infix_iff, last.infix_iff, stands_iff_mem]

/-- The text is that of the word alone exactly in these two lists. -/
theorem alone_iff (nonempty : [] ∉ words)
    (only : bracketed words = mark '[' word ']' → words = [word]) :
    Alone word (bracketed words) ↔ words = [] ∨ words = [word] := by
  rw [Alone, bracketed_eq_empty_iff nonempty]
  refine or_congr_right ⟨only, ?_⟩
  rintro rfl
  rfl

theorem Legible.alone_iff (legible : Legible words word) :
    Alone word (bracketed words) ↔ words = [] ∨ words = [word] :=
  Brackets.alone_iff legible.nonempty legible.alone

/-- In a list with other elements, a mark next to one of them shows the word. -/
theorem Legible.foundBeside_iff (legible : Legible words word) (notAlone : words ≠ [word]) :
    FoundBeside word (bracketed words) ↔ word ∈ words := by
  rw [FoundBeside, legible.first.infix_iff, legible.middle.infix_iff, legible.last.infix_iff,
    stands_beside_iff_mem notAlone]

theorem bracketed_append_word (nonempty : words ≠ []) (word : List Char) :
    (bracketed words).dropLast ++ ',' :: word ++ [']'] = bracketed (words ++ [word]) := by
  rcases List.eq_nil_or_concat words |>.resolve_left nonempty with ⟨before, last, rfl⟩
  rw [List.concat_eq_append, bracketed_append_singleton, List.dropLast_concat,
    bracketed_append_singleton, opening_append_singleton]
  simp

theorem not_foundBeside_nil (word : List Char) : ¬ FoundBeside word (bracketed []) := by
  have comma : ',' ∉ bracketed [] := by decide
  rintro (found | found | found)
  · exact comma (found.subset (by simp [mark]))
  · exact comma (found.subset (by simp [mark]))
  · exact comma (found.subset (by simp [mark]))

/-- Insertion adds the word at the end unless a mark next to another element shows it. -/
theorem inserted_of_foundBeside (nonempty : [] ∉ words)
    (only : bracketed words = mark '[' word ']' → words = [word]) {shown : Prop}
    [Decidable shown] (single : words = [word] → shown)
    (shown_iff : words ≠ [word] → (FoundBeside word (bracketed words) ↔ shown)) :
    Inserted word (bracketed words) (bracketed (if shown then words else words ++ [word])) := by
  by_cases alone : words = [] ∨ words = [word]
  · have outcome := Inserted.alone ((alone_iff nonempty only).mpr alone)
    rcases alone with rfl | rfl
    · have notShown := mt (shown_iff (List.cons_ne_nil word []).symm).mpr (not_foundBeside_nil word)
      rwa [if_neg notShown]
    · rwa [if_pos (single rfl)]
  · have notAlone := mt (alone_iff nonempty only).mp alone
    have shows := shown_iff (mt Or.inr alone)
    by_cases holds : shown
    · rw [if_pos holds]
      exact Inserted.found notAlone (shows.mpr holds)
    · rw [if_neg holds, ← bracketed_append_word (mt Or.inl alone)]
      exact Inserted.missing notAlone (mt shows.mp holds)

/-- Insertion adds a missing word at the end. -/
theorem Legible.inserted (legible : Legible words word) :
    Inserted word (bracketed words)
      (bracketed (if word ∈ words then words else words ++ [word])) :=
  inserted_of_foundBeside legible.nonempty legible.alone
    (fun single => single ▸ List.mem_cons_self) legible.foundBeside_iff

/-! ## Replacing a mark takes the word out -/

/-- A word has one place at the first bracket, repeated or not. -/
theorem Faithful.replaced_first {next : List Char} {later : List (List Char)}
    (faithful : Faithful (word :: next :: later) '[' word ',') :
    Replaced (mark '[' word ',') ['['] (bracketed (word :: next :: later))
      (bracketed (next :: later)) := by
  have opens : opening [] = [] ++ ['['] := rfl
  refine Faithful.replaced_of_unique ['['] ?_ faithful opens (closing_cons next later)
  intro before _ _ opened _
  exact (openChar_eq_bracket_iff.mp opened).symm

theorem Faithful.replaced_middle {before : List (List Char)} {next : List Char}
    {later : List (List Char)} (nonempty : before ≠ [])
    (distinct : (before ++ word :: next :: later).Nodup)
    (faithful : Faithful (before ++ word :: next :: later) ',' word ',') :
    Replaced (mark ',' word ',') [','] (bracketed (before ++ word :: next :: later))
      (bracketed (before ++ next :: later)) := by
  rcases opening_eq before with ⟨u, opens⟩
  rw [openChar_of_ne_nil nonempty] at opens
  have outcome := faithful.replaced [','] distinct opens (closing_cons next later)
  rw [bracketed_append_cons before next later, opens, List.append_assoc _ next]
  exact outcome

/-- A word has one place at the last bracket, repeated or not. -/
theorem Faithful.replaced_last {before : List (List Char)} (nonempty : before ≠ [])
    (faithful : Faithful (before ++ [word]) ',' word ']') :
    Replaced (mark ',' word ']') [']'] (bracketed (before ++ [word])) (bracketed before) := by
  have unique (before' after' : List (List Char)) (split : before ++ [word] = before' ++ word :: after')
      (_ : openChar before' = ',') (closed : closeChar after' = ']') : before = before' := by
    rw [closeChar_eq_bracket_iff.mp closed] at split
    exact List.append_cancel_right split
  rcases opening_eq before with ⟨u, opens⟩
  rw [openChar_of_ne_nil nonempty] at opens
  have outcome := faithful.replaced_of_unique [']'] unique opens (v := []) rfl
  rw [List.append_nil] at outcome
  rwa [bracketed_of_opening nonempty opens]

/-- In a list of two words or more, the first mark that occurs is the one around the word. -/
private theorem Legible.removed_member {before after : List (List Char)}
    (legible : Legible (before ++ word :: after) word)
    (distinct : (before ++ word :: after).Nodup)
    (notAlone : ¬ Alone word (bracketed (before ++ word :: after)))
    (others : before ++ after ≠ []) :
    Removed word (bracketed (before ++ word :: after)) (bracketed (before ++ after)) := by
  have first_iff := legible.first.infix_iff_of_distinct distinct
  have middle_iff := legible.middle.infix_iff_of_distinct distinct
  have last_iff := legible.last.infix_iff_of_distinct distinct
  by_cases beforeEmpty : before = []
  · subst beforeEmpty
    rcases List.exists_cons_of_ne_nil others with ⟨next, later, rfl⟩
    exact Removed.first notAlone (first_iff.mpr ⟨rfl, rfl⟩) legible.first.replaced_first
  · have opens := openChar_of_ne_nil beforeEmpty
    have notFirst : ¬ mark '[' word ',' <:+: bracketed (before ++ word :: after) := by
      rw [first_iff, opens]
      exact fun surroundings => absurd surroundings.1 (by decide)
    cases after with
    | nil =>
        have notMiddle : ¬ mark ',' word ',' <:+: bracketed (before ++ [word]) := by
          rw [middle_iff]
          exact fun surroundings => absurd surroundings.2 (by decide)
        rw [List.append_nil]
        exact Removed.last notAlone notFirst notMiddle (last_iff.mpr ⟨opens, rfl⟩)
          (legible.last.replaced_last beforeEmpty)
    | cons next later =>
        exact Removed.middle notAlone notFirst (middle_iff.mpr ⟨opens, rfl⟩)
          (legible.middle.replaced_middle beforeEmpty distinct)

/-- Removal takes the word out of a list without repetitions. -/
theorem Legible.removed (legible : Legible words word) (distinct : words.Nodup) :
    Removed word (bracketed words) (bracketed (words.erase word)) := by
  by_cases alone : words = [] ∨ words = [word]
  · have outcome := Removed.alone (legible.alone_iff.mpr alone)
    rcases alone with rfl | rfl
    · exact outcome
    · rwa [List.erase_cons_head]
  · have notAlone := mt legible.alone_iff.mp alone
    by_cases member : word ∈ words
    · rcases List.append_of_mem member with ⟨before, after, rfl⟩
      have notBefore : word ∉ before := fun earlier =>
        List.disjoint_of_nodup_append distinct earlier List.mem_cons_self
      rw [List.erase_append_right _ notBefore, List.erase_cons_head]
      refine legible.removed_member distinct notAlone fun nothing => alone (Or.inr ?_)
      rcases List.append_eq_nil_iff.mp nothing with ⟨rfl, rfl⟩
      rfl
    · rw [List.erase_of_not_mem member]
      exact Removed.missing notAlone
        (mt (legible.foundBeside_iff (mt Or.inr alone)).mp member)

end Brackets
end DocumentQuery
