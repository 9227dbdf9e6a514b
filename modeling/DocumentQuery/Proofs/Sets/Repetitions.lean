import DocumentQuery.Proofs.Sets.PlainWords

namespace DocumentQuery

/-!
# Removal from lists with repetitions

A set column keeps the list that it is given, and that list may hold an element more than once.
Removal looks at the positions of an element in turn and replaces the marks of one of them only.  At
the front or at the end that is one mark.  Between commas all marks are replaced, but a comma
belongs to one mark, so of two equal neighbours the second keeps its place.

The list that is left is described here, and from it which elements outlast their removal: those
that are there more than once, with one of them first, last or next to another.  In a list without
repetitions there are none.
-/

/-! ## Lists -/

section

variable {α : Type} [DecidableEq α]

/-- The items after the first one, without those that stand between two commas which belong to no
other of them.  An item that is left out takes the comma behind it along. -/
def thinned (item : α) : List α → List α
  | [] => []
  | [last] => [last]
  | first :: next :: rest =>
    if first = item then next :: thinned item rest else first :: thinned item (next :: rest)

/-- What removal leaves of a list. -/
def withoutMark (item : α) : List α → List α
  | [] => []
  | first :: rest =>
    if first = item then rest
    else if item ∈ rest.dropLast then first :: thinned item rest
    else if rest.getLast? = some item then first :: rest.dropLast
    else first :: rest

/-- The item is left in the list when it has been removed once. -/
structure Outlasts (item : α) (items : List α) : Prop where
  repeated : 2 ≤ items.count item
  exposed : items.head? = some item ∨ items.getLast? = some item ∨ [item, item] <:+: items

variable {item : α} {items : List α}

theorem thinned_sublist (item : α) (items : List α) : (thinned item items).Sublist items := by
  fun_induction thinned item items with
  | case1 => exact List.Sublist.refl []
  | case2 last => exact List.Sublist.refl [last]
  | case3 next rest inductionHypothesis => exact (inductionHypothesis.cons_cons next).cons item
  | case4 first next rest other inductionHypothesis => exact inductionHypothesis.cons_cons first

theorem withoutMark_sublist (item : α) (items : List α) :
    (withoutMark item items).Sublist items := by
  cases items with
  | nil => exact List.Sublist.refl []
  | cons first rest =>
      rw [withoutMark]
      split
      · exact List.sublist_cons_self first rest
      · split
        · exact (thinned_sublist item rest).cons_cons first
        · split
          · exact (List.dropLast_sublist rest).cons_cons first
          · exact List.Sublist.refl _

/-- Of the items after the first one the last stays, and the second of two equal neighbours. -/
theorem mem_thinned_iff :
    item ∈ thinned item items ↔ items.getLast? = some item ∨ [item, item] <:+: items := by
  fun_induction thinned item items with
  | case1 => simp
  | case2 last =>
      have short : ¬ [item, item] <:+: [last] := fun found => by
        have lengths := found.length_le
        simp at lengths
      simp [short, eq_comm]
  | case3 next rest inductionHypothesis =>
      have last_iff : (next :: rest).getLast? = some item ↔
          rest = [] ∧ item = next ∨ rest.getLast? = some item := by
        cases rest with
        | nil => simp [eq_comm]
        | cons second others => simp
      have beside_iff : [item, item] <:+: item :: next :: rest ↔
          item = next ∨ [item, item] <:+: rest := by
        rw [List.infix_cons_iff, List.infix_cons_iff, List.cons_prefix_cons, List.cons_prefix_cons,
          List.cons_prefix_cons]
        simp only [List.nil_prefix, true_and, and_true]
        grind
      rw [List.mem_cons, inductionHypothesis, List.getLast?_cons_cons, last_iff, beside_iff]
      constructor
      · rintro (same | last | beside)
        · exact .inr (.inl same)
        · exact .inl (.inr last)
        · exact .inr (.inr beside)
      · rintro ((⟨_, same⟩ | last) | same | beside)
        · exact .inl same
        · exact .inr (.inl last)
        · exact .inl same
        · exact .inr (.inr beside)
  | case4 first next rest other inductionHypothesis =>
      have notHere : ¬ [item, item] <+: first :: next :: rest := fun starts =>
        other (List.cons_prefix_cons.mp starts).1.symm
      have beside_iff : [item, item] <:+: first :: next :: rest ↔
          [item, item] <:+: next :: rest := by
        rw [List.infix_cons_iff]
        exact or_iff_right notHere
      rw [List.mem_cons, inductionHypothesis, List.getLast?_cons_cons, beside_iff]
      exact or_iff_right (Ne.symm other)

/-- Behind another item, the item outlasts its removal if it stands before the last one and is the
last one or has itself for a neighbour. -/
theorem outlasts_cons_iff {first : α} {rest : List α} (other : first ≠ item) :
    Outlasts item (first :: rest) ↔
      item ∈ rest.dropLast ∧ (rest.getLast? = some item ∨ [item, item] <:+: rest) := by
  have exposed_iff : (first :: rest).head? = some item ∨ (first :: rest).getLast? = some item ∨
      [item, item] <:+: first :: rest ↔
        rest.getLast? = some item ∨ [item, item] <:+: rest := by
    have notHere : ¬ [item, item] <+: first :: rest := fun starts =>
      other (List.cons_prefix_cons.mp starts).1.symm
    rw [List.infix_cons_iff, List.head?_cons, Option.some_inj]
    cases rest with
    | nil => simp [other, notHere]
    | cons next others => simp [other, notHere]
  have count_eq : (first :: rest).count item = rest.count item := List.count_cons_of_ne other
  constructor
  · rintro ⟨repeated, exposed⟩
    refine ⟨?_, exposed_iff.mp exposed⟩
    rw [count_eq] at repeated
    rcases List.eq_nil_or_concat rest with rfl | ⟨before, last, rfl⟩
    · simp at repeated
    · rw [List.concat_eq_append, List.dropLast_concat, ← List.count_pos_iff]
      rw [List.concat_eq_append, List.count_append, List.count_singleton] at repeated
      split at repeated <;> omega
  · rintro ⟨earlier, exposed⟩
    refine ⟨?_, exposed_iff.mpr exposed⟩
    rw [count_eq]
    rcases exposed with last | beside
    · rw [← List.dropLast_append_getLast? item last, List.count_append, List.count_singleton_self]
      have positive := List.count_pos_iff.mpr earlier
      omega
    · have twice := beside.sublist.count_le item
      simpa using twice

/-- What is left of the item itself. -/
theorem mem_withoutMark_iff : item ∈ withoutMark item items ↔ Outlasts item items := by
  cases items with
  | nil => exact iff_of_false List.not_mem_nil fun left => absurd left.repeated (by simp)
  | cons first rest =>
      rw [withoutMark]
      by_cases here : first = item
      · subst here
        rw [if_pos rfl]
        constructor
        · intro later
          have positive := List.count_pos_iff.mpr later
          exact ⟨by rw [List.count_cons_self]; omega, .inl rfl⟩
        · intro left
          have repeated := left.repeated
          rw [List.count_cons_self] at repeated
          exact List.count_pos_iff.mp (by omega)
      · rw [if_neg here, outlasts_cons_iff here]
        have notFirst : item ≠ first := Ne.symm here
        by_cases earlier : item ∈ rest.dropLast
        · rw [if_pos earlier, List.mem_cons, mem_thinned_iff]
          simp [notFirst, earlier]
        · rw [if_neg earlier]
          refine iff_of_false (fun left => ?_) fun both => earlier both.1
          by_cases last : rest.getLast? = some item
          · rw [if_pos last] at left
            exact earlier ((List.mem_cons.mp left).resolve_left notFirst)
          · rw [if_neg last] at left
            have member := (List.mem_cons.mp left).resolve_left notFirst
            exact earlier (List.mem_dropLast_of_mem_of_ne_getLast? member (Ne.symm last))

/-- Nothing outlasts its removal from a list without repetitions. -/
theorem not_outlasts_of_nodup (distinct : items.Nodup) : ¬ Outlasts item items := fun left => by
  have once := List.nodup_iff_count_le_one.mp distinct item
  have repeated := left.repeated
  omega

end

/-! ## Their images -/

section

variable {α β : Type} [DecidableEq α] [DecidableEq β] {f : α → β}
  (injective : Function.Injective f) (item : α) (items : List α)
include injective

theorem map_thinned : thinned (f item) (items.map f) = (thinned item items).map f := by
  fun_induction thinned item items with
  | case1 => rfl
  | case2 last => rfl
  | case3 next rest inductionHypothesis =>
      rw [List.map_cons, List.map_cons, thinned, if_pos rfl, inductionHypothesis, List.map_cons]
  | case4 first next rest other inductionHypothesis =>
      rw [List.map_cons, List.map_cons, thinned, if_neg (injective.ne other), ← List.map_cons,
        inductionHypothesis, List.map_cons]

theorem map_withoutMark :
    withoutMark (f item) (items.map f) = (withoutMark item items).map f := by
  cases items with
  | nil => rfl
  | cons first rest =>
      simp only [List.map_cons, withoutMark, injective.eq_iff, map_thinned injective,
        ← List.map_dropLast, List.mem_map_of_injective injective, List.getLast?_map,
        Option.map_eq_some_iff, exists_eq_right, apply_ite (List.map f)]

end

/-! ## Their texts -/

namespace Brackets

open Sql

theorem Plain.free {word : List Char} (plain : Plain word) {c : Char} (separator : IsSeparator c) :
    c ∉ word := fun member => plain.notSeparator c member separator

section

variable {word : List Char} (plain : Plain word)

include plain

/-- Between commas, replacing the marks of a word thins the list. -/
theorem replaced_thinned {first : List Char} {words : List (List Char)} (firstPlain : Plain first)
    (plainWords : ∀ other ∈ words, Plain other) :
    Replaced (mark ',' word ',') [','] (first ++ closing words)
      (first ++ closing (thinned word words)) := by
  have comma : IsSeparator ',' := .inr (.inl rfl)
  -- a mark has two commas
  have twice {s : List Char} (few : s.count ',' ≤ 1) : ¬ mark ',' word ',' <:+: s := fun found => by
    have commas := found.sublist.count_le ','
    simp only [mark, List.cons_append, List.count_cons_self, List.count_append] at commas
    omega
  fun_induction thinned word words generalizing first with
  | case1 =>
      apply Replaced.absent
      apply twice
      simp [closing, List.count_eq_zero.mpr (firstPlain.free comma)]
  | case2 last =>
      have lastPlain := plainWords last List.mem_cons_self
      apply Replaced.absent
      apply twice
      simp [closing, List.count_eq_zero.mpr (firstPlain.free comma),
        List.count_eq_zero.mpr (lastPlain.free comma)]
  | case3 next rest inductionHypothesis =>
      have nextPlain := plainWords next (by simp)
      have later := inductionHypothesis nextPlain fun other member => plainWords other (by simp [member])
      have replaced := (later.start).append (firstPlain.free comma)
      simpa [closing_cons, mark] using replaced
  | case4 second next rest other inductionHypothesis =>
      have secondPlain := plainWords second List.mem_cons_self
      have later := inductionHypothesis secondPlain fun other member =>
        plainWords other (List.mem_cons_of_mem second member)
      have notHere : ¬ mark ',' word ',' <+: ',' :: (second ++ closing (next :: rest)) := by
        rintro ⟨v, starts⟩
        have same : word ++ ',' :: v = second ++ ',' :: (next ++ closing rest) := by
          simpa [mark, closing_cons] using starts
        exact other (plain.eq_of_append secondPlain comma comma same).1.symm
      have replaced := (later.cons notHere).append (firstPlain.free comma)
      rw [closing_cons second, closing_cons second]
      exact replaced

end

section

variable {α : Type} {first item : α} {rest : List α}

theorem stands_first_iff : Stands (first :: rest) '[' item ',' ↔ first = item ∧ rest ≠ [] := by
  constructor
  · rintro ⟨before, after, split, opened, closed⟩
    rw [openChar_eq_bracket_iff.mp opened] at split
    rcases List.cons.inj split with ⟨rfl, rfl⟩
    exact ⟨rfl, closeChar_eq_comma_iff.mp closed⟩
  · rintro ⟨rfl, nonempty⟩
    rcases List.exists_cons_of_ne_nil nonempty with ⟨next, others, rfl⟩
    exact ⟨[], next :: others, rfl, rfl, rfl⟩

theorem stands_middle_iff : Stands (first :: rest) ',' item ',' ↔ item ∈ rest.dropLast := by
  constructor
  · rintro ⟨before, after, split, opened, closed⟩
    rcases List.exists_cons_of_ne_nil (openChar_eq_comma_iff.mp opened) with ⟨_, before, rfl⟩
    have nonempty := closeChar_eq_comma_iff.mp closed
    have rest_eq : rest = before ++ item :: after := (List.cons.inj split).2
    rw [rest_eq, List.dropLast_append_cons, List.dropLast_cons_of_ne_nil nonempty]
    exact List.mem_append_right before List.mem_cons_self
  · intro member
    rcases List.append_of_mem member with ⟨before, after, split⟩
    rcases List.eq_nil_or_concat rest with rfl | ⟨earlier, last, rfl⟩
    · exact absurd member List.not_mem_nil
    · rw [List.concat_eq_append, List.dropLast_concat] at split
      refine ⟨first :: before, after ++ [last], ?_, rfl, closeChar_eq_comma_iff.mpr ?_⟩
      · rw [List.concat_eq_append, split]
        simp
      · exact List.append_ne_nil_of_right_ne_nil after (List.cons_ne_nil last [])

theorem stands_last_iff : Stands (first :: rest) ',' item ']' ↔ rest.getLast? = some item := by
  rw [List.getLast?_eq_some_iff]
  constructor
  · rintro ⟨before, after, split, opened, closed⟩
    rcases List.exists_cons_of_ne_nil (openChar_eq_comma_iff.mp opened) with ⟨_, before, rfl⟩
    rw [closeChar_eq_bracket_iff.mp closed] at split
    exact ⟨before, (List.cons.inj split).2⟩
  · rintro ⟨before, rfl⟩
    exact ⟨first :: before, [], rfl, rfl, rfl⟩

end

/-- Removal of a plain word from a list of plain words, repeated or not. -/
theorem removed_of_plain {words : List (List Char)} {word : List Char} (plain : Plain word)
    (plainWords : ∀ other ∈ words, Plain other) :
    Removed word (bracketed words) (bracketed (withoutMark word words)) := by
  have legible := legible_of_plain plainWords plain
  cases words with
  | nil => exact Removed.alone (.inl rfl)
  | cons first rest =>
      by_cases alone : first :: rest = [word]
      · rcases List.cons.inj alone with ⟨rfl, rfl⟩
        rw [withoutMark, if_pos rfl]
        exact Removed.alone (.inr rfl)
      · have notAlone : ¬ Alone word (bracketed (first :: rest)) := by
          rw [legible.alone_iff]
          exact not_or.mpr ⟨List.cons_ne_nil first rest, alone⟩
        have first_iff := legible.first.infix_iff.trans stands_first_iff
        have middle_iff := legible.middle.infix_iff.trans stands_middle_iff
        have last_iff := legible.last.infix_iff.trans stands_last_iff
        rw [withoutMark]
        by_cases here : first = word
        · subst here
          have others : rest ≠ [] := fun empty => alone (by rw [empty])
          rcases List.exists_cons_of_ne_nil others with ⟨next, later, rfl⟩
          rw [if_pos rfl]
          exact Removed.first notAlone (first_iff.mpr ⟨rfl, others⟩) legible.first.replaced_first
        · have notFirst := mt first_iff.mp fun both => here both.1
          rw [if_neg here]
          by_cases earlier : word ∈ rest.dropLast
          · rw [if_pos earlier]
            apply Removed.middle notAlone notFirst (middle_iff.mpr earlier)
            have firstPlain := plainWords first List.mem_cons_self
            have thin := replaced_thinned plain firstPlain fun other member =>
              plainWords other (List.mem_cons_of_mem first member)
            have notHere : ¬ mark ',' word ',' <+: '[' :: (first ++ closing rest) := fun starts =>
              absurd (List.cons_prefix_cons.mp starts).1 (by decide)
            exact thin.cons notHere
          · have notMiddle := mt middle_iff.mp earlier
            rw [if_neg earlier]
            by_cases last : rest.getLast? = some word
            · rw [if_pos last]
              rcases List.getLast?_eq_some_iff.mp last with ⟨before, rfl⟩
              rw [List.dropLast_concat]
              apply Removed.last notAlone notFirst notMiddle (last_iff.mpr last)
              exact legible.last.replaced_last (List.cons_ne_nil first before)
            · rw [if_neg last]
              apply Removed.missing notAlone
              rintro (found | found | found)
              · exact notFirst found
              · exact notMiddle found
              · exact last (last_iff.mp found)

end Brackets
end DocumentQuery
