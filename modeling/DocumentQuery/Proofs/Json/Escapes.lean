import DocumentQuery.Json.Tree
import DocumentQuery.Proofs.Sets.PlainWords

namespace DocumentQuery
namespace Json

open Brackets

/-!
# Written strings

Inside a written string a character stands for itself, or is a letter after a backslash, or
is given by its number.  Three things follow.  The end of a written string is known without
what comes after it.  A quote inside it has a backslash before it.  A separator of a list
stands for itself alone, so that a written string may be cut there.
-/

/-- The letters that stand for a character after a backslash. -/
def escapeLetters : List Char :=
  ['"', '\\', 'b', 'f', 'n', 'r', 't']

/-- How a character is written inside a string. -/
inductive Escaped (c : Char) : List Char → Prop where
  | itself (notQuote : c ≠ '"') (notBackslash : c ≠ '\\') (visible : 0x20 ≤ c.toNat) :
      Escaped c [c]
  | letter {l : Char} (listed : l ∈ escapeLetters) (stands : escaped? l = some c) :
      Escaped c ['\\', l]
  | number (control : c.toNat < 0x20) :
      Escaped c ['\\', 'u', '0', '0', hexDigit (c.toNat / 16), hexDigit (c.toNat % 16)]

theorem escaped_escapeChar (c : Char) : Escaped c (escapeChar c) := by
  rw [escapeChar]
  by_cases quote : c = '"'
  · rw [if_pos quote, quote]
    exact Escaped.letter (by decide) rfl
  by_cases backslash : c = '\\'
  · rw [if_neg quote, if_pos backslash, backslash]
    exact Escaped.letter (by decide) rfl
  rw [if_neg quote, if_neg backslash]
  by_cases backspace : c = '\x08'
  · rw [if_pos backspace, backspace]
    exact Escaped.letter (by decide) rfl
  by_cases formFeed : c = '\x0c'
  · rw [if_neg backspace, if_pos formFeed, formFeed]
    exact Escaped.letter (by decide) rfl
  rw [if_neg backspace, if_neg formFeed]
  by_cases lineFeed : c = '\n'
  · rw [if_pos lineFeed, lineFeed]
    exact Escaped.letter (by decide) rfl
  by_cases carriageReturn : c = '\r'
  · rw [if_neg lineFeed, if_pos carriageReturn, carriageReturn]
    exact Escaped.letter (by decide) rfl
  rw [if_neg lineFeed, if_neg carriageReturn]
  by_cases tab : c = '\t'
  · rw [if_pos tab, tab]
    exact Escaped.letter (by decide) rfl
  rw [if_neg tab]
  by_cases control : c.toNat < 0x20
  · rw [if_pos control]
    exact Escaped.number control
  · rw [if_neg control]
    exact Escaped.itself quote backslash (Nat.le_of_not_lt control)

theorem hexDigit_inj : ∀ m < 16, ∀ n < 16, hexDigit m = hexDigit n → m = n := by
  decide

/-- The characters at which the text of a list is cut or ended. -/
def borders : List Char :=
  ['"', '[', ',', ']', '\x00']

theorem separator_mem_borders {c : Char} (separator : IsSeparator c) : c ∈ borders := by
  rcases separator with rfl | rfl | rfl <;> decide

theorem hexDigit_notMem_borders : ∀ n < 16, hexDigit n ∉ borders := by
  decide

theorem notMem_number {c d : Char} (control : c.toNat < 0x20) (border : d ∈ borders) :
    d ∉ ['\\', 'u', '0', '0', hexDigit (c.toNat / 16), hexDigit (c.toNat % 16)] := by
  intro member
  simp only [List.mem_cons, List.not_mem_nil, or_false] at member
  rcases member with rfl | rfl | rfl | rfl | rfl | rfl
  · exact absurd border (by decide)
  · exact absurd border (by decide)
  · exact absurd border (by decide)
  · exact absurd border (by decide)
  · exact hexDigit_notMem_borders _ (by omega) border
  · exact hexDigit_notMem_borders _ (by omega) border

namespace Escaped

variable {c d : Char} {written other r s : List Char}

/-- What is written for a character is not the beginning of what is written for another. -/
theorem eq_of_append (first : Escaped c written) (second : Escaped d other)
    (same : written ++ r = other ++ s) : c = d ∧ r = s := by
  cases first with
  | itself _ notBackslash _ =>
      cases second with
      | itself _ _ _ => exact List.cons.inj same
      | letter _ _ => exact absurd (List.cons.inj same).1 notBackslash
      | number _ => exact absurd (List.cons.inj same).1 notBackslash
  | letter listed stands =>
      cases second with
      | itself _ notBackslash _ => exact absurd (List.cons.inj same).1.symm notBackslash
      | letter _ standsToo =>
          rcases List.cons.inj (List.cons.inj same).2 with ⟨rfl, rest⟩
          exact ⟨Option.some.inj (stands.symm.trans standsToo), rest⟩
      | number _ =>
          rcases List.cons.inj (List.cons.inj same).2 with ⟨rfl, _⟩
          exact absurd listed (by decide)
  | number control =>
      cases second with
      | itself _ notBackslash _ => exact absurd (List.cons.inj same).1.symm notBackslash
      | letter listed _ =>
          rcases List.cons.inj (List.cons.inj same).2 with ⟨rfl, _⟩
          exact absurd listed (by decide)
      | number controlToo =>
          simp only [List.cons_append, List.nil_append, List.cons.injEq, true_and] at same
          rcases same with ⟨high, low, rest⟩
          have high_eq := hexDigit_inj _ (by omega) _ (by omega) high
          have low_eq := hexDigit_inj _ (by omega) _ (by omega) low
          exact ⟨Char.toNat_inj.mp (by omega), rest⟩

theorem ne_nil (escaped : Escaped c written) : written ≠ [] := by
  cases escaped <;> exact List.cons_ne_nil _ _

theorem ne_quote_cons (escaped : Escaped c written) : written ++ r ≠ '"' :: s := by
  intro same
  cases escaped with
  | itself notQuote _ _ => exact notQuote (List.cons.inj same).1
  | letter _ _ => exact absurd (List.cons.inj same).1 (by decide)
  | number _ => exact absurd (List.cons.inj same).1 (by decide)

/-- A quote in what is written for a character has a backslash before it. -/
theorem eq_backslash_of_quote (escaped : Escaped c written) (cut : written = r ++ '"' :: s) :
    r = ['\\'] := by
  have member : '"' ∈ written := by
    rw [cut]
    exact List.mem_append_right r List.mem_cons_self
  cases escaped with
  | itself notQuote _ _ => exact absurd (List.mem_singleton.mp member).symm notQuote
  | letter _ _ =>
      cases r with
      | nil => exact absurd (List.cons.inj cut).1 (by decide)
      | cons first rest =>
          rcases List.cons.inj cut with ⟨rfl, later⟩
          rw [(List.append_eq_singleton_iff.mp later.symm |>.resolve_right (by simp)).1]
  | number control => exact absurd member (notMem_number control (by decide))

/-- A separator in what is written for a character is the character itself. -/
theorem eq_of_separator (escaped : Escaped c written) (separator : IsSeparator d)
    (cut : written = r ++ d :: s) : d = c ∧ r = [] ∧ s = [] := by
  have member : d ∈ written := by
    rw [cut]
    exact List.mem_append_right r List.mem_cons_self
  cases escaped with
  | itself _ _ _ =>
      rcases List.append_eq_singleton_iff.mp cut.symm |>.resolve_right (by simp) with ⟨rfl, rest⟩
      rcases List.cons.inj rest with ⟨rfl, rfl⟩
      exact ⟨rfl, rfl, rfl⟩
  | letter listed _ =>
      rcases List.mem_pair.mp member with rfl | rfl
      · exact absurd separator (by decide)
      · rcases separator with rfl | rfl | rfl <;> exact absurd listed (by decide)
  | number control => exact absurd member (notMem_number control (separator_mem_borders separator))

theorem nonzero (escaped : Escaped c written) : '\x00' ∉ written := by
  intro member
  cases escaped with
  | itself _ _ visible =>
      rw [← List.mem_singleton.mp member] at visible
      exact absurd visible (by decide)
  | letter listed _ =>
      rcases List.mem_pair.mp member with zero | rfl
      · exact absurd zero (by decide)
      · exact absurd listed (by decide)
  | number control => exact notMem_number control (by decide) member

end Escaped

/-! ## Whole strings -/

/-- A written string ends at its second quote, whatever follows. -/
theorem escapes_inj {s t r q : List Char}
    (same : s.flatMap escapeChar ++ '"' :: r = t.flatMap escapeChar ++ '"' :: q) :
    s = t ∧ r = q := by
  induction s generalizing t with
  | nil =>
      cases t with
      | nil => exact ⟨rfl, (List.cons.inj same).2⟩
      | cons d t =>
          rw [List.flatMap_cons, List.append_assoc] at same
          exact absurd same.symm (escaped_escapeChar d).ne_quote_cons
  | cons c s inductionHypothesis =>
      rw [List.flatMap_cons, List.append_assoc] at same
      cases t with
      | nil => exact absurd same (escaped_escapeChar c).ne_quote_cons
      | cons d t =>
          rw [List.flatMap_cons, List.append_assoc] at same
          rcases (escaped_escapeChar c).eq_of_append (escaped_escapeChar d) same with ⟨rfl, later⟩
          rcases inductionHypothesis later with ⟨rfl, rest⟩
          exact ⟨rfl, rest⟩

theorem writeString_inj {s t r q : List Char} (same : writeString s ++ r = writeString t ++ q) :
    s = t ∧ r = q := by
  have later : s.flatMap escapeChar ++ ['"'] ++ r = t.flatMap escapeChar ++ ['"'] ++ q :=
    (List.cons.inj same).2
  rw [List.append_assoc, List.append_assoc] at later
  exact escapes_inj later

/-- A quote inside a written string has a backslash before it. -/
theorem exists_backslash_of_quote {s u r : List Char}
    (cut : s.flatMap escapeChar = u ++ '"' :: r) : ∃ v : List Char, u = v ++ ['\\'] := by
  induction s generalizing u with
  | nil => exact absurd cut.symm (by simp)
  | cons c s inductionHypothesis =>
      rw [List.flatMap_cons] at cut
      rcases append_cut cut with ⟨b, inside, _⟩ | ⟨a, rfl, later⟩
      · exact ⟨[], (escaped_escapeChar c).eq_backslash_of_quote inside⟩
      · rcases inductionHypothesis later with ⟨v, rfl⟩
        exact ⟨escapeChar c ++ v, (List.append_assoc _ _ _).symm⟩

/-- A separator inside a written string is one of its characters. -/
theorem exists_split_of_separator {s u r : List Char} {d : Char} (separator : IsSeparator d)
    (cut : s.flatMap escapeChar = u ++ d :: r) :
    ∃ v w : List Char, s = v ++ d :: w ∧ v.flatMap escapeChar = u ∧ w.flatMap escapeChar = r := by
  induction s generalizing u with
  | nil => exact absurd cut.symm (by simp)
  | cons c s inductionHypothesis =>
      rw [List.flatMap_cons] at cut
      rcases append_cut cut with ⟨b, inside, rest⟩ | ⟨a, rfl, later⟩
      · rcases (escaped_escapeChar c).eq_of_separator separator inside with ⟨rfl, rfl, rfl⟩
        exact ⟨[], s, rfl, rfl, rest.symm⟩
      · rcases inductionHypothesis later with ⟨v, w, rfl, rfl, rest⟩
        exact ⟨c :: v, w, rfl, rfl, rest⟩

theorem flatMap_escapeChar_eq_nil {s : List Char} (empty : s.flatMap escapeChar = []) : s = [] := by
  cases s with
  | nil => rfl
  | cons c s =>
      rw [List.flatMap_cons] at empty
      exact absurd (List.append_eq_nil_iff.mp empty).1 (escaped_escapeChar c).ne_nil

theorem escapeChar_separator {d : Char} (separator : IsSeparator d) : escapeChar d = [d] := by
  rcases separator with rfl | rfl | rfl <;> rfl

theorem nonzero_writeString (s : List Char) : '\x00' ∉ writeString s := by
  rw [writeString, List.mem_append, List.mem_cons, List.mem_flatMap]
  rintro ((quote | ⟨c, _, zero⟩) | quote)
  · exact absurd quote (by decide)
  · exact (escaped_escapeChar c).nonzero zero
  · exact absurd quote (by decide)

end Json
end DocumentQuery
