import DocumentQuery.Proofs.Text.LetterCase
import DocumentQuery.Table.Name
import Mathlib.Data.List.Basic

namespace DocumentQuery

/-!
# Names and points

No identifier contains a point.  So two identifiers with a point between them make a text that can
be taken apart in one way only, and a reference to a column is either a name without a point or is
cut at its first one.
-/

/-! ## Identifiers -/

namespace Name

/-- The small form of a name character is in ASCII, as the character is, and it is no point. -/
theorem ascii_of_isNameChar {c : Char} (isName : isNameChar c = true) :
    c.toNat < 0x80 ∧ Text.smallLatin c ≠ '.' := by
  have ranges : (65 ≤ c.toNat ∧ c.toNat ≤ 90) ∨ (97 ≤ c.toNat ∧ c.toNat ≤ 122) ∨ c.toNat = 95 ∨
      (48 ≤ c.toNat ∧ c.toNat ≤ 57) := by
    simp only [isNameChar, isFirstChar, Text.isLatinLetter, Text.isDigit, Bool.or_eq_true,
      Bool.and_eq_true, decide_eq_true_eq, or_assoc] at isName
    rcases isName with capital | small | rfl | digit
    · exact .inl capital
    · exact .inr (.inl small)
    · exact .inr (.inr (.inl rfl))
    · exact .inr (.inr (.inr digit))
  refine ⟨by omega, fun isPoint => ?_⟩
  have code := Text.toNat_smallLatin c
  rw [isPoint] at code
  change 46 = if 65 ≤ c.toNat ∧ c.toNat ≤ 90 then c.toNat + 32 else c.toNat at code
  split at code <;> omega

theorem isNameChar_of_isIdentifier {name : String} (valid : isIdentifier name = true) :
    ∀ c ∈ name.toList, isNameChar c = true := by
  rw [isIdentifier] at valid
  cases chars : name.toList with
  | nil => exact fun _ member => nomatch member
  | cons first rest =>
      rw [chars, Bool.and_eq_true] at valid
      refine List.forall_mem_cons.mpr ⟨?_, List.all_eq_true.mp valid.2⟩
      rw [isNameChar, valid.1, Bool.true_or]

theorem isIdentifier_noPoint {name : String} (valid : isIdentifier name = true) :
    '.' ∉ name.toList := fun member =>
  absurd (isNameChar_of_isIdentifier valid '.' member) (by decide)

section

variable {name : String} (valid : isIdentifier name = true)

include valid

theorem ascii_of_isIdentifier : ∀ c ∈ name.toList, c.toNat < 0x80 := fun c member =>
  (ascii_of_isNameChar (isNameChar_of_isIdentifier valid c member)).1

/-- An identifier has no point in lower case, either. -/
theorem lowercase_noPoint : '.' ∉ (Text.lowercase name).toList := by
  rw [Text.toList_lowercase (ascii_of_isIdentifier valid)]
  intro member
  rcases List.mem_map.mp member with ⟨c, member, isPoint⟩
  exact (ascii_of_isNameChar (isNameChar_of_isIdentifier valid c member)).2 isPoint

end

end Name

/-! ## Texts with a point -/

/-- A text splits in one way around the only point in it. -/
theorem append_point_inj {schema table : String} (noPoint : '.' ∉ schema.toList)
    (noPoint' : '.' ∉ table.toList) (first second : String) :
    first ++ "." ++ second = schema ++ "." ++ table ↔ first = schema ∧ second = table := by
  rw [← String.toList_inj, ← String.toList_inj, ← String.toList_inj]
  simp only [String.toList_append, List.append_assoc]
  change first.toList ++ '.' :: second.toList = schema.toList ++ '.' :: table.toList ↔ _
  rw [eq_comm, List.append_cons_inj_of_notMem noPoint noPoint']
  constructor
  · rintro ⟨schema_eq, _, table_eq⟩
    exact ⟨schema_eq.symm, table_eq.symm⟩
  · rintro ⟨schema_eq, table_eq⟩
    exact ⟨schema_eq.symm, rfl, table_eq.symm⟩

/-- A text is made of what stands before the first separator, the separator and the rest. -/
theorem Text.eq_of_splitAtFirst {separator : Char} {text before after : List Char}
    (split : splitAtFirst separator text = some (before, after)) :
    text = before ++ separator :: after ∧ separator ∉ before := by
  induction text generalizing before with
  | nil => exact nomatch split
  | cons c rest inductionHypothesis =>
      rw [splitAtFirst] at split
      by_cases found : c = separator
      · rw [if_pos found] at split
        cases split
        rw [found]
        exact ⟨rfl, List.not_mem_nil⟩
      · rw [if_neg found] at split
        rcases Option.map_eq_some_iff.mp split with ⟨⟨before', after'⟩, later, same⟩
        cases same
        rcases inductionHypothesis later with ⟨rfl, notMember⟩
        exact ⟨rfl, List.not_mem_cons_of_ne_of_not_mem (Ne.symm found) notMember⟩

theorem Text.notMem_of_splitAtFirst {separator : Char} {text : List Char}
    (whole : splitAtFirst separator text = none) : separator ∉ text := by
  induction text with
  | nil => exact List.not_mem_nil
  | cons c rest inductionHypothesis =>
      rw [splitAtFirst] at whole
      by_cases found : c = separator
      · rw [if_pos found] at whole
        exact nomatch whole
      · rw [if_neg found, Option.map_eq_none_iff] at whole
        exact List.not_mem_cons_of_ne_of_not_mem (Ne.symm found) (inductionHypothesis whole)

theorem Text.splitAtFirst_append {separator : Char} {before : List Char}
    (notMember : separator ∉ before) (after : List Char) :
    splitAtFirst separator (before ++ separator :: after) = some (before, after) := by
  induction before with
  | nil => rw [List.nil_append, splitAtFirst, if_pos rfl]
  | cons c rest inductionHypothesis =>
      rw [List.mem_cons, not_or] at notMember
      rw [List.cons_append, splitAtFirst, if_neg (Ne.symm notMember.1),
        inductionHypothesis notMember.2, Option.map_some]

/-- A reference is a text without a point, or a qualifier without one and what comes after the
point. -/
theorem Reference.ofText_cases (text : String) :
    (ofText text = ⟨none, text⟩ ∧ '.' ∉ text.toList) ∨
      ∃ qualifier column : String, ofText text = ⟨some qualifier, column⟩ ∧
        text = qualifier ++ "." ++ column ∧ '.' ∉ qualifier.toList := by
  rw [ofText]
  split
  · rename_i before after split
    rcases Text.eq_of_splitAtFirst split with ⟨text_eq, notMember⟩
    refine .inr ⟨String.ofList before, String.ofList after, rfl, ?_, ?_⟩
    · apply String.toList_injective
      simp [text_eq]
    · rwa [String.toList_ofList]
  · rename_i whole
    exact .inl ⟨rfl, Text.notMem_of_splitAtFirst whole⟩

theorem Reference.ofText_bare {text : String} (noPoint : '.' ∉ text.toList) :
    ofText text = ⟨none, text⟩ := by
  rcases ofText_cases text with ⟨whole, _⟩ | ⟨qualifier, column, _, text_eq, _⟩
  · exact whole
  · rw [text_eq] at noPoint
    simp at noPoint

theorem Reference.ofText_qualified {qualifier : String} (noPoint : '.' ∉ qualifier.toList)
    (column : String) : ofText (qualifier ++ "." ++ column) = ⟨some qualifier, column⟩ := by
  have chars : (qualifier ++ "." ++ column).toList = qualifier.toList ++ '.' :: column.toList := by
    simp
  simp only [ofText, chars, Text.splitAtFirst_append noPoint, String.ofList_toList]

theorem Reference.eq_of_bare {text column : String} (bare : ofText text = ⟨none, column⟩) :
    text = column := by
  rcases ofText_cases text with ⟨whole, _⟩ | ⟨_, _, cut, _, _⟩
  · exact congrArg Reference.column (whole.symm.trans bare)
  · exact nomatch congrArg Reference.qualifier (cut.symm.trans bare)

theorem Reference.eq_of_qualified {text qualifier column : String}
    (qualified : ofText text = ⟨some qualifier, column⟩) :
    text = qualifier ++ "." ++ column ∧ '.' ∉ qualifier.toList := by
  rcases ofText_cases text with ⟨whole, _⟩ | ⟨_, _, cut, text_eq, noPoint⟩
  · exact nomatch congrArg Reference.qualifier (whole.symm.trans qualified)
  · cases cut.symm.trans qualified
    exact ⟨text_eq, noPoint⟩

end DocumentQuery
