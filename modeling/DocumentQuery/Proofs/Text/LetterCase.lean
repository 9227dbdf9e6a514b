import DocumentQuery.Text.LetterCase

namespace DocumentQuery
namespace Text

/-!
# Lower case of lower case

The lower case of a text is in lower case: taking it again changes nothing.  So two texts that are
the same without regard to case have one form, and that form can be compared with any other.

Each character becomes small characters, which have no smaller form.  For the letters in the table
this is checked run by run, as the small letters of a run lie apart from every run of capitals.
-/

theorem toNat_ofNat {n : Nat} (valid : n.isValidChar) : (Char.ofNat n).toNat = n := by
  rw [Char.ofNat, dif_pos valid]
  rfl

/-- A run of code points, as it stands in the table of capitals. -/
abbrev Run := Nat × Nat × Nat × Int

/-- The code point is in the run. -/
def inRun (n : Nat) : Run → Bool
  | (first, last, step, _) => decide (first ≤ n) && decide (n ≤ last) && (n - first) % step == 0

/-- All characters that have a smaller form, apart from the Greek sigma, which is in the table. -/
def capitals : List Run :=
  ('A'.toNat, 'Z'.toNat, 1, 32) :: (0x130, 0x130, 1, 0) :: capitalRuns

/-- Code points from `first` to `last` with a step between them lie apart from a run: before it,
behind it, or always between two of its code points. -/
def liesApart (first last step : Nat) (run : Run) : Bool :=
  Nat.blt last run.1 || (Nat.blt run.2.1 first || (Nat.beq run.2.2.1 2 &&
    ((Nat.beq step 2 || Nat.beq first last) && Nat.beq ((first + run.1) % 2) 1)))

theorem not_inRun {first last step k : Nat} {run : Run} (apart : liesApart first last step run = true)
    (bounded : first + k * step ≤ last) : inRun (first + k * step) run = false := by
  rcases run with ⟨first', last', step', distance⟩
  simp only [liesApart, Bool.or_eq_true, Bool.and_eq_true, Nat.blt_eq, Nat.beq_eq] at apart
  rw [Bool.eq_false_iff]
  intro inside
  simp only [inRun, Bool.and_eq_true, decide_eq_true_eq, beq_iff_eq] at inside
  rcases inside with ⟨⟨notBefore, notBehind⟩, onStep⟩
  rcases apart with before | behind | ⟨rfl, rfl | rfl, odd⟩
  · omega
  · omega
  · omega
  · -- A run of one code point has no other element.
    have alone : k * step = 0 := by omega
    rw [alone] at onStep notBefore
    omega

/-- The small letters of a run are characters, and lie apart from all capitals. -/
def isSettled : Run → Bool
  | (first, last, step, distance) =>
    let smallFirst := ((first : Int) + distance).toNat
    let smallLast := ((last : Int) + distance).toNat
    decide (0x80 ≤ first) && decide (0 ≤ (first : Int) + distance) &&
      (decide (smallLast < 0xD800) || decide (0xDFFF < smallFirst) && decide (smallLast < 0x110000)) &&
      capitals.all (liesApart smallFirst smallLast step)

theorem isSettled_capitalRuns : ∀ run ∈ capitalRuns, isSettled run = true := by
  have all : capitalRuns.all isSettled = true := by decide +kernel
  exact List.all_eq_true.mp all

/-! ## Small characters -/

/-- A character without a smaller form. -/
structure Small (c : Char) : Prop where
  notDotted : c ≠ '\u0130'
  notSigma : c ≠ '\u03a3'
  smallLetter_eq : smallLetter c = c

/-- Beyond ASCII the small letter is found in the table. -/
theorem smallLetter_of_not_latin {c : Char} (notLatin : ¬ c.toNat < 0x80) :
    smallLetter c = match capitalRuns.find? (inRun c.toNat) with
      | some (_, _, _, distance) => Char.ofNat ((c.toNat : Int) + distance).toNat
      | none => c := by
  rw [smallLetter, if_neg notLatin]
  rfl

theorem small_of_not_inRun {c : Char} (apart : ∀ run ∈ capitals, inRun c.toNat run = false) :
    Small c where
  notDotted := by
    rintro rfl
    exact absurd (apart (0x130, 0x130, 1, 0) (by decide)) (by decide)
  notSigma := by
    rintro rfl
    exact absurd (apart (0x3A3, 0x3AB, 1, 32) (by decide)) (by decide)
  smallLetter_eq := by
    have notCapital := apart ('A'.toNat, 'Z'.toNat, 1, 32) List.mem_cons_self
    have notFound : capitalRuns.find? (inRun c.toNat) = none := by
      refine List.find?_eq_none.mpr fun run member => Bool.not_eq_true _ ▸ apart run ?_
      exact List.mem_cons_of_mem _ (List.mem_cons_of_mem _ member)
    by_cases latin : c.toNat < 0x80
    · rw [smallLetter, if_pos latin, smallLatin, if_neg]
      intro isCapital
      simp only [Bool.and_eq_true, decide_eq_true_eq, Char.le_def, UInt32.le_iff_toNat_le]
        at isCapital
      simp only [inRun, Nat.mod_one, beq_self_eq_true, Bool.and_true, Bool.and_eq_false_iff,
        decide_eq_false_iff_not] at notCapital
      exact notCapital.elim (fun low => low isCapital.1) fun high => high isCapital.2
    · rw [smallLetter_of_not_latin latin, notFound]

/-- A code point below the table that is no Latin capital is in no run. -/
theorem not_inRun_of_latin {n : Nat} (latin : n < 0x80) (notCapital : n < 'A'.toNat ∨ 'Z'.toNat < n) :
    ∀ run ∈ capitals, inRun n run = false := by
  intro run member
  rcases run with ⟨first, last, step, distance⟩
  have outside : n < first ∨ last < n := by
    rcases List.mem_cons.mp member with same | member
    · cases same
      exact notCapital
    · rcases List.mem_cons.mp member with same | member
      · cases same
        omega
      · have settled := isSettled_capitalRuns _ member
        simp only [isSettled, Bool.and_eq_true, decide_eq_true_eq] at settled
        omega
  rw [inRun, Bool.and_eq_false_iff, Bool.and_eq_false_iff, decide_eq_false_iff_not,
    decide_eq_false_iff_not]
  omega

theorem toNat_smallLatin (c : Char) : (smallLatin c).toNat =
    if 'A'.toNat ≤ c.toNat ∧ c.toNat ≤ 'Z'.toNat then c.toNat + 32 else c.toNat := by
  rw [smallLatin]
  simp only [Bool.and_eq_true, decide_eq_true_eq, Char.le_def, UInt32.le_iff_toNat_le]
  split
  · rename_i isCapital
    have bounded : c.toNat ≤ 'Z'.toNat := isCapital.2
    have valid : (c.toNat + 32).isValidChar := .inl (by change c.toNat ≤ 90 at bounded; omega)
    rw [toNat_ofNat valid]
    exact (if_pos isCapital).symm
  · rename_i notCapital
    exact (if_neg notCapital).symm

theorem small_smallLatin {c : Char} (latin : c.toNat < 0x80) : Small (smallLatin c) := by
  refine small_of_not_inRun (not_inRun_of_latin ?_ ?_)
  · rw [toNat_smallLatin]
    split
    · rename_i isCapital
      have bounded : c.toNat ≤ 90 := isCapital.2
      omega
    · exact latin
  · rw [toNat_smallLatin]
    split
    · rename_i isCapital
      have bounded : 65 ≤ c.toNat := isCapital.1
      change c.toNat + 32 < 65 ∨ 90 < c.toNat + 32
      omega
    · rename_i notCapital
      change ¬ (65 ≤ c.toNat ∧ c.toNat ≤ 90) at notCapital
      change c.toNat < 65 ∨ 90 < c.toNat
      omega

/-- The small letter of a capital in the table lies apart from all capitals. -/
theorem not_inRun_of_settled {n : Nat} {first last step : Nat} {distance : Int}
    (settled : isSettled (first, last, step, distance) = true)
    (inside : inRun n (first, last, step, distance) = true) :
    ((n : Int) + distance).toNat.isValidChar ∧
      ∀ run ∈ capitals, inRun ((n : Int) + distance).toNat run = false := by
  simp only [isSettled, Bool.and_eq_true, Bool.or_eq_true, decide_eq_true_eq, List.all_eq_true]
    at settled
  simp only [inRun, Bool.and_eq_true, decide_eq_true_eq, beq_iff_eq] at inside
  rcases settled with ⟨⟨⟨_, positive⟩, valid⟩, apart⟩
  rcases inside with ⟨⟨notBefore, notBehind⟩, onStep⟩
  have steps : n - first = (n - first) / step * step := by
    rw [Nat.mul_comm]
    exact (Nat.mul_div_cancel' (Nat.dvd_of_mod_eq_zero onStep)).symm
  have moved : ((n : Int) + distance).toNat =
      ((first : Int) + distance).toNat + (n - first) / step * step := by omega
  constructor
  · rw [Nat.isValidChar]
    omega
  · intro run member
    rw [moved]
    exact not_inRun (apart run member) (by omega)

theorem small_smallLetter (c : Char) (notDotted : c ≠ '\u0130') : Small (smallLetter c) := by
  by_cases latin : c.toNat < 0x80
  · rw [smallLetter, if_pos latin]
    exact small_smallLatin latin
  · rw [smallLetter_of_not_latin latin]
    cases found : capitalRuns.find? (inRun c.toNat) with
    | none =>
        have notTable := List.find?_eq_none.mp found
        refine small_of_not_inRun fun run member => ?_
        rw [Bool.eq_false_iff]
        intro inside
        rcases List.mem_cons.mp member with rfl | member
        · simp only [inRun, Bool.and_eq_true, decide_eq_true_eq] at inside
          exact latin (Nat.lt_of_le_of_lt inside.1.2 (by decide))
        · rcases List.mem_cons.mp member with rfl | member
          · simp only [inRun, Bool.and_eq_true, decide_eq_true_eq] at inside
            refine notDotted ?_
            rw [← Char.ofNat_toNat c, Nat.le_antisymm inside.1.2 inside.1.1]
          · exact notTable run member inside
    | some run =>
        rcases run with ⟨first, last, step, distance⟩
        have settled := isSettled_capitalRuns _ (List.mem_of_find?_eq_some found)
        rcases not_inRun_of_settled settled (List.find?_some found) with ⟨valid, apart⟩
        refine small_of_not_inRun ?_
        dsimp only
        rw [toNat_ofNat valid]
        exact apart

/-! ## Texts -/

theorem small_lowercaseAt (before : List Char) (c : Char) (after : List Char) :
    ∀ small ∈ lowercaseAt before c after, Small small := by
  have plainI : Small 'i' := ⟨by decide, by decide, rfl⟩
  have dotAbove : Small '\u0307' := ⟨by decide, by decide, rfl⟩
  have finalSigma : Small '\u03c2' := ⟨by decide, by decide, rfl⟩
  have sigma : Small '\u03c3' := ⟨by decide, by decide, rfl⟩
  intro small member
  rw [lowercaseAt] at member
  split at member
  · rcases List.mem_cons.mp member with rfl | member
    · exact plainI
    · rw [List.mem_singleton.mp member]
      exact dotAbove
  · rename_i notDotted
    split at member
    · rw [List.mem_singleton.mp member]
      split
      · exact finalSigma
      · exact sigma
    · rw [List.mem_singleton.mp member]
      exact small_smallLetter c notDotted

theorem small_lowercaseFrom (before text : List Char) :
    ∀ small ∈ lowercaseFrom before text, Small small := by
  induction text generalizing before with
  | nil => exact fun _ member => nomatch member
  | cons c after inductionHypothesis =>
      intro small member
      rcases List.mem_append.mp member with member | member
      · exact small_lowercaseAt before c after small member
      · exact inductionHypothesis (c :: before) small member

/-- Small characters stay as they are, wherever they stand. -/
theorem lowercaseFrom_of_small (before : List Char) {text : List Char}
    (allSmall : ∀ c ∈ text, Small c) : lowercaseFrom before text = text := by
  induction text generalizing before with
  | nil => rfl
  | cons c after inductionHypothesis =>
      have first := allSmall c List.mem_cons_self
      have later := inductionHypothesis (c :: before) fun other member =>
        allSmall other (List.mem_cons_of_mem c member)
      rw [lowercaseFrom, lowercaseAt, if_neg first.notDotted, if_neg first.notSigma,
        first.smallLetter_eq, later]
      rfl

/-- A text in lower case is its own lower case. -/
theorem lowercase_lowercase (s : String) : lowercase (lowercase s) = lowercase s := by
  have small := small_lowercaseFrom [] s.toList
  rw [lowercase, lowercase, String.toList_ofList, lowercaseFrom_of_small [] small]

/-- The lower case of an ASCII text is that of each of its characters. -/
theorem toList_lowercase {s : String} (ascii : ∀ c ∈ s.toList, c.toNat < 0x80) :
    (lowercase s).toList = s.toList.map smallLatin := by
  have each (before text : List Char) (ascii : ∀ c ∈ text, c.toNat < 0x80) :
      lowercaseFrom before text = text.map smallLatin := by
    induction text generalizing before with
    | nil => rfl
    | cons c after inductionHypothesis =>
        have first := ascii c List.mem_cons_self
        have later := inductionHypothesis (c :: before) fun other member =>
          ascii other (List.mem_cons_of_mem c member)
        have notDotted : c ≠ '\u0130' := by
          rintro rfl
          exact absurd first (by decide)
        have notSigma : c ≠ '\u03a3' := by
          rintro rfl
          exact absurd first (by decide)
        rw [lowercaseFrom, lowercaseAt, if_neg notDotted, if_neg notSigma, smallLetter, if_pos first,
          later]
        rfl
  rw [lowercase, String.toList_ofList, each [] s.toList ascii]

theorem lowercase_append {s t : String} (ascii : ∀ c ∈ s.toList, c.toNat < 0x80)
    (ascii' : ∀ c ∈ t.toList, c.toNat < 0x80) : lowercase (s ++ t) = lowercase s ++ lowercase t := by
  have both : ∀ c ∈ (s ++ t).toList, c.toNat < 0x80 := by
    rw [String.toList_append]
    exact List.forall_mem_append.mpr ⟨ascii, ascii'⟩
  apply String.toList_injective
  rw [toList_lowercase both, String.toList_append, String.toList_append, toList_lowercase ascii,
    toList_lowercase ascii', List.map_append]

end Text
end DocumentQuery
