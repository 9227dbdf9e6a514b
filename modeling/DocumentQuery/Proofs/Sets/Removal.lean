import DocumentQuery.Proofs.Sets.Neighbours

namespace DocumentQuery
namespace Brackets

open Json Sql

/-!
# Removing a comma

The text of one comma is removed from a list by replacing its mark, and every place of that
mark is replaced.  A place is *native* if it overlaps the comma that is in the list: it is
around the comma, or across the border to one of its neighbours.  Whichever of these comes
first, replacing it takes the comma out, and it leaves no other native place.  A place
across the border of two other neighbours is *foreign*.  Replacing it makes one text of the
two, so that a foreign place of the mark that is replaced always does damage.
-/

/-- What is left in the place of each mark. -/
inductive Leaves : Char → Char → Char → Prop where
  | first : Leaves '[' ',' '['
  | middle : Leaves ',' ',' ','
  | last : Leaves ',' ']' ']'

namespace Leaves

variable {left right c : Char}

theorem left_opens (leaves : Leaves left right c) : left = '[' ∨ left = ',' := by
  cases leaves with
  | first => exact Or.inl rfl
  | middle => exact Or.inr rfl
  | last => exact Or.inr rfl

theorem left_separates (leaves : Leaves left right c) : IsSeparator left :=
  leaves.left_opens.imp_right Or.inl

theorem right_separates (leaves : Leaves left right c) : IsSeparator right := by
  cases leaves with
  | first => exact Or.inr (Or.inl rfl)
  | middle => exact Or.inr (Or.inl rfl)
  | last => exact Or.inr (Or.inr rfl)

theorem separates (leaves : Leaves left right c) : IsSeparator c := by
  cases leaves with
  | first => exact Or.inl rfl
  | middle => exact Or.inr (Or.inl rfl)
  | last => exact Or.inr (Or.inr rfl)

theorem eq_left (leaves : Leaves left right c) (comma : right = ',') : c = left := by
  cases leaves with
  | first => rfl
  | middle => rfl
  | last => exact absurd comma (by decide)

theorem eq_right (leaves : Leaves left right c) (comma : left = ',') : c = right := by
  cases leaves with
  | first => exact absurd comma (by decide)
  | middle => rfl
  | last => rfl

end Leaves

/-- A place of a mark that overlaps the comma between the given parts of a list. -/
inductive Native (before after : List String) (left right : Char) :
    List Char → List Char → Prop where
  | around {u r : List Char} (opens : opening (before.map quoted) = u ++ [left])
      (closes : closing (after.map quoted) = right :: r) : Native before after left right u r
  | ahead {earlier : List String} {x : String} {s : List Char} (before_eq : before = earlier ++ [x])
      (ends : x.toList = s ++ [left]) (right_eq : right = ',') :
      Native before after left right (opening (earlier.map quoted) ++ '"' :: s.flatMap escapeChar)
        ('"' :: closing (after.map quoted))
  | behind {later : List String} {y : String} {t : List Char} (after_eq : after = y :: later)
      (begins : y.toList = right :: t) (left_eq : left = ',') :
      Native before after left right (opening (before.map quoted) ++ ['"'])
        (t.flatMap escapeChar ++ '"' :: closing (later.map quoted))

/-- A place of a mark of a comma across the border of two other texts. -/
inductive Foreign (xs : List String) (left right : Char) : List Char → List Char → Prop where
  | across {before after : List String} {x y : String} {s t : List Char}
      (split : xs = before ++ x :: y :: after) (first : x ≠ ",") (second : y ≠ ",")
      (ends : x.toList = s ++ [left]) (begins : y.toList = right :: t) :
      Foreign xs left right (opening (before.map quoted) ++ '"' :: s.flatMap escapeChar)
        (t.flatMap escapeChar ++ '"' :: closing (after.map quoted))

variable {xs before after : List String} {left right c : Char} {u r u' r' : List Char}

theorem native_or_foreign (occurrence : Occurrence xs left "," right u r) :
    (∃ before after : List String, xs = before ++ "," :: after ∧
      Native before after left right u r) ∨ Foreign xs left right u r := by
  have comma : (",").toList = [','] := rfl
  cases occurrence with
  | around split opens closes => exact Or.inl ⟨_, _, split, Native.around opens closes⟩
  | @across before after x y s t split _ ends begins opens closes =>
      subst opens closes
      by_cases first : x = ","
      · rw [first, comma] at ends
        rcases List.append_eq_singleton_iff.mp ends.symm |>.resolve_right (by simp) with
          ⟨rfl, left_eq⟩
        rw [first] at split
        exact Or.inl ⟨before, y :: after, split,
          Native.behind rfl begins (List.cons.inj left_eq).1⟩
      · by_cases second : y = ","
        · rw [second, comma] at begins
          rcases List.cons.inj begins with ⟨right_eq, rfl⟩
          rw [second, List.append_cons] at split
          exact Or.inl ⟨before ++ [x], after, split, Native.ahead rfl ends right_eq.symm⟩
        · exact Or.inr (Foreign.across split first second ends begins)

/-! ## Native places -/

/-- Two parts of a list meet where the separator between them is kept. -/
theorem text_of_opening {before after : List (List Char)} (opens : opening before = u ++ [c])
    (closes : closing after = ',' :: r) : u ++ [c] ++ r = bracketed (before ++ after) := by
  cases after with
  | nil => exact absurd (List.cons.inj closes).1 (by decide)
  | cons next later =>
      rw [closing_cons] at closes
      rw [← opens, ← (List.cons.inj closes).2, bracketed_append_cons]
      exact (List.append_assoc _ _ _).symm

/-- Replacing a mark in a native place takes the comma out. -/
theorem Native.text (leaves : Leaves left right c) (native : Native before after left right u r) :
    u ++ [c] ++ r = bracketed ((before ++ after).map quoted) := by
  rw [List.map_append]
  cases native with
  | around opens closes =>
      cases leaves with
      | first => exact text_of_opening opens closes
      | middle => exact text_of_opening opens closes
      | last =>
          have after_eq := eq_nil_of_closing closes
          rw [after_eq] at closes ⊢
          have nonempty : before.map quoted ≠ [] := by
            intro empty
            rw [empty] at opens
            exact absurd (openChar_of_opening opens) (by decide)
          rw [List.append_nil, bracketed_of_opening nonempty opens, ← (List.cons.inj closes).2,
            List.append_nil]
  | @ahead earlier x s before_eq ends right_eq =>
      rw [leaves.eq_left right_eq, before_eq, List.map_append, List.append_assoc (earlier.map quoted),
        List.map_singleton, List.singleton_append, bracketed_append_cons,
        quoted_of_split leaves.left_separates ends]
      simp
  | @behind later y t after_eq begins left_eq =>
      rw [leaves.eq_right left_eq, after_eq, List.map_cons, bracketed_append_cons,
        quoted_of_split (s := []) leaves.right_separates begins]
      simp

theorem length_quoted {x : String} {s t : List Char} {d : Char} (separator : IsSeparator d)
    (split : x.toList = s ++ d :: t) :
    (quoted x).length = (s.flatMap escapeChar).length + (t.flatMap escapeChar).length + 3 := by
  rw [quoted_of_split separator split]
  simp only [List.length_append, List.length_cons, List.length_nil]
  omega

/-- A native place begins shortly before the comma or at its first quote. -/
theorem Native.bounds (leaves : Leaves left right c)
    (native : Native before after left right u r) :
    (opening (before.map quoted)).length ≤ u.length + 3 ∧
      (u.length < (opening (before.map quoted)).length ∨
        left = ',' ∧ u.length = (opening (before.map quoted)).length + 1) := by
  cases native with
  | around opens closes =>
      rw [opens, List.length_append, List.length_singleton]
      omega
  | @ahead earlier x s before_eq ends right_eq =>
      have longer := length_opening_append_cons (earlier.map quoted) (quoted x) []
      have quotes := length_quoted leaves.left_separates ends
      rw [List.append_nil] at longer
      rw [before_eq, List.map_append, List.map_singleton, longer, quotes, List.length_append,
        List.length_cons]
      simp only [List.flatMap_nil, List.length_nil]
      omega
  | behind after_eq begins left_eq =>
      rw [List.length_append, List.length_singleton]
      exact ⟨by omega, Or.inr ⟨left_eq, rfl⟩⟩

theorem length_comma : (quoted ",").length = 3 :=
  rfl

theorem length_mark_comma (left right : Char) : (mark left (quoted ",") right).length = 5 :=
  rfl

/-! ## Foreign places -/

/-- A foreign place does not overlap a native one. -/
theorem Foreign.apart (leaves : Leaves left right c) (distinct : (before ++ "," :: after).Nodup)
    (foreign : Foreign (before ++ "," :: after) left right u' r')
    (native : Native before after left right u r) :
    u'.length < u.length ∨ u.length + 5 ≤ u'.length := by
  have bounds := native.bounds leaves
  cases foreign with
  | @across others later x y s t split first second ends begins =>
      have quotes := length_quoted leaves.left_separates ends
      have member : "," ∈ others ∨ "," ∈ later := by
        have somewhere : "," ∈ others ++ x :: y :: later :=
          split ▸ List.mem_append_right before List.mem_cons_self
        simpa [first.symm, second.symm] using somewhere
      rw [List.length_append, List.length_cons]
      rcases member with ahead | behind
      · rcases List.append_of_mem ahead with ⟨front, rest, rfl⟩
        rw [List.append_assoc, List.cons_append] at split
        rcases split_unique distinct split with ⟨rfl, _⟩
        have longer := length_opening_append_cons (before.map quoted) (quoted ",")
          (rest.map quoted)
        have more := length_opening_le (before.map quoted) (rest.map quoted)
        -- A text that ends with a comma and is no comma has another character.
        have another : left = ',' → 0 < (s.flatMap escapeChar).length := by
          rintro rfl
          refine List.length_pos_of_ne_nil fun empty => first ?_
          rw [flatMap_escapeChar_eq_nil empty] at ends
          exact String.toList_inj.mp ends
        rw [length_comma] at longer
        rw [List.map_append, List.map_cons]
        rcases bounds.2 with near | ⟨left_eq, near⟩
        · omega
        · have positive := another left_eq
          omega
      · rcases List.append_of_mem behind with ⟨front, rest, rfl⟩
        have split : before ++ "," :: after = others ++ x :: y :: front ++ "," :: rest := by
          rw [split, List.append_assoc]
          rfl
        rcases split_unique distinct split with ⟨before_eq, _⟩
        have longer := length_opening_append_cons (others.map quoted) (quoted x)
          (quoted y :: front.map quoted)
        have longerToo := length_opening_append_cons (others.map quoted) (quoted y)
          (front.map quoted)
        have more := length_opening_le (others.map quoted) (front.map quoted)
        have quotesToo := length_quoted (s := []) leaves.right_separates begins
        rw [before_eq, List.map_append, List.map_cons, List.map_cons] at bounds
        omega

/-- Replacing a mark in a foreign place makes one text of two, and leaves the comma. -/
theorem Foreign.text (leaves : Leaves left right c) (member : "," ∈ xs)
    (foreign : Foreign xs left right u r) :
    ∃ ys : List String, "," ∈ ys ∧ u ++ [c] ++ r = bracketed (ys.map quoted) := by
  cases foreign with
  | @across before after x y s t split first second ends begins =>
      let merged := String.ofList (s ++ c :: t)
      have merged_eq : merged.toList = s ++ c :: t := String.toList_ofList
      refine ⟨before ++ merged :: after, ?_, ?_⟩
      · rw [split] at member
        have elsewhere : "," ∈ before ∨ "," ∈ after := by
          simpa [first.symm, second.symm] using member
        rcases elsewhere with ahead | behind
        · exact List.mem_append_left _ ahead
        · exact List.mem_append_right _ (List.mem_cons_of_mem merged behind)
      · rw [List.map_append, List.map_cons, bracketed_append_cons,
          quoted_of_split leaves.separates merged_eq]
        simp

/-! ## What is replaced -/

/-- Two neighbours other than the comma meet. -/
def Clash (xs : List String) (left right : Char) : Prop :=
  ∃ x y : String, x ≠ "," ∧ y ≠ "," ∧ Meet xs left right x y

theorem Foreign.clash (foreign : Foreign xs left right u r) : Clash xs left right := by
  cases foreign with
  | across split first second ends begins =>
      exact ⟨_, _, first, second, meet_of_split split ends begins⟩

theorem Clash.foreign (clash : Clash xs left right) : ∃ u r, Foreign xs left right u r := by
  rcases clash with ⟨x, y, first, second, meet⟩
  rcases meet.split with ⟨before, after, s, t, split, ends, begins⟩
  exact ⟨_, _, Foreign.across split first second ends begins⟩

theorem Clash.not_singleton (clash : Clash xs left right) (x : String) : xs ≠ [x] := by
  rintro rfl
  rcases clash with ⟨_, _, _, _, meet⟩
  exact absurd meet.beside.length_le (by simp)

theorem Clash.ne_nil (clash : Clash xs left right) : xs ≠ [] := by
  rintro rfl
  rcases clash with ⟨_, _, _, _, meet⟩
  exact absurd meet.beside.length_le (by simp)

theorem Foreign.found (leaves : Leaves left right c) (foreign : Foreign xs left right u r) :
    bracketed (xs.map quoted) = u ++ mark left (quoted ",") right ++ r := by
  cases foreign with
  | across split _ _ ends begins =>
      exact (Occurrence.across split rfl ends begins rfl rfl).found leaves.left_opens
        leaves.right_separates

theorem erase_comma (distinct : (before ++ "," :: after).Nodup) :
    (before ++ "," :: after).erase "," = before ++ after := by
  have notBefore : "," ∉ before := fun earlier =>
    List.disjoint_of_nodup_append distinct earlier List.mem_cons_self
  rw [List.erase_append_right _ notBefore, List.erase_cons_head]

/-- Where a mark of a comma has no foreign place, replacing it takes the comma out. -/
theorem replaced_of_not_clash (leaves : Leaves left right c) (distinct : xs.Nodup)
    (occurs : mark left (quoted ",") right <:+: bracketed (xs.map quoted))
    (noClash : ¬ Clash xs left right) :
    Replaced (mark left (quoted ",") right) [c] (bracketed (xs.map quoted))
      (bracketed ((xs.erase ",").map quoted)) := by
  have native {u r : List Char}
      (place : bracketed (xs.map quoted) = u ++ mark left (quoted ",") right ++ r) :
      ∃ before after : List String, xs = before ++ "," :: after ∧
        Native before after left right u r := by
    have occurrence := occurrence_of_mark leaves.left_opens leaves.right_separates place
    exact (native_or_foreign occurrence).resolve_right fun foreign => noClash foreign.clash
  rcases exists_leftmost occurs with ⟨u, r, split, leftmost⟩
  rcases native split with ⟨before, after, rfl, first⟩
  rw [erase_comma distinct, ← first.text leaves, split]
  apply replaced_first_only
  intro u' r' place
  rcases native (split.trans place) with ⟨before', after', same, other⟩
  rcases split_unique distinct same with ⟨rfl, rfl⟩
  have bounds := first.bounds leaves
  have otherBounds := other.bounds leaves
  have length := length_mark_comma left right
  exact ⟨leftmost u' r' (split.trans place), by omega⟩

/-- A later place of a part lies behind an earlier one that it does not overlap. -/
theorem infix_of_apart {part u v u' v' : List Char}
    (same : u ++ part ++ v = u' ++ part ++ v') (apart : u.length + part.length ≤ u'.length) :
    part <:+: v := by
  rw [List.append_assoc u' part v'] at same
  rcases List.append_eq_append_iff.mp same with ⟨w, u'_eq, v_eq⟩ | ⟨w, longer, rest⟩
  · exact ⟨w, v', by rw [v_eq, List.append_assoc]⟩
  · have lengths := congrArg List.length longer
    simp only [List.length_append] at lengths
    have empty : w = [] := List.length_eq_zero_iff.mp (by omega)
    rw [empty, List.nil_append] at rest
    exact ⟨[], v', by rw [← rest]; rfl⟩

theorem bracketed_quoted_inj {xs ys : List String}
    (same : bracketed (xs.map quoted) = bracketed (ys.map quoted)) : xs = ys := by
  have closing_inj : ∀ {xs ys : List String},
      closing (xs.map quoted) = closing (ys.map quoted) → xs = ys := by
    intro xs ys same
    induction xs generalizing ys with
    | nil =>
        have none := eq_nil_of_closing same.symm
        exact (List.map_eq_nil_iff.mp none).symm
    | cons x xs inductionHypothesis =>
        cases ys with
        | nil => exact absurd (eq_nil_of_closing same) (List.cons_ne_nil _ _)
        | cons y ys =>
            rw [List.map_cons, List.map_cons, closing_cons, closing_cons] at same
            rcases writeString_inj (List.cons.inj same).2 with ⟨texts, rest⟩
            rw [String.toList_inj.mp texts, inductionHypothesis rest]
  have closing_eq_tail (x : String) (xs : List String) :
      ',' :: (bracketed ((x :: xs).map quoted)).tail = closing ((x :: xs).map quoted) := by
    rw [List.map_cons, closing_cons]
    rfl
  cases xs with
  | nil =>
      have text : bracketed (ys.map quoted) = ['[', ']'] := same.symm
      have none := (bracketed_eq_empty_iff (nil_notMem_quoted ys)).mp text
      exact (List.map_eq_nil_iff.mp none).symm
  | cons x xs =>
      cases ys with
      | nil =>
          have none := (bracketed_eq_empty_iff (nil_notMem_quoted (x :: xs))).mp same
          exact absurd none (List.cons_ne_nil _ _)
      | cons y ys =>
          apply closing_inj
          rw [← closing_eq_tail, ← closing_eq_tail, same]

theorem length_erase_comma (distinct : (before ++ "," :: after).Nodup)
    (others : before ++ after ≠ []) :
    (bracketed ((before ++ "," :: after).map quoted)).length =
      (bracketed (((before ++ "," :: after).erase ",").map quoted)).length + 4 := by
  have fewer : (before ++ after).map quoted ≠ [] := mt List.map_eq_nil_iff.mp others
  have more : (before ++ "," :: after).map quoted ≠ [] :=
    mt List.map_eq_nil_iff.mp (by simp)
  have longer := length_opening_append_cons (before.map quoted) (quoted ",") (after.map quoted)
  rw [length_comma] at longer
  rw [erase_comma distinct, length_bracketed fewer, length_bracketed more, List.map_append,
    List.map_append, List.map_cons, longer]

/-- Where a mark of a comma has a foreign place, replacing it does not just take the comma
out. -/
theorem replaced_ne_of_clash (leaves : Leaves left right c) (distinct : xs.Nodup)
    (clash : Clash xs left right) {t : List Char}
    (replaced : Replaced (mark left (quoted ",") right) [c] (bracketed (xs.map quoted)) t) :
    t ≠ bracketed ((xs.erase ",").map quoted) := by
  have length := length_mark_comma left right
  have shorter : [c].length ≤ (mark left (quoted ",") right).length := by
    rw [length]
    exact Nat.le_of_ble_eq_true rfl
  rcases clash.foreign with ⟨u', r', foreign⟩
  have place := foreign.found leaves
  have occurs : mark left (quoted ",") right <:+: bracketed (xs.map quoted) :=
    ⟨u', r', place.symm⟩
  rintro rfl
  by_cases member : "," ∈ xs
  · rcases replaced.exists_first occurs with ⟨u, v, rest, split, outcome, leftmost, later⟩
    have occurrence := occurrence_of_mark leaves.left_opens leaves.right_separates split
    rcases native_or_foreign occurrence with ⟨before, after, rfl, native⟩ | foreign
    · -- The foreign place comes later, so that it is replaced as well.
      have behind : u.length + 5 ≤ u'.length :=
        (foreign.apart leaves distinct native).resolve_left
          (Nat.not_lt_of_le (leftmost u' r' place))
      have again := infix_of_apart (split.symm.trans place) (length ▸ behind)
      have changed := later.length_of_occurs again shorter
      rw [erase_comma distinct, ← native.text leaves] at outcome
      rw [List.append_cancel_left outcome, length, List.length_singleton] at changed
      omega
    · -- The two neighbours become one, unless more is replaced than there is to remove.
      rcases foreign.text leaves member with ⟨ys, kept, text⟩
      by_cases again : mark left (quoted ",") right <:+: v
      · rcases List.append_of_mem member with ⟨before, after, rfl⟩
        have others : before ++ after ≠ [] := by
          intro none
          rcases List.append_eq_nil_iff.mp none with ⟨rfl, rfl⟩
          exact clash.not_singleton "," rfl
        have changed := later.length_of_occurs again shorter
        have lengths := length_erase_comma distinct others
        rw [outcome, split] at lengths
        simp only [List.length_append, List.length_singleton, length] at lengths changed
        omega
      · rw [later.eq_of_absent again, text] at outcome
        rw [← bracketed_quoted_inj outcome] at kept
        exact (List.Nodup.mem_erase_iff distinct).mp kept |>.1 rfl
  · rw [List.erase_of_not_mem member] at replaced
    have changed := replaced.length_of_occurs occurs shorter
    rw [length, List.length_singleton] at changed
    omega

/-! ## The outcome of removal -/

/-- A mark of the comma occurs in the text of the list. -/
def Shown (xs : List String) (left right : Char) : Prop :=
  Stands xs left "," right ∨ Meets xs left right

/-- The first mark of the comma that occurs has a foreign place. -/
inductive Misremoved (xs : List String) : Prop where
  | first (clash : Clash xs '[' ',')
  | middle (notFirst : ¬ Shown xs '[' ',') (clash : Clash xs ',' ',')
  | last (notFirst : ¬ Shown xs '[' ',') (notMiddle : ¬ Shown xs ',' ',')
      (clash : Clash xs ',' ']')

theorem shown_iff (leaves : Leaves left right c) :
    mark left (quoted ",") right <:+: bracketed (xs.map quoted) ↔ Shown xs left right := by
  rw [mark_infix_iff leaves.left_opens leaves.right_separates, Shown, and_iff_right rfl]

theorem Clash.shown (clash : Clash xs left right) : Shown xs left right := by
  rcases clash with ⟨x, y, _, _, meet⟩
  exact Or.inr ⟨x, y, meet⟩

theorem alone_comma_iff :
    Alone (quoted ",") (bracketed (xs.map quoted)) ↔ xs = [] ∨ xs = [","] := by
  rw [alone_iff (nil_notMem_quoted xs) eq_singleton_of_text, List.map_eq_nil_iff]
  refine or_congr_right ⟨fun words => ?_, fun single => by rw [single]; rfl⟩
  exact List.map_injective_iff.mpr quoted_injective words

/-- Removal takes the comma out if the first mark that occurs has native places only. -/
theorem removed_comma (distinct : xs.Nodup) (undamaged : ¬ Misremoved xs) :
    Removed (quoted ",") (bracketed (xs.map quoted)) (bracketed ((xs.erase ",").map quoted)) := by
  by_cases alone : xs = [] ∨ xs = [","]
  · have outcome := Removed.alone (alone_comma_iff.mpr alone)
    rcases alone with rfl | rfl <;> exact outcome
  have notAlone := mt alone_comma_iff.mp alone
  by_cases first : Shown xs '[' ','
  · have occurs := (shown_iff .first).mpr first
    exact Removed.first notAlone occurs (replaced_of_not_clash .first distinct occurs
      fun clash => undamaged (.first clash))
  have notFirst := mt (shown_iff .first).mp first
  by_cases middle : Shown xs ',' ','
  · have occurs := (shown_iff .middle).mpr middle
    exact Removed.middle notAlone notFirst occurs (replaced_of_not_clash .middle distinct occurs
      fun clash => undamaged (.middle first clash))
  have notMiddle := mt (shown_iff .middle).mp middle
  by_cases last : Shown xs ',' ']'
  · have occurs := (shown_iff .last).mpr last
    exact Removed.last notAlone notFirst notMiddle occurs (replaced_of_not_clash .last distinct
      occurs fun clash => undamaged (.last first middle clash))
  have notLast := mt (shown_iff .last).mp last
  have missing : "," ∉ xs := by
    rw [← stands_beside_iff_mem fun single => alone (Or.inr single)]
    rintro (stands | stands | stands)
    · exact first (Or.inl stands)
    · exact middle (Or.inl stands)
    · exact last (Or.inl stands)
  rw [List.erase_of_not_mem missing]
  refine Removed.missing notAlone ?_
  rintro (found | found | found)
  · exact notFirst found
  · exact notMiddle found
  · exact notLast found

/-- Otherwise removal does not just take the comma out. -/
theorem removed_comma_ne (distinct : xs.Nodup) (damaged : Misremoved xs) {t : List Char}
    (removed : Removed (quoted ",") (bracketed (xs.map quoted)) t) :
    t ≠ bracketed ((xs.erase ",").map quoted) := by
  have notAlone {left right : Char} (clash : Clash xs left right) :
      ¬ Alone (quoted ",") (bracketed (xs.map quoted)) := by
    rw [alone_comma_iff]
    rintro (none | single)
    · exact clash.ne_nil none
    · exact clash.not_singleton "," single
  cases damaged with
  | first clash =>
      have occurs := (shown_iff .first).mpr clash.shown
      cases removed with
      | alone single => exact absurd single (notAlone clash)
      | first _ _ replaced => exact replaced_ne_of_clash .first distinct clash replaced
      | middle _ notThere _ _ => exact absurd occurs notThere
      | last _ notThere _ _ _ => exact absurd occurs notThere
      | missing _ notThere => exact absurd (Or.inl occurs) notThere
  | middle notFirst clash =>
      have occurs := (shown_iff .middle).mpr clash.shown
      cases removed with
      | alone single => exact absurd single (notAlone clash)
      | first _ found _ => exact absurd ((shown_iff .first).mp found) notFirst
      | middle _ _ _ replaced => exact replaced_ne_of_clash .middle distinct clash replaced
      | last _ _ notThere _ _ => exact absurd occurs notThere
      | missing _ notThere => exact absurd (Or.inr (Or.inl occurs)) notThere
  | last notFirst notMiddle clash =>
      have occurs := (shown_iff .last).mpr clash.shown
      cases removed with
      | alone single => exact absurd single (notAlone clash)
      | first _ found _ => exact absurd ((shown_iff .first).mp found) notFirst
      | middle _ _ found _ => exact absurd ((shown_iff .middle).mp found) notMiddle
      | last _ _ _ _ replaced => exact replaced_ne_of_clash .last distinct clash replaced
      | missing _ notThere => exact absurd (Or.inr (Or.inr occurs)) notThere

end Brackets
end DocumentQuery
