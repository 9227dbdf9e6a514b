import DocumentQuery.Filter.Matching
import DocumentQuery.Sql.Expr
import Mathlib.Data.List.Infix

namespace DocumentQuery

/-!
# What a store computes

The meaning of an expression rests on a handful of functions that are not part of this
library: the store compares, joins, cuts and searches texts, and writes values as JSON.  An
`Engine` holds those functions, and `Engine.Documented` the part of their documentation
that set columns rely on.  Nothing is said there about sets; each law speaks of one
function alone.

Integers have no bound here, because the length of a text has none.  Those of a store have one, so
the law of differences stays between zero and a number that is there.  Lengths and cuts stop at the
character zero in the store, so their laws ask for texts without it, and nothing is replaced where
the part begins with it.

`Engine.reference` is one engine with all of these laws.  It serves as the proof that they
can hold together, and nothing else depends on it.
-/

/-- What one cell of a row holds, and what an expression gives. -/
inductive Datum where
  | null
  | integer (n : Int)
  | real (x : Float)
  | text (s : String)
  | blob (bytes : List UInt8)
deriving Repr, Inhabited

/-- A bound scalar as the store keeps it: truth values are integers there, and a real that is not a
number is null. -/
def Scalar.datum : Scalar → Datum
  | .null => .null
  | .integer n => .integer n.toInt
  | .real x => if x.isNaN then .null else .real x
  | .text s => .text s
  | .bool b => .integer (if b then 1 else 0)
  | .blob bytes => .blob bytes

namespace Datum

def isNull : Datum → Bool
  | .null => true
  | _ => false

/-- The integer for a truth value, and null for one that is unknown. -/
def ofTruth : Option Bool → Datum
  | some true => .integer 1
  | some false => .integer 0
  | none => .null

end Datum

/-- The functions of a store that expressions use.  A comparison is only asked for where
neither side is null. -/
structure Engine where
  truth : Datum → Option Bool
  compare : Datum → Datum → Option Ordering
  like : Datum → Datum → Option Bool
  plus : Datum → Datum → Datum
  minus : Datum → Datum → Datum
  times : Datum → Datum → Datum
  concat : Datum → Datum → Datum
  cast : Datum → String → Datum
  jsonQuote : Datum → Datum
  length : Datum → Datum
  instr : Datum → Datum → Datum
  substr : Datum → Datum → Datum → Datum
  replace : Datum → Datum → Datum → Datum

/-- A text with every occurrence of a part replaced, from left to right and without
overlaps.  The first occurrence is replaced first, and what follows it is treated alike. -/
inductive Replaced (part other : List Char) : List Char → List Char → Prop where
  | absent {s : List Char} (nowhere : ¬ part <:+: s) : Replaced part other s s
  | first {before after rest : List Char}
      (leftmost : ∀ u v : List Char,
        before ++ part ++ after = u ++ part ++ v → before.length ≤ u.length)
      (later : Replaced part other after rest) :
      Replaced part other (before ++ part ++ after) (before ++ other ++ rest)

/-- What the documentation of a store says about its functions, as far as it is used. -/
structure Engine.Documented (engine : Engine) : Prop where
  truth_null : engine.truth .null = none
  truth_integer : ∀ n : Int, engine.truth (.integer n) = some (n != 0)
  compare_integer : ∀ m n : Int,
    engine.compare (.integer m) (.integer n) = some (Ord.compare m n)
  compare_text : ∀ s t : String, engine.compare (.text s) (.text t) = some .eq ↔ s = t
  minus_integer : ∀ m n : Nat, n ≤ m →
    engine.minus (.integer m) (.integer n) = .integer (m - n : Nat)
  concat_text : ∀ s t : String, engine.concat (.text s) (.text t) = .text (s ++ t)
  jsonQuote_integer : ∀ n : Int64,
    engine.jsonQuote (.integer n.toInt) = .text (Json.ofInt64 n).compact
  jsonQuote_text : ∀ s : String, engine.jsonQuote (.text s) = .text (Json.string s).compact
  length_text : ∀ s : String, '\x00' ∉ s.toList →
    engine.length (.text s) = .integer s.toList.length
  instr_null : ∀ part : Datum, engine.instr .null part = .null
  instr_text : ∀ s part : String, exists position : Int,
    engine.instr (.text s) (.text part) = .integer position ∧
      (0 < position ↔ part.toList <:+: s.toList)
  substr_text : ∀ (s : String) (count : Nat), '\x00' ∉ s.toList →
    engine.substr (.text s) (.integer 1) (.integer count) =
      .text (String.ofList (s.toList.take count))
  replace_text : ∀ s part other t : String, part ≠ "" → part.toList.head? ≠ some '\x00' →
    Replaced part.toList other.toList s.toList t.toList →
    engine.replace (.text s) (.text part) (.text other) = .text t

/-! ## An engine with these laws -/

namespace Engine

/-- The position after which a part first occurs in a text, counted from one; zero if it
does not occur. -/
def position (part : List Char) : List Char → Nat
  | [] => if part.isEmpty then 1 else 0
  | c :: rest =>
    if part.isPrefixOf (c :: rest) then 1
    else
      match position part rest with
      | 0 => 0
      | n + 1 => n + 2

/-- Replace every occurrence of a part, after leaving out `skipped` characters. -/
def replaceAll (part other : List Char) : Nat → List Char → List Char
  | _, [] => []
  | 0, c :: rest =>
    if part.isPrefixOf (c :: rest) then other ++ replaceAll part other (part.length - 1) rest
    else c :: replaceAll part other 0 rest
  | skipped + 1, _ :: rest => replaceAll part other skipped rest

/-- The order of two texts by their characters. -/
def compareTexts (s t : String) : Ordering :=
  if s = t then .eq else if s < t then .lt else .gt

/-- Integers and texts have an order among themselves; nothing else is ordered here. -/
def compareData : Datum → Datum → Option Ordering
  | .integer m, .integer n => some (Ord.compare m n)
  | .text s, .text t => some (compareTexts s t)
  | _, _ => none

/-- Apply a function to two texts; without two texts the result is null. -/
def onTexts (f : String → String → Datum) : Datum → Datum → Datum
  | .text s, .text t => f s t
  | _, _ => .null

/-- Apply a function to two integers; without two integers the result is null. -/
def onIntegers (f : Int → Int → Int) : Datum → Datum → Datum
  | .integer m, .integer n => .integer (f m n)
  | _, _ => .null

/-- An engine that does what is documented, on integers and texts. -/
def reference : Engine where
  truth
    | .null => none
    | .integer n => some (n != 0)
    | .real x => some (x != 0.0)
    | _ => some false
  compare := compareData
  like
    | .text s, .text pattern => some (Pattern.isLike s pattern)
    | _, _ => none
  plus := onIntegers (· + ·)
  minus := onIntegers (· - ·)
  times := onIntegers (· * ·)
  concat := onTexts fun s t => .text (s ++ t)
  cast datum _ := datum
  jsonQuote
    | .integer n => .text (String.ofList (Decimal.integer n))
    | .text s => .text (Json.string s).compact
    | _ => .null
  length
    | .text s => .integer (s.toList.takeWhile (· ≠ '\x00')).length
    | _ => .null
  instr := onTexts fun s part => .integer (position part.toList s.toList)
  substr
    | .text s, .integer start, .integer count =>
      .text (String.ofList (((s.toList.takeWhile (· ≠ '\x00')).drop (start.toNat - 1)).take
        count.toNat))
    | _, _, _ => .null
  replace
    | .text s, .text part, .text other =>
      if part = "" then .text s
      else .text (String.ofList (replaceAll part.toList other.toList 0 s.toList))
    | _, _, _ => .null

theorem position_pos_iff (part s : List Char) : 0 < position part s ↔ part <:+: s := by
  induction s with
  | nil =>
      rw [position, List.infix_nil]
      cases part <;> simp
  | cons c rest inductionHypothesis =>
      rw [position, List.infix_cons_iff, ← inductionHypothesis]
      by_cases here : part.isPrefixOf (c :: rest) = true
      · rw [if_pos here]
        exact iff_of_true Nat.one_pos (Or.inl (List.isPrefixOf_iff_prefix.mp here))
      · have notHere : ¬ part <+: c :: rest := fun starts =>
          here (List.isPrefixOf_iff_prefix.mpr starts)
        rw [if_neg here]
        cases position part rest <;> simp [notHere]

theorem replaceAll_skip (part other s t : List Char) :
    replaceAll part other s.length (s ++ t) = replaceAll part other 0 t := by
  induction s with
  | nil => rfl
  | cons c rest inductionHypothesis =>
      simpa only [List.length_cons, List.cons_append, replaceAll] using inductionHypothesis

/-- Characters before which the part never starts stay as they are. -/
theorem replaceAll_keep (part other before rest : List Char)
    (none : ∀ u v : List Char, before = u ++ v → v ≠ [] → ¬ part <+: v ++ rest) :
    replaceAll part other 0 (before ++ rest) = before ++ replaceAll part other 0 rest := by
  induction before with
  | nil => rfl
  | cons c tail inductionHypothesis =>
      have notHere : ¬ part.isPrefixOf (c :: (tail ++ rest)) = true := fun starts =>
        none [] (c :: tail) rfl (List.cons_ne_nil c tail) (List.isPrefixOf_iff_prefix.mp starts)
      have later := inductionHypothesis fun u v split nonempty =>
        none (c :: u) v (congrArg (c :: ·) split) nonempty
      rw [List.cons_append, replaceAll, if_neg notHere, later, List.cons_append]

theorem replaceAll_of_absent (part other s : List Char) (absent : ¬ part <:+: s) :
    replaceAll part other 0 s = s := by
  have kept := replaceAll_keep part other s [] fun u v split _ starts => absent (by
    rw [List.append_nil] at starts
    exact split ▸ starts.isInfix.trans (List.suffix_append u v).isInfix)
  simpa only [List.append_nil, replaceAll] using kept

/-- The scan finds what the relation describes. -/
theorem replaceAll_of_replaced (part other s t : List Char) (nonempty : part ≠ [])
    (replaced : Replaced part other s t) : replaceAll part other 0 s = t := by
  induction replaced with
  | absent nowhere => exact replaceAll_of_absent part other _ nowhere
  | @first before after rest leftmost later inductionHypothesis =>
      have kept : replaceAll part other 0 (before ++ (part ++ after)) =
          before ++ replaceAll part other 0 (part ++ after) := by
        apply replaceAll_keep
        intro u v split vNonempty starts
        rcases starts with ⟨tail, found⟩
        have shorter := leftmost u tail (by
          rw [split, List.append_assoc, List.append_assoc, List.append_assoc, found])
        have longer : 0 < v.length := List.length_pos_of_ne_nil vNonempty
        rw [split, List.length_append] at shorter
        omega
      rw [List.append_assoc, kept, List.append_assoc]
      rcases List.exists_cons_of_ne_nil nonempty with ⟨c, tail, rfl⟩
      have here : (c :: tail).isPrefixOf (c :: (tail ++ after)) = true :=
        List.isPrefixOf_iff_prefix.mpr (List.prefix_append (c :: tail) after)
      rw [List.cons_append, replaceAll, if_pos here, List.length_cons, Nat.add_sub_cancel,
        replaceAll_skip, inductionHypothesis]

theorem takeWhile_nonzero {s : List Char} (nonzero : '\x00' ∉ s) :
    s.takeWhile (· ≠ '\x00') = s := by
  have every : ∀ c ∈ s, decide (c ≠ '\x00') = true := fun c member =>
    decide_eq_true fun zero => nonzero (zero ▸ member)
  have whole : (s ++ []).takeWhile (· ≠ '\x00') = s ++ [].takeWhile (· ≠ '\x00') :=
    List.takeWhile_append_of_pos every
  simpa only [List.append_nil, List.takeWhile_nil] using whole

/-- The reference engine has every documented law. -/
theorem reference_documented : reference.Documented where
  truth_null := rfl
  truth_integer _ := rfl
  compare_integer _ _ := rfl
  compare_text s t := by
    simp only [reference, compareData, compareTexts]
    split
    · rename_i same
      simp [same]
    · rename_i different
      split <;> simp [different]
  minus_integer m n least := congrArg Datum.integer (Int.ofNat_sub least).symm
  concat_text _ _ := rfl
  jsonQuote_integer _ := rfl
  jsonQuote_text _ := rfl
  length_text s nonzero := by
    simp only [reference, takeWhile_nonzero nonzero]
  instr_null _ := rfl
  instr_text s part :=
    ⟨position part.toList s.toList, rfl, by
      rw [← position_pos_iff]
      exact Int.natCast_pos⟩
  substr_text s count nonzero := by
    simp only [reference, takeWhile_nonzero nonzero]
    rfl
  replace_text s part other t nonempty _ replaced := by
    have partNonempty : part.toList ≠ [] := fun empty => nonempty (String.toList_eq_nil_iff.mp empty)
    simp only [reference, if_neg nonempty,
      replaceAll_of_replaced _ _ _ _ partNonempty replaced, String.ofList_toList]

end Engine
end DocumentQuery
