import DocumentQuery.Proofs.Sql.Relocation
import DocumentQuery.Proofs.Text.Names

namespace DocumentQuery

open Sql

/-!
# Reading conditions back

The text of a condition and the scalars that are bound for it determine the filter that it was
compiled from.  No two filters are confused: neither their columns, nor the order and the
grouping of their predicates, nor an operator, nor an operand.

A part is *read* when what it writes and what it binds, each followed by anything, determine the
part and what follows.  That is shown from the smallest parts to the largest: quoted names,
paths, rows of placeholders, predicates, conditions, filters.  Parts in a row are read one after
the other, as their separator never ends a row.
-/

namespace Sql

/-! ## Names -/

/-- The tokens of a text without placeholders. -/
def chars (text : String) : List Token :=
  text.toList.map .char

def Expr.tokens (e : Expr) : List Token :=
  e.pieces.flatMap Piece.tokens

def pathTokens (path : List String) : List Token :=
  (pathPieces path).flatMap Piece.tokens

theorem doubled_quote (quote : Char) (s : List Char) (r : List Token) :
    (doubled quote (quote :: s)).map Token.char ++ r =
      .char quote :: .char quote :: ((doubled quote s).map Token.char ++ r) := by
  rw [doubled, if_pos rfl]
  rfl

theorem doubled_other {quote c : Char} (other : c ≠ quote) (s : List Char) (r : List Token) :
    (doubled quote (c :: s)).map Token.char ++ r =
      .char c :: ((doubled quote s).map Token.char ++ r) := by
  rw [doubled, if_neg other]
  rfl

/-- A quoted text ends at the first quote that is not written twice. -/
theorem doubled_inj {quote : Char} {s t : List Char} {r r' : List Token}
    (ends : r.head? ≠ some (.char quote)) (ends' : r'.head? ≠ some (.char quote))
    (same : (doubled quote s).map Token.char ++ .char quote :: r =
      (doubled quote t).map Token.char ++ .char quote :: r') : s = t ∧ r = r' := by
  induction s generalizing t with
  | nil =>
      cases t with
      | nil => exact ⟨rfl, (List.cons.inj same).2⟩
      | cons d others =>
          rcases eq_or_ne d quote with rfl | other
          · rw [doubled_quote] at same
            exact absurd (congrArg List.head? (List.cons.inj same).2) ends
          · rw [doubled_other other] at same
            exact absurd (Token.char.inj (List.cons.inj same).1).symm other
  | cons c rest inductionHypothesis =>
      cases t with
      | nil =>
          rcases eq_or_ne c quote with rfl | other
          · rw [doubled_quote] at same
            exact absurd (congrArg List.head? (List.cons.inj same).2).symm ends'
          · rw [doubled_other other] at same
            exact absurd (Token.char.inj (List.cons.inj same).1) other
      | cons d others =>
          rcases eq_or_ne c quote with rfl | other
          · rcases eq_or_ne d c with rfl | other'
            · rw [doubled_quote, doubled_quote] at same
              have later := inductionHypothesis (List.cons.inj (List.cons.inj same).2).2
              exact ⟨congrArg (d :: ·) later.1, later.2⟩
            · rw [doubled_quote, doubled_other other'] at same
              exact absurd (Token.char.inj (List.cons.inj same).1).symm other'
          · rcases eq_or_ne d quote with rfl | other'
            · rw [doubled_quote, doubled_other other] at same
              exact absurd (Token.char.inj (List.cons.inj same).1) other
            · rw [doubled_other other, doubled_other other'] at same
              have first := Token.char.inj (List.cons.inj same).1
              have later := inductionHypothesis (List.cons.inj same).2
              exact ⟨by rw [first, later.1], later.2⟩

theorem name_inj {name other : String} {r r' : List Token}
    (ends : r.head? ≠ some (.char '"')) (ends' : r'.head? ≠ some (.char '"'))
    (same : (Piece.name name).tokens ++ r = (Piece.name other).tokens ++ r') :
    name = other ∧ r = r' := by
  have tokens_eq (name : String) (r : List Token) : (Piece.name name).tokens ++ r =
      .char '"' :: ((doubled '"' name.toList).map Token.char ++ .char '"' :: r) := by
    simp [Piece.tokens, Piece.text, enclosed]
  rw [tokens_eq, tokens_eq] at same
  have inside := doubled_inj ends ends' (List.cons.inj same).2
  exact ⟨String.toList_injective inside.1, inside.2⟩

/-- What follows continues neither a quoted name nor a path. -/
def EndsPath (r : List Token) : Prop :=
  r.head? ≠ some (.char '"') ∧ r.head? ≠ some (.char '.')

/-- The names of a path after its first one. -/
def laterTokens : List String → List Token
  | [] => []
  | name :: rest => .char '.' :: pathTokens (name :: rest)

theorem pathTokens_cons (name : String) (rest : List String) :
    pathTokens (name :: rest) = (Piece.name name).tokens ++ laterTokens rest := by
  cases rest with
  | nil => rfl
  | cons next others => rfl

theorem head_pathTokens (name : String) (rest : List String) (r : List Token) :
    (pathTokens (name :: rest) ++ r).head? = some (.char '"') := by
  rw [pathTokens_cons]
  rfl

/-- A path is read with what follows it. -/
theorem path_inj {path other : List String} {r r' : List Token} (ends : EndsPath r)
    (ends' : EndsPath r') (same : pathTokens path ++ r = pathTokens other ++ r') :
    path = other ∧ r = r' := by
  induction path generalizing other with
  | nil =>
      cases other with
      | nil => exact ⟨rfl, same⟩
      | cons name rest =>
          have head := head_pathTokens name rest r'
          rw [← same] at head
          exact absurd head ends.1
  | cons name rest inductionHypothesis =>
      cases other with
      | nil =>
          have head := head_pathTokens name rest r
          rw [same] at head
          exact absurd head ends'.1
      | cons name' rest' =>
          have endsName (rest : List String) {r : List Token} (ends : EndsPath r) :
              (laterTokens rest ++ r).head? ≠ some (.char '"') := by
            cases rest with
            | nil => exact ends.1
            | cons next others => simp [laterTokens]
          rw [pathTokens_cons, pathTokens_cons, List.append_assoc, List.append_assoc] at same
          have first := name_inj (endsName rest ends) (endsName rest' ends') same
          have later : rest = rest' ∧ r = r' := by
            have remaining := first.2
            cases rest with
            | nil =>
                cases rest' with
                | nil => exact ⟨rfl, remaining⟩
                | cons next others => exact absurd (congrArg List.head? remaining) ends.2
            | cons next others =>
                cases rest' with
                | nil => exact absurd (congrArg List.head? remaining).symm ends'.2
                | cons next' others' => exact inductionHypothesis (List.cons.inj remaining).2
          exact ⟨by rw [first.1, later.1], later.2⟩

/-! ## Rows of placeholders -/

def rowTokens (numbers : List Nat) : List Token :=
  (paramPieces numbers).flatMap Piece.tokens

/-- The placeholders of a row after its first one. -/
def laterPlaceholders (numbers : List Nat) : List Token :=
  numbers.flatMap fun number => chars ", " ++ [.placeholder number]

theorem laterPlaceholders_cons (number : Nat) (rest : List Nat) :
    laterPlaceholders (number :: rest) =
      .char ',' :: .char ' ' :: .placeholder number :: laterPlaceholders rest := rfl

theorem rowTokens_cons (number : Nat) (rest : List Nat) :
    rowTokens (number :: rest) = .placeholder number :: laterPlaceholders rest := by
  induction rest generalizing number with
  | nil => rfl
  | cons next others inductionHypothesis =>
      have unfolded : rowTokens (number :: next :: others) =
          .placeholder number :: (chars ", " ++ rowTokens (next :: others)) := rfl
      rw [unfolded, inductionHypothesis, laterPlaceholders_cons]
      rfl

theorem laterPlaceholders_inj {first count count' : Nat} {r r' : List Token}
    (same : laterPlaceholders (List.range' first count) ++ .char ')' :: r =
      laterPlaceholders (List.range' first count') ++ .char ')' :: r') :
    count = count' ∧ r = r' := by
  induction count generalizing first count' with
  | zero =>
      cases count' with
      | zero => exact ⟨rfl, (List.cons.inj same).2⟩
      | succ others =>
          rw [List.range'_succ] at same
          exact nomatch Token.char.inj (List.cons.inj same).1
  | succ rest inductionHypothesis =>
      cases count' with
      | zero =>
          rw [List.range'_succ] at same
          exact nomatch Token.char.inj (List.cons.inj same).1
      | succ others =>
          rw [List.range'_succ, List.range'_succ, laterPlaceholders_cons,
            laterPlaceholders_cons] at same
          simp only [List.cons_append, List.cons.injEq, true_and] at same
          have later := inductionHypothesis same
          exact ⟨congrArg (· + 1) later.1, later.2⟩

/-- The length of a row is read with what follows it. -/
theorem row_inj {first count count' : Nat} {r r' : List Token}
    (same : rowTokens (List.range' first count) ++ .char ')' :: r =
      rowTokens (List.range' first count') ++ .char ')' :: r') : count = count' ∧ r = r' := by
  cases count with
  | zero =>
      cases count' with
      | zero => exact ⟨rfl, (List.cons.inj same).2⟩
      | succ others =>
          rw [List.range'_succ, rowTokens_cons] at same
          exact nomatch (List.cons.inj same).1
  | succ rest =>
      cases count' with
      | zero =>
          rw [List.range'_succ, rowTokens_cons] at same
          exact nomatch (List.cons.inj same).1
      | succ others =>
          rw [List.range'_succ, List.range'_succ, rowTokens_cons, rowTokens_cons] at same
          have later := laterPlaceholders_inj (List.cons.inj same).2
          exact ⟨congrArg (· + 1) later.1, later.2⟩

end Sql

/-! ## Predicates -/

/-- The operator of a predicate.  Equality with null is a test of its own. -/
inductive Predicate.Kind where
  | relation (r : Relation)
  | isNull
  | isNotNull
  | like
  | notLike
  | oneOf
  | noneOf
  | contains
  | lacks
deriving DecidableEq

namespace Predicate

def kind : Predicate → Kind
  | .compare .eq .null => .isNull
  | .compare .ne .null => .isNotNull
  | .compare r _ => .relation r
  | .like _ => .like
  | .notLike _ => .notLike
  | .oneOf _ => .oneOf
  | .noneOf _ => .noneOf
  | .contains _ => .contains
  | .lacks _ => .lacks

/-- The scalars of a predicate, as they are given. -/
def values : Predicate → List Scalar
  | .compare .eq .null => []
  | .compare .ne .null => []
  | .compare _ operand => [operand]
  | .like pattern => [pattern]
  | .notLike pattern => [pattern]
  | .oneOf items => items
  | .noneOf items => items
  | .contains element => [element]
  | .lacks element => [element]

theorem length_values (p : Predicate) : p.values.length = p.arity := by
  cases p with
  | compare relation operand => cases relation <;> cases operand <;> rfl
  | _ => rfl

theorem operands_none (p : Predicate) : p.operands none = .ok p.values := by
  cases p with
  | compare relation operand => cases relation <;> cases operand <;> rfl
  | _ => rfl

/-- The predicate with an operator and scalars, if there are as many as the operator takes. -/
def Kind.predicate? : Kind → List Scalar → Option Predicate
  | .relation r, [operand] => some (.compare r operand)
  | .isNull, [] => some (.compare .eq .null)
  | .isNotNull, [] => some (.compare .ne .null)
  | .like, [pattern] => some (.like pattern)
  | .notLike, [pattern] => some (.notLike pattern)
  | .oneOf, items => some (.oneOf items)
  | .noneOf, items => some (.noneOf items)
  | .contains, [element] => some (.contains element)
  | .lacks, [element] => some (.lacks element)
  | _, _ => none

theorem predicate?_kind (p : Predicate) : p.kind.predicate? p.values = some p := by
  cases p with
  | compare relation operand => cases relation <;> cases operand <;> rfl
  | _ => rfl

/-- A predicate consists of its operator and its scalars. -/
theorem eq_of_kind {p q : Predicate} (sameKind : p.kind = q.kind) (sameValues : p.values = q.values) :
    p = q := by
  have found := p.predicate?_kind
  rw [sameKind, sameValues, q.predicate?_kind] at found
  exact (Option.some.inj found).symm

namespace Kind

/-- What is written before the first occurrence of the column. -/
def opening : Kind → String
  | .contains => "(instr("
  | .lacks => "("
  | _ => ""

/-- What is written after the first occurrence of the column, up to a placeholder or a name. -/
def mark : Kind → String
  | .relation r => (Operator.ofRelation r).text
  | .isNull => " is null"
  | .isNotNull => " is not null"
  | .like => " like "
  | .notLike => " not like "
  | .oneOf => " in ("
  | .noneOf => " not in ("
  | .contains => ", "
  | .lacks => " is null or not(instr("

def all : List Kind :=
  [.relation .eq, .relation .ne, .relation .lt, .relation .le, .relation .gt, .relation .ge,
    .isNull, .isNotNull, .like, .notLike, .oneOf, .noneOf, .contains, .lacks]

theorem mem_all (k : Kind) : k ∈ all := by
  cases k with
  | relation r => cases r <;> decide
  | _ => decide

/-- No mark begins another one after the same opening. -/
theorem mark_free {k k' : Kind} (sameOpening : k.opening = k'.opening)
    (begins : chars k.mark <+: chars k'.mark) : k = k' := by
  have free : ∀ k ∈ all, ∀ k' ∈ all, k.opening = k'.opening →
      chars k.mark <+: chars k'.mark → k = k' := by decide +kernel
  exact free k k.mem_all k' k'.mem_all sameOpening begins

/-- What is written for the search of an element, after the first occurrence of the column. -/
def soughtPieces (path : List String) (number : Nat) : List Piece :=
  let column : Expr := .column path
  let element := boundElement number
  element.only.pieces ++ .word ")" :: .word " > " :: (Expr.number 0).pieces ++
    .word " or " :: (occurs column element.first).pieces ++
    .word " or " :: (occurs column element.middle).pieces ++
    .word " or " :: (occurs column element.last).pieces ++ [.word ")"]

/-- What is written after the mark of an operator with so many operands. -/
def tail (path : List String) (bound arity : Nat) : Kind → List Token
  | .isNull => []
  | .isNotNull => []
  | .oneOf => rowTokens (List.range' (bound + 1) arity) ++ [.char ')']
  | .noneOf => rowTokens (List.range' (bound + 1) arity) ++ [.char ')']
  | .contains => (soughtPieces path (bound + 1)).flatMap Piece.tokens
  | .lacks => pathTokens path ++ chars ", " ++
      (soughtPieces path (bound + 1)).flatMap Piece.tokens ++ [.char ')']
  | _ => [.placeholder (bound + 1)]

theorem opening_cases (k : Kind) : k.opening = "" ∨ k.opening = "(instr(" ∨ k.opening = "(" := by
  cases k with
  | contains => exact .inr (.inl rfl)
  | lacks => exact .inr (.inr rfl)
  | _ => exact .inl rfl

theorem head_mark (k : Kind) (r : List Token) :
    (chars k.mark ++ r).head? = some (.char ' ') ∨ (chars k.mark ++ r).head? = some (.char ',') := by
  cases k with
  | relation relation => cases relation <;> exact .inl rfl
  | contains => exact .inr rfl
  | _ => exact .inl rfl

theorem endsPath_mark (k : Kind) (r : List Token) : EndsPath (chars k.mark ++ r) := by
  rcases k.head_mark r with head | head <;> rw [EndsPath, head] <;> decide

end Kind

theorem tokens_written (p : Predicate) (path : List String) (bound : Nat) :
    (p.written (.column path) bound).tokens = chars p.kind.opening ++
      (pathTokens path ++ (chars p.kind.mark ++ p.kind.tail path bound p.arity)) := by
  cases p with
  | compare relation operand =>
      have column (operator : Operator) (number : Nat) :
          (Expr.binary operator (.column path) (.param number)).tokens =
            pathTokens path ++ (chars operator.text ++ [.placeholder number]) := by
        simp only [Expr.tokens, Expr.pieces, List.flatMap_append, List.flatMap_cons]
        rfl
      have null (mark : String) : (pathPieces path ++ [Piece.word mark]).flatMap Piece.tokens =
          pathTokens path ++ (chars mark ++ []) := by
        simp only [List.flatMap_append, List.flatMap_cons]
        rfl
      cases relation with
      | eq =>
          cases operand with
          | null => exact null " is null"
          | _ => exact column .eq (bound + 1)
      | ne =>
          cases operand with
          | null => exact null " is not null"
          | _ => exact column .ne (bound + 1)
      | lt => exact column .lt (bound + 1)
      | le => exact column .le (bound + 1)
      | gt => exact column .gt (bound + 1)
      | ge => exact column .ge (bound + 1)
  | contains element =>
      simp only [written, Expr.tokens, Expr.pieces, Positions.contained, occurs, kind, Kind.tail,
        Kind.soughtPieces, List.flatMap_append, List.flatMap_cons, List.append_assoc,
        List.cons_append]
      rfl
  | lacks element =>
      simp only [written, Expr.tokens, Expr.pieces, Positions.contained, occurs, kind, Kind.tail,
        Kind.soughtPieces, List.flatMap_append, List.flatMap_cons, List.append_assoc,
        List.cons_append]
      rfl
  | _ =>
      simp only [written, Expr.tokens, Expr.pieces, List.flatMap_append, List.flatMap_cons,
        List.append_assoc]
      rfl

/-- No opening is read as another one before a column with its mark. -/
theorem Kind.opening_inj {k k' : Kind} {path path' : List String} {r r' : List Token}
    (same : chars k.opening ++ (pathTokens path ++ (chars k.mark ++ r)) =
      chars k'.opening ++ (pathTokens path' ++ (chars k'.mark ++ r'))) :
    k.opening = k'.opening := by
  have head (k : Kind) (path : List String) (r : List Token) :
      (pathTokens path ++ (chars k.mark ++ r)).head? ≠ some (.char '(') ∧
        (pathTokens path ++ (chars k.mark ++ r)).head? ≠ some (.char 'i') := by
    cases path with
    | nil => rcases k.head_mark r with head | head <;> simp [pathTokens, pathPieces, head]
    | cons name rest =>
        rw [head_pathTokens]
        decide
  rcases k.opening_cases with opening | opening | opening <;>
    rcases k'.opening_cases with opening' | opening' | opening' <;>
      rw [opening, opening'] at same ⊢
  · exact ((head k path r).1 (congrArg List.head? same)).elim
  · exact ((head k path r).1 (congrArg List.head? same)).elim
  · exact ((head k' path' r').1 (congrArg List.head? same).symm).elim
  · exact ((head k' path' r').2 (congrArg List.head? (List.cons.inj same).2).symm).elim
  · exact ((head k' path' r').1 (congrArg List.head? same).symm).elim
  · exact ((head k path r).2 (congrArg List.head? (List.cons.inj same).2)).elim

theorem Kind.mark_inj {k k' : Kind} {r r' : List Token} (sameOpening : k.opening = k'.opening)
    (same : chars k.mark ++ r = chars k'.mark ++ r') : k = k' ∧ r = r' := by
  have begins : chars k.mark <+: chars k'.mark ++ r' := ⟨r, same⟩
  have sameKind : k = k' := by
    rcases List.prefix_or_prefix_of_prefix begins (List.prefix_append _ _) with shorter | shorter
    · exact mark_free sameOpening shorter
    · exact (mark_free sameOpening.symm shorter).symm
  subst sameKind
  exact ⟨rfl, List.append_cancel_left same⟩

/-- The number of operands of an operator; a row has as many as it is given. -/
def Kind.arity (count : Nat) : Kind → Nat
  | .isNull => 0
  | .isNotNull => 0
  | .oneOf => count
  | .noneOf => count
  | _ => 1

theorem arity_kind (p : Predicate) : p.kind.arity p.arity = p.arity := by
  cases p with
  | compare relation operand => cases relation <;> cases operand <;> rfl
  | _ => rfl

theorem Kind.tail_inj {k : Kind} {path : List String} {bound count count' : Nat} {r r' : List Token}
    (same : k.tail path bound count ++ r = k.tail path bound count' ++ r') :
    k.arity count = k.arity count' ∧ r = r' := by
  have row (same : rowTokens (List.range' (bound + 1) count) ++ [.char ')'] ++ r =
      rowTokens (List.range' (bound + 1) count') ++ [.char ')'] ++ r') :
      count = count' ∧ r = r' := by
    rw [List.append_assoc, List.append_assoc] at same
    exact row_inj same
  cases k with
  | oneOf => exact row same
  | noneOf => exact row same
  | _ => exact ⟨rfl, List.append_cancel_left same⟩

/-- A predicate on a column is read with what follows it. -/
theorem written_inj {p q : Predicate} {path path' : List String} {bound : Nat}
    {r r' : List Token} {s s' : List Scalar}
    (sameTokens : (p.written (.column path) bound).tokens ++ r =
      (q.written (.column path') bound).tokens ++ r')
    (sameValues : p.values ++ s = q.values ++ s') :
    path = path' ∧ p = q ∧ r = r' ∧ s = s' := by
  simp only [tokens_written, List.append_assoc] at sameTokens
  have sameOpening := Kind.opening_inj sameTokens
  rw [sameOpening, List.append_right_inj] at sameTokens
  have afterPath := path_inj (Kind.endsPath_mark _ _) (Kind.endsPath_mark _ _) sameTokens
  have afterMark := Kind.mark_inj sameOpening afterPath.2
  have afterTail := afterMark.2
  rw [afterPath.1, afterMark.1] at afterTail
  have afterAll := Kind.tail_inj afterTail
  have sameArity : p.arity = q.arity := by
    rw [← p.arity_kind, ← q.arity_kind, afterMark.1]
    exact afterAll.1
  have sameLength : p.values.length = q.values.length := by
    rw [p.length_values, q.length_values, sameArity]
  have split := List.append_inj sameValues sameLength
  exact ⟨afterPath.1, eq_of_kind afterMark.1 split.1, afterAll.2, split.2⟩

end Predicate

/-! ## Parts in a row -/

namespace Sql

section

variable {β : Type} {arity : β → Nat} {written : β → Nat → Expr} {values : β → List Scalar}
  {valid : β → Prop}

/-- The tokens of parts after the first one of a conjunction. -/
def laterParts (arity : β → Nat) (written : β → Nat → Expr) (bound : Nat) (parts : List β) :
    List Token :=
  (writtenOf arity written bound parts).flatMap fun e => chars " and " ++ e.tokens

/-- Valid parts are read with what follows them. -/
def Readable (written : β → Nat → Expr) (values : β → List Scalar) (valid : β → Prop) : Prop :=
  ∀ (part other : β) (bound : Nat) (r r' : List Token) (s s' : List Scalar),
    valid part → valid other →
    (written part bound).tokens ++ r = (written other bound).tokens ++ r' →
    values part ++ s = values other ++ s' → part = other ∧ r = r' ∧ s = s'

theorem tokens_conjunction (first : Expr) (rest : List Expr) :
    (conjunction (first :: rest)).tokens =
      first.tokens ++ rest.flatMap fun e => chars " and " ++ e.tokens := by
  rw [conjunction]
  induction rest generalizing first with
  | nil => exact (List.append_nil _).symm
  | cons next others inductionHypothesis =>
      have joined : (Expr.binary .and first next).tokens =
          first.tokens ++ (chars " and " ++ next.tokens) := by
        rw [Expr.tokens, Expr.pieces, List.flatMap_append]
        rfl
      rw [List.foldl_cons, inductionHypothesis, joined, List.flatMap_cons, List.append_assoc]

theorem tokens_group (e : Expr) (r : List Token) :
    (Expr.group e).tokens ++ r = .char '(' :: (e.tokens ++ .char ')' :: r) := by
  rw [Expr.tokens, Expr.pieces, List.flatMap_append, List.flatMap_cons, List.append_assoc,
    List.append_assoc]
  rfl

/-- The tokens of parts that are joined by `and`. -/
theorem tokens_parts (bound : Nat) (part : β) (rest : List β) (r : List Token) :
    (conjunction (writtenOf arity written bound (part :: rest))).tokens ++ r =
      (written part bound).tokens ++ (laterParts arity written (bound + arity part) rest ++ r) := by
  rw [writtenOf, tokens_conjunction, List.append_assoc]
  rfl

theorem laterParts_cons (bound : Nat) (part : β) (rest : List β) (r : List Token) :
    laterParts arity written bound (part :: rest) ++ r = chars " and " ++
      ((written part bound).tokens ++ (laterParts arity written (bound + arity part) rest ++ r)) := by
  simp only [laterParts, writtenOf, List.flatMap_cons, List.append_assoc]

/-- Parts in a row are read one after the other, until something else than the separator
follows. -/
theorem laterParts_inj (readable : Readable written values valid) {bound : Nat}
    {parts others : List β} {r r' : List Token} {s s' : List Scalar}
    (partsValid : ∀ part ∈ parts, valid part) (othersValid : ∀ part ∈ others, valid part)
    (ends : r.head? ≠ some (.char ' ')) (ends' : r'.head? ≠ some (.char ' '))
    (sameTokens : laterParts arity written bound parts ++ r =
      laterParts arity written bound others ++ r')
    (sameValues : parts.flatMap values ++ s = others.flatMap values ++ s') :
    parts = others ∧ r = r' ∧ s = s' := by
  induction parts generalizing bound others with
  | nil =>
      cases others with
      | nil => exact ⟨rfl, sameTokens, sameValues⟩
      | cons part rest =>
          rw [laterParts_cons] at sameTokens
          exact absurd (congrArg List.head? sameTokens) ends
  | cons part rest inductionHypothesis =>
      cases others with
      | nil =>
          rw [laterParts_cons] at sameTokens
          exact absurd (congrArg List.head? sameTokens).symm ends'
      | cons part' rest' =>
          rw [laterParts_cons, laterParts_cons, List.append_right_inj] at sameTokens
          rw [List.flatMap_cons, List.flatMap_cons, List.append_assoc, List.append_assoc]
            at sameValues
          have first := readable part part' bound _ _ _ _ (partsValid part List.mem_cons_self)
            (othersValid part' List.mem_cons_self) sameTokens sameValues
          rcases first with ⟨rfl, laterTokens, laterValues⟩
          have later := inductionHypothesis
            (fun other member => partsValid other (List.mem_cons_of_mem part member))
            (fun other member => othersValid other (List.mem_cons_of_mem part member))
            laterTokens laterValues
          exact ⟨by rw [later.1], later.2⟩

end

end Sql

/-! ## Conditions and filters -/

/-- No two texts make references with the same names. -/
theorem Reference.path_ofText_inj {text other : String}
    (same : (ofText text).path = (ofText other).path) : text = other := by
  have joined (text : String) : text.toList =
      ['.'].intercalate ((ofText text).path.map String.toList) := by
    rw [ofText]
    split
    · rename_i qualifier column split
      rw [(Text.eq_of_splitAtFirst split).1]
      simp [path, List.intercalate]
    · simp [path, List.intercalate]
  apply String.toList_injective
  rw [joined text, joined other, same]

def Condition.values (c : Condition) : List Scalar :=
  c.predicates.flatMap Predicate.values

/-- Parts in a row bind what each of them binds. -/
theorem Sql.operandsOf_eq {β : Type} {operands : β → Except QueryError (List Scalar)}
    {values : β → List Scalar}
    (each : ∀ (part : β) (own : List Scalar), operands part = .ok own → own = values part)
    {parts : List β} {all : List Scalar} (accepted : operandsOf operands parts = .ok all) :
    all = parts.flatMap values := by
  induction parts generalizing all with
  | nil => exact (Except.ok.inj accepted).symm
  | cons part rest inductionHypothesis =>
      rcases bind_ok accepted with ⟨own, first, later⟩
      cases rest_eq : operandsOf operands rest with
      | error error =>
          rw [rest_eq] at later
          exact nomatch later
      | ok others =>
          rw [rest_eq] at later
          rw [List.flatMap_cons, ← each part own first, ← inductionHypothesis rest_eq]
          exact (Except.ok.inj later).symm

/-- Columns as they are named have no types, and operands are bound as they are given. -/
theorem Condition.operands_asNamed {c : Condition} {values : List Scalar}
    (accepted : c.operands .asNamed = .ok values) : c.predicates ≠ [] ∧ values = c.values := by
  rcases bind_ok accepted with ⟨_, _, accepted⟩
  by_cases empty : c.predicates.isEmpty = true
  · rw [if_pos empty] at accepted
    exact nomatch accepted
  · rw [if_neg empty] at accepted
    have each (p : Predicate) (own : List Scalar)
        (accepted : p.operands (Columns.asNamed.type? c.column) = .ok own) : own = p.values := by
      have given := p.operands_none
      exact Except.ok.inj (accepted.symm.trans given)
    exact ⟨fun nil => empty (List.isEmpty_iff.mpr nil), operandsOf_eq each accepted⟩

theorem Sql.readable_predicates (path : List String) :
    Readable (Predicate.written (.column path)) Predicate.values fun _ => True := by
  intro p q bound r r' s s' _ _ sameTokens sameValues
  exact (Predicate.written_inj sameTokens sameValues).2

/-- A condition is read with what follows it.  Its first predicate shows its column. -/
theorem Sql.readable_conditions :
    Readable (Condition.written .asNamed) Condition.values fun c => c.predicates ≠ [] := by
  intro c d bound r r' s s' cValid dValid sameTokens sameValues
  rcases c with ⟨column, _ | ⟨p, rest⟩⟩
  · exact absurd rfl cValid
  rcases d with ⟨column', _ | ⟨q, rest'⟩⟩
  · exact absurd rfl dValid
  have tokens_eq (column : String) (p : Predicate) (rest : List Predicate) (r : List Token) :
      ((⟨column, p :: rest⟩ : Condition).written .asNamed bound).tokens ++ r = .char '(' ::
        ((p.written (.column (Reference.ofText column).path) bound).tokens ++
          (laterParts Predicate.arity (Predicate.written (.column (Reference.ofText column).path))
            (bound + p.arity) rest ++ .char ')' :: r)) := by
    rw [Condition.written, tokens_group, tokens_parts]
    rfl
  rw [tokens_eq, tokens_eq] at sameTokens
  rw [Condition.values, Condition.values, List.flatMap_cons, List.flatMap_cons, List.append_assoc,
    List.append_assoc] at sameValues
  rcases Predicate.written_inj (List.cons.inj sameTokens).2 sameValues with
    ⟨samePath, rfl, laterTokens, laterValues⟩
  rw [samePath] at laterTokens
  have closes (r : List Token) : (Token.char ')' :: r).head? ≠ some (.char ' ') := by
    simp
  have later := laterParts_inj (readable_predicates _) (fun _ _ => trivial) (fun _ _ => trivial)
    (closes r) (closes r') laterTokens laterValues
  rcases later with ⟨rfl, remaining, bound_eq⟩
  exact ⟨by rw [Reference.path_ofText_inj samePath], (List.cons.inj remaining).2, bound_eq⟩

theorem Filter.operands_asNamed {c : Condition} {rest : List Condition} {values : List Scalar}
    (accepted : (⟨c :: rest⟩ : Filter).operands .asNamed = .ok values) :
    (∀ d ∈ c :: rest, d.predicates ≠ []) ∧ values = (c :: rest).flatMap Condition.values := by
  have parts : operandsOf (Condition.operands .asNamed) (c :: rest) = .ok values := accepted
  constructor
  · intro d member
    rcases operandsOf_ok parts d member with ⟨own, accepted⟩
    exact (Condition.operands_asNamed accepted).1
  · exact operandsOf_eq (fun _ _ accepted => (Condition.operands_asNamed accepted).2) parts

/-- What is compiled consists of the text that is written and of the operands. -/
theorem Filter.compiled_eq {columns : Columns} {f : Filter} {params : List Scalar}
    {compiled : String × List Scalar} (accepted : conditionText columns f params = .ok compiled) :
    ∃ values, f.operands columns = .ok values ∧
      tokens compiled.1 = (f.written columns params.length).tokens ∧
      compiled.2 = params ++ values := by
  rw [conditionText_eq] at accepted
  cases operands_eq : f.operands columns with
  | error error =>
      rw [operands_eq] at accepted
      exact nomatch accepted
  | ok values =>
      rw [operands_eq] at accepted
      rw [← Except.ok.inj accepted]
      exact ⟨values, rfl, tokens_piecesText (f.separate_written columns params.length), rfl⟩

theorem Filter.tokens_written_cons (c : Condition) (rest : List Condition) (bound : Nat) :
    ((⟨c :: rest⟩ : Filter).written .asNamed bound).tokens =
      (c.written .asNamed bound).tokens ++ (laterParts Condition.arity
        (Condition.written .asNamed) (bound + c.arity) rest ++ []) := by
  rw [← tokens_parts, List.append_nil]
  rfl

/-- A condition begins with a parenthesis, and the filter without conditions with a placeholder. -/
theorem Filter.tokens_written_ne (c : Condition) (rest : List Condition) (bound : Nat) :
    ((⟨[]⟩ : Filter).written .asNamed bound).tokens ≠
      ((⟨c :: rest⟩ : Filter).written .asNamed bound).tokens := by
  intro same
  rw [tokens_written_cons, Condition.written, tokens_group] at same
  cases (List.cons.inj same).1

/-- The text of a filter and what is bound for it determine the filter: its columns, the order
and the grouping of its predicates, their operators and their operands. -/
theorem Filter.eq_of_conditionText {f g : Filter} {params : List Scalar}
    {compiled : String × List Scalar} (left : conditionText .asNamed f params = .ok compiled)
    (right : conditionText .asNamed g params = .ok compiled) : f = g := by
  rcases compiled_eq left with ⟨values, accepted, tokens_eq, bound_eq⟩
  rcases compiled_eq right with ⟨values', accepted', tokens_eq', bound_eq'⟩
  have sameTokens := tokens_eq.symm.trans tokens_eq'
  have sameValues := List.append_cancel_left (bound_eq.symm.trans bound_eq')
  rcases f with ⟨_ | ⟨c, rest⟩⟩
  · rcases g with ⟨_ | ⟨d, others⟩⟩
    · rfl
    · exact absurd sameTokens (tokens_written_ne d others _)
  · rcases g with ⟨_ | ⟨d, others⟩⟩
    · exact absurd sameTokens.symm (tokens_written_ne c rest _)
    · rcases operands_asNamed accepted with ⟨valid, values_eq⟩
      rcases operands_asNamed accepted' with ⟨valid', values_eq'⟩
      rw [values_eq, values_eq', List.flatMap_cons, List.flatMap_cons] at sameValues
      rw [tokens_written_cons, tokens_written_cons] at sameTokens
      rcases readable_conditions c d _ _ _ _ _ (valid c List.mem_cons_self)
        (valid' d List.mem_cons_self) sameTokens sameValues with ⟨rfl, laterTokens, laterValues⟩
      have ends : ([] : List Token).head? ≠ some (.char ' ') := (Option.some_ne_none _).symm
      rw [← List.append_nil (rest.flatMap _), ← List.append_nil (others.flatMap _)] at laterValues
      have later := laterParts_inj readable_conditions
        (fun other member => valid other (List.mem_cons_of_mem c member))
        (fun other member => valid' other (List.mem_cons_of_mem c member))
        ends ends laterTokens laterValues
      rw [later.1]

/-- Two orders of requiring the same predicates of each column compile to the same text, so they
make the same filter. -/
theorem Filter.eq_of_conditionText_pushed :
    let f := ((all.push "a" (.oneOf [])).push "t.b" (.compare .eq .null)).push "a" (.lacks .null)
    let g := ((all.push "a" (.oneOf [])).push "a" (.lacks .null)).push "t.b" (.compare .eq .null)
    ∃ compiled, conditionText .asNamed f [.bool true] = .ok compiled ∧
      conditionText .asNamed g [.bool true] = .ok compiled ∧ f = g := by
  intro f g
  have left : ∃ compiled, conditionText .asNamed f [.bool true] = .ok compiled := ⟨_, rfl⟩
  rcases left with ⟨compiled, left⟩
  have right : conditionText .asNamed g [.bool true] = .ok compiled := left
  exact ⟨compiled, left, right, eq_of_conditionText left right⟩

end DocumentQuery
