import DocumentQuery.Proofs.Sql.Requests
import DocumentQuery.Proofs.Sql.Separation

namespace DocumentQuery

open Sql

/-!
# Numbers in a row

A part of a statement is `Numbered` from some number of bound scalars if the first
occurrences of its placeholders are the numbers after that, one for each operand and in
order.  Parts that are built one after the other are numbered one after the other, so it is
enough to look at each predicate, change and column once.  A set operator mentions one
number many times, and still has one operand.
-/

namespace Sql

/-- The first occurrences are the numbers after `bound`, as many as there are operands, in
order. -/
def Numbered (bound arity : Nat) (numbers : List Nat) : Prop :=
  numbers.eraseDups = List.range' (bound + 1) arity

namespace Numbered

theorem nil (bound : Nat) : Numbered bound 0 [] := rfl

theorem append {bound arity laterArity : Nat} {first later : List Nat}
    (numberedFirst : Numbered bound arity first)
    (numberedLater : Numbered (bound + arity) laterArity later) :
    Numbered bound (arity + laterArity) (first ++ later) := by
  have fresh : later.removeAll first = later := by
    rw [List.removeAll, List.filter_eq_self]
    intro number member
    have new : number ∈ List.range' (bound + arity + 1) laterArity := by
      rw [← numberedLater]
      exact List.mem_eraseDups.mpr member
    have notOld : number ∉ first := by
      intro old
      have known : number ∈ List.range' (bound + 1) arity := by
        rw [← numberedFirst]
        exact List.mem_eraseDups.mpr old
      rw [List.mem_range'_1] at new known
      omega
    simpa using notOld
  rw [Numbered, List.eraseDups_append, fresh, numberedFirst, numberedLater,
    Nat.add_right_comm bound arity 1, List.range'_append_1]

theorem repeated (bound times : Nat) :
    Numbered bound 1 (List.replicate (times + 1) (bound + 1)) := by
  have others : (List.replicate times (bound + 1)).filter (fun n => !n == bound + 1) = [] := by
    rw [List.filter_eq_nil_iff]
    intro number member
    rw [List.eq_of_mem_replicate member, beq_self_eq_true]
    decide
  rw [Numbered, List.replicate_succ, List.eraseDups_cons, others]
  rfl

theorem row (bound arity : Nat) : Numbered bound arity (List.range' (bound + 1) arity) := by
  induction arity generalizing bound with
  | zero => exact nil bound
  | succ arity inductionHypothesis =>
      have numbered := (repeated bound 0).append (inductionHypothesis (bound + 1))
      rw [Nat.add_comm 1 arity] at numbered
      exact numbered

theorem writtenOf {α β : Type} {arity : β → Nat} {written : β → Nat → α} {numbers : α → List Nat}
    {parts : List β} (bound : Nat)
    (each : ∀ part ∈ parts, ∀ bound : Nat,
      Numbered bound (arity part) (numbers (written part bound))) :
    Numbered bound (arityOf arity parts) ((writtenOf arity written bound parts).flatMap numbers) := by
  induction parts generalizing bound with
  | nil => exact nil bound
  | cons part rest inductionHypothesis =>
      have first := each part List.mem_cons_self bound
      have later := inductionHypothesis (bound + arity part) fun other member =>
        each other (List.mem_cons_of_mem part member)
      exact first.append later

end Numbered

/-! ## Set columns -/

theorem plain_contained (path : List String) (number : Nat) :
    ((Predicate.boundElement number).contained (.column path)).Plain := by
  simp [Predicate.boundElement, Positions.of, Positions.contained, occurs, between]

theorem plain_inserted (path : List String) (number : Nat) :
    ((Predicate.boundElement number).inserted (.column path)).Plain := by
  simp [Predicate.boundElement, Positions.of, Positions.inserted, occurs, between]

theorem plain_removed (path : List String) (number : Nat) :
    ((Predicate.boundElement number).removed (.column path)).Plain := by
  simp [Predicate.boundElement, Positions.of, Positions.removed, occurs, between]

theorem paramsOf_contained (path : List String) (number : Nat) :
    paramsOf ((Predicate.boundElement number).contained (.column path)).pieces =
      List.replicate 4 number := by
  simp [Predicate.boundElement, Positions.of, Positions.contained, occurs, between]

theorem paramsOf_inserted (path : List String) (number : Nat) :
    paramsOf ((Predicate.boundElement number).inserted (.column path)).pieces =
      List.replicate 6 number := by
  simp [Predicate.boundElement, Positions.of, Positions.inserted, occurs, between]

theorem paramsOf_removed (path : List String) (number : Nat) :
    paramsOf ((Predicate.boundElement number).removed (.column path)).pieces =
      List.replicate 7 number := by
  simp [Predicate.boundElement, Positions.of, Positions.removed, occurs, between]

/-! ## Conjunctions -/

theorem plain_conjunction {expressions : List Expr} (each : ∀ e ∈ expressions, e.Plain) :
    (conjunction expressions).Plain := by
  cases expressions with
  | nil => trivial
  | cons first rest =>
      rw [conjunction]
      have plainFirst := each first List.mem_cons_self
      have plainRest : ∀ e ∈ rest, e.Plain := fun e member =>
        each e (List.mem_cons_of_mem first member)
      clear each
      induction rest generalizing first with
      | nil => exact plainFirst
      | cons next others inductionHypothesis =>
          have joined : (Expr.binary .and first next).Plain :=
            ⟨plainFirst, plainRest next List.mem_cons_self⟩
          exact inductionHypothesis _ joined fun e member =>
            plainRest e (List.mem_cons_of_mem next member)

theorem paramsOf_conjunction (expressions : List Expr) :
    paramsOf (conjunction expressions).pieces = expressions.flatMap fun e => paramsOf e.pieces := by
  cases expressions with
  | nil => rfl
  | cons first rest =>
      rw [conjunction, List.flatMap_cons]
      induction rest generalizing first with
      | nil => rw [List.foldl_nil, List.flatMap_nil, List.append_nil]
      | cons next others inductionHypothesis =>
          rw [List.foldl_cons, inductionHypothesis, Expr.pieces, paramsOf_append, paramsOf_word,
            List.flatMap_cons, List.append_assoc]

theorem mem_writtenOf {α β : Type} {arity : β → Nat} {written : β → Nat → α} {bound : Nat}
    {parts : List β} {a : α} (member : a ∈ writtenOf arity written bound parts) :
    ∃ part ∈ parts, ∃ before : Nat, a = written part before := by
  induction parts generalizing bound with
  | nil => exact nomatch member
  | cons part rest inductionHypothesis =>
      rcases List.mem_cons.mp member with rfl | later
      · exact ⟨part, List.mem_cons_self, bound, rfl⟩
      · rcases inductionHypothesis later with ⟨other, otherMember, before, same⟩
        exact ⟨other, List.mem_cons_of_mem part otherMember, before, same⟩

end Sql

/-! ## Filters -/

namespace Predicate

theorem plain_written (path : List String) (p : Predicate) (bound : Nat) :
    (p.written (.column path) bound).Plain := by
  cases p with
  | compare relation operand =>
      cases relation <;> cases operand
      all_goals simp [written]
  | like pattern => exact ⟨trivial, trivial⟩
  | notLike pattern => exact ⟨trivial, trivial⟩
  | oneOf items => trivial
  | noneOf items => trivial
  | contains element => exact plain_contained path (bound + 1)
  | lacks element => exact ⟨trivial, plain_contained path (bound + 1)⟩

theorem numbered_written (path : List String) (p : Predicate) (bound : Nat) :
    Numbered bound p.arity (paramsOf (p.written (.column path) bound).pieces) := by
  cases p with
  | compare relation operand =>
      cases relation <;> cases operand
      all_goals simp only [written, arity, Expr.pieces, paramsOf_append, paramsOf_pathPieces,
        paramsOf_word, paramsOf_param, paramsOf_nil, List.nil_append]
      all_goals first
        | exact Numbered.nil bound
        | exact Numbered.row bound 1
  | like pattern =>
      simp only [written, Expr.pieces, paramsOf_append, paramsOf_pathPieces]
      exact Numbered.row bound 1
  | notLike pattern =>
      simp only [written, Expr.pieces, paramsOf_append, paramsOf_pathPieces]
      exact Numbered.row bound 1
  | oneOf items =>
      simp only [written, Expr.pieces, paramsOf_append, paramsOf_pathPieces, paramsOf_word,
        paramsOf_paramPieces, paramsOf_nil, List.append_nil, List.nil_append]
      exact Numbered.row bound items.length
  | noneOf items =>
      simp only [written, Expr.pieces, paramsOf_append, paramsOf_pathPieces, paramsOf_word,
        paramsOf_paramPieces, paramsOf_nil, List.append_nil, List.nil_append]
      exact Numbered.row bound items.length
  | contains element =>
      rw [written, paramsOf_contained]
      exact Numbered.repeated bound 3
  | lacks element =>
      simp only [written, Expr.pieces, paramsOf_append, paramsOf_word, paramsOf_pathPieces,
        paramsOf_contained, paramsOf_nil, List.append_nil, List.nil_append]
      exact Numbered.repeated bound 3

end Predicate

theorem Condition.plain_written (columns : Columns) (c : Condition) (bound : Nat) :
    (c.written columns bound).Plain := by
  apply plain_conjunction
  intro e member
  rcases mem_writtenOf member with ⟨p, _, before, rfl⟩
  exact p.plain_written (columns.path c.column) before

theorem Condition.numbered_written (columns : Columns) (c : Condition) (bound : Nat) :
    Numbered bound c.arity (paramsOf (c.written columns bound).pieces) := by
  rw [Condition.written, Expr.pieces, paramsOf_append, paramsOf_word, paramsOf_conjunction,
    paramsOf_word, paramsOf_nil, List.append_nil]
  exact Numbered.writtenOf bound fun p _ before => p.numbered_written _ before

theorem Filter.plain_written (columns : Columns) (f : Filter) (bound : Nat) :
    (f.written columns bound).Plain := by
  rw [Filter.written]
  by_cases empty : f.isEmpty = true
  · rw [if_pos empty]
    exact ⟨trivial, trivial⟩
  · rw [if_neg empty]
    apply plain_conjunction
    intro e member
    rcases mem_writtenOf member with ⟨c, _, before, rfl⟩
    exact c.plain_written columns before

theorem Filter.numbered_written (columns : Columns) (f : Filter) (bound : Nat) :
    Numbered bound f.arity (paramsOf (f.written columns bound).pieces) := by
  rw [Filter.written, Filter.arity]
  by_cases empty : f.isEmpty = true
  · rw [if_pos empty, if_pos empty]
    exact Numbered.row bound 2
  · rw [if_neg empty, if_neg empty, paramsOf_conjunction]
    exact Numbered.writtenOf bound fun c _ before => c.numbered_written columns before

theorem Filter.separate_written (columns : Columns) (f : Filter) (bound : Nat) :
    Separate (f.written columns bound).pieces :=
  (f.written columns bound).separate_pieces (f.plain_written columns bound)

/-! ## Changes and rows -/

/-- If parts in a row have operands, each of them has. -/
theorem Sql.operandsOf_ok {β : Type} {operands : β → Except QueryError (List Scalar)}
    {parts : List β} {values : List Scalar} (accepted : operandsOf operands parts = .ok values) :
    ∀ part ∈ parts, ∃ own : List Scalar, operands part = .ok own := by
  induction parts generalizing values with
  | nil => exact fun _ member => nomatch member
  | cons part rest inductionHypothesis =>
      rcases bind_ok accepted with ⟨own, first, later⟩
      intro other member
      rcases List.mem_cons.mp member with rfl | member
      · exact ⟨own, first⟩
      · cases rest_eq : operandsOf operands rest with
        | error error =>
            rw [rest_eq] at later
            exact nomatch later
        | ok others => exact inductionHypothesis rest_eq other member

/-- What is wrong with the operands of parts in a row is wrong with those of one of them. -/
theorem Sql.operandsOf_error {β : Type} {operands : β → Except QueryError (List Scalar)}
    {parts : List β} {error : QueryError} (refused : operandsOf operands parts = .error error) :
    ∃ part ∈ parts, operands part = .error error := by
  induction parts with
  | nil => exact nomatch refused
  | cons part rest inductionHypothesis =>
      rw [operandsOf] at refused
      cases first : operands part with
      | error firstError =>
          rw [first] at refused
          cases refused
          exact ⟨part, List.mem_cons_self, first⟩
      | ok own =>
          rw [first, ok_bind] at refused
          cases later : operandsOf operands rest with
          | ok others =>
              rw [later] at refused
              exact nomatch refused
          | error laterError =>
              rw [later] at refused
              cases refused
              rcases inductionHypothesis later with ⟨other, member, otherRefused⟩
              exact ⟨other, List.mem_cons_of_mem part member, otherRefused⟩

theorem ColumnType.plain_declaration {type : ColumnType} (numeric : type.isNumeric = true) :
    type.declaration.toList.all isPlain = true := by
  cases type with
  | integer => decide
  | real => decide
  | _ => exact absurd numeric Bool.false_ne_true

/-- Only columns of numbers are multiplied, and their types are plain words. -/
theorem Change.plain_written {column : String} {type : ColumnType} {change : Change}
    {values : List Scalar} (accepted : change.operands column type = .ok values) (bound : Nat) :
    (change.written column type bound).Plain := by
  cases change with
  | multiply value =>
      by_cases numeric : type.isNumeric = true
      · exact ⟨⟨trivial, trivial⟩, ColumnType.plain_declaration numeric⟩
      · rw [operands, if_neg numeric] at accepted
        exact nomatch accepted
  | add value =>
      rw [written]
      by_cases numeric : type.isNumeric = true
      · rw [if_pos numeric]
        exact ⟨trivial, trivial⟩
      · rw [if_neg numeric]
        by_cases set : type.isSet = true
        · rw [if_pos set]
          exact plain_inserted _ (bound + 1)
        · rw [if_neg set]
          exact ⟨trivial, trivial⟩
  | remove value => exact plain_removed _ (bound + 1)
  | set value => trivial
  | _ => exact ⟨trivial, trivial⟩

theorem Change.numbered_written (column : String) (type : ColumnType) (change : Change)
    (bound : Nat) : Numbered bound 1 (paramsOf (change.written column type bound).pieces) := by
  have operation (operator : Operator) (path : List String) : Numbered bound 1
      (paramsOf (Expr.binary operator (.column path) (.param (bound + 1))).pieces) := by
    simp only [Expr.pieces, paramsOf_append, paramsOf_pathPieces]
    exact Numbered.row bound 1
  cases change with
  | set value => exact Numbered.row bound 1
  | increase value => exact operation .plus _
  | decrease value => exact operation .minus _
  | multiply value =>
      rw [written, Expr.pieces, paramsOf_append, paramsOf_word, paramsOf_word, paramsOf_nil,
        List.append_nil]
      exact operation .times _
  | add value =>
      rw [written]
      by_cases numeric : type.isNumeric = true
      · rw [if_pos numeric]
        exact operation .plus _
      · rw [if_neg numeric]
        by_cases set : type.isSet = true
        · rw [if_pos set, paramsOf_inserted]
          exact Numbered.repeated bound 5
        · rw [if_neg set]
          exact operation .concat _
  | remove value =>
      rw [written, paramsOf_removed]
      exact Numbered.repeated bound 6

namespace Changes

/-- An assignment that is accepted can be read, and has one number. -/
theorem entryWritten_ok {table : Table} {entry : String × Change} {values : List Scalar}
    (accepted : entryOperands table entry = .ok values) (bound : Nat) :
    Separate (entryWritten table entry bound) ∧
      Numbered bound 1 (paramsOf (entryWritten table entry bound)) := by
  rcases bind_ok accepted with ⟨_, _, accepted⟩
  rcases bind_ok accepted with ⟨type, known, accepted⟩
  have plain := Change.plain_written accepted bound
  rw [entryWritten, orReject_eq_ok known]
  constructor
  · exact separate_word (separate_pathPieces _) (Expr.separate_pieces _ plain) (by decide)
      (by decide)
  · rw [paramsOf_append, paramsOf_pathPieces, paramsOf_word, List.nil_append]
    exact entry.2.numbered_written entry.1 type bound

theorem written_ok {table : Table} {changes : Changes} {values : List Scalar}
    (accepted : changes.operands table = .ok values) (bound : Nat) :
    Separate (separated ", " (changes.written table bound)) ∧
      Numbered bound changes.arity
        (paramsOf (separated ", " (changes.written table bound))) := by
  rcases bind_ok accepted with ⟨_, _, accepted⟩
  have each := operandsOf_ok accepted
  constructor
  · apply separate_separated (by decide) (by decide)
    intro part member
    rcases mem_writtenOf member with ⟨entry, entryMember, before, rfl⟩
    rcases each entry entryMember with ⟨own, entryAccepted⟩
    exact (entryWritten_ok entryAccepted before).1
  · rw [paramsOf_separated]
    apply Numbered.writtenOf bound
    intro entry member before
    rcases each entry member with ⟨own, entryAccepted⟩
    exact (entryWritten_ok entryAccepted before).2

end Changes

theorem Row.inserted_ok (table : Table) (row : Row) :
    Separate (row.inserted table) ∧
      Numbered 0 row.keys.length (paramsOf (row.inserted table)) := by
  rcases row with ⟨entries⟩
  cases entries with
  | nil => exact ⟨⟨by decide, by decide, trivial⟩, Numbered.nil 0⟩
  | cons entry rest =>
      have notEmpty : ¬ (OrderedMap.mk (entry :: rest)).isEmpty = true := Bool.false_ne_true
      have names_eq : (((entry :: rest).map Prod.fst).map fun name => [Piece.name name]).flatMap
          paramsOf = [] := by
        rw [List.flatMap_eq_nil_iff]
        intro part member
        rcases List.mem_map.mp member with ⟨name, _, rfl⟩
        rfl
      rw [Row.inserted, if_neg notEmpty]
      constructor
      · refine separate_closed (separate_word ⟨by decide, by decide, ?_⟩
          (separate_paramPieces _) (by decide) (by decide))
        apply separate_separated (by decide) (by decide)
        intro part member
        rcases List.mem_map.mp member with ⟨name, _, rfl⟩
        trivial
      · simp only [paramsOf_append, paramsOf_word, paramsOf_name, paramsOf_separated,
          paramsOf_paramPieces, paramsOf_nil, List.append_nil, OrderedMap.keys]
        rw [names_eq]
        exact Numbered.row 0 _

end DocumentQuery
