import DocumentQuery.Sql.Expr
import Mathlib.Data.List.Forall2

namespace DocumentQuery
namespace Sql

/-!
# What a builder binds and what it writes

A builder of a statement binds scalars and writes placeholders for them at the same time.
Here the two are told apart.  The *operands* of a part are the scalars that it binds, in
order, or the reason why it is refused.  What it *writes* depends on how many scalars are
bound before it, on its shape, and never on an operand.

`Builds` says that a builder does exactly these two things.  Its lemmas follow the ways in
which builders are put together, so that it is shown once for each builder and nothing else
about builders is needed afterwards.
-/

theorem ok_bind {α β : Type} (a : α) (next : α → Except QueryError β) :
    (Except.ok a >>= next) = next a := rfl

theorem error_bind {α β : Type} (error : QueryError) (next : α → Except QueryError β) :
    (Except.error error >>= next) = .error error := rfl

/-- What is accepted in two steps is accepted in each of them. -/
theorem bind_ok {α β : Type} {first : Except QueryError α} {next : α → Except QueryError β} {b : β}
    (accepted : first >>= next = .ok b) : ∃ a : α, first = .ok a ∧ next a = .ok b := by
  cases first with
  | error error => exact nomatch accepted
  | ok a => exact ⟨a, rfl, accepted⟩

theorem orReject_eq_ok {α : Type} {value? : Option α} {fault : Fault} {value : α}
    (passed : orReject value? fault = .ok value) : value? = some value := by
  cases value? with
  | none => exact nomatch passed
  | some _ =>
      cases passed
      rfl

/-- The builder appends its operands to the scalars that are bound already, and gives what is
written after that many scalars. -/
structure Builds {α : Type} (builder : Binder α) (operands : Except QueryError (List Scalar))
    (arity : Nat) (written : Nat → α) : Prop where
  run_eq : ∀ params : List Scalar,
    builder.run params = operands.map fun values => (written params.length, params ++ values)
  length_eq : ∀ values : List Scalar, operands = .ok values → values.length = arity

namespace Builds

variable {α β : Type}

theorem pure (a : α) : Builds (Pure.pure a) (.ok []) 0 fun _ => a where
  run_eq params := by
    rw [StateT.run_pure]
    simp [Except.map, Pure.pure, Except.pure]
  length_eq values accepted := by
    rw [← Except.ok.inj accepted]
    rfl

theorem refused (error : QueryError) (arity : Nat) (written : Nat → α) :
    Builds (throw error) (.error error) arity written where
  run_eq _ := rfl
  length_eq _ accepted := nomatch accepted

/-- One part after another: the second is written after what the first binds. -/
theorem bind {builder : Binder α} {next : α → Binder β}
    {operands later : Except QueryError (List Scalar)} {arity laterArity : Nat}
    {written : Nat → α} {laterWritten : α → Nat → β}
    (first : Builds builder operands arity written)
    (second : ∀ a : α, Builds (next a) later laterArity (laterWritten a)) :
    Builds (builder >>= next)
      (operands >>= fun values => later.map fun others => values ++ others)
      (arity + laterArity) fun bound => laterWritten (written bound) (bound + arity) where
  run_eq params := by
    rw [StateT.run_bind, first.run_eq]
    cases accepted : operands with
    | error error => rfl
    | ok values =>
        have length := first.length_eq values accepted
        have rest := (second (written params.length)).run_eq (params ++ values)
        rw [List.length_append, length] at rest
        change (next (written params.length)).run (params ++ values) = _
        rw [rest]
        cases later with
        | error error => rfl
        | ok others =>
            simp only [Except.map, List.append_assoc]
            rfl
  length_eq values accepted := by
    cases firstAccepted : operands with
    | error error =>
        rw [firstAccepted] at accepted
        exact nomatch accepted
    | ok firstValues =>
        rw [firstAccepted] at accepted
        cases laterAccepted : later with
        | error error =>
            rw [laterAccepted] at accepted
            exact nomatch accepted
        | ok others =>
            rw [laterAccepted] at accepted
            rw [← Except.ok.inj accepted, List.length_append,
              first.length_eq firstValues firstAccepted,
              (second (written 0)).length_eq others laterAccepted]

theorem map {builder : Binder α} {operands : Except QueryError (List Scalar)} {arity : Nat}
    {written : Nat → α} (builds : Builds builder operands arity written) (f : α → β) :
    Builds (builder >>= fun a => Pure.pure (f a)) operands arity fun bound => f (written bound) where
  run_eq params := by
    rw [StateT.run_bind, builds.run_eq]
    cases operands <;> rfl
  length_eq := builds.length_eq

/-- A check before a part: what is bound and written is that of the part. -/
theorem check {check : Except QueryError α} {next : α → Binder β}
    {operands : α → Except QueryError (List Scalar)} {arity : Nat} {written : Nat → β}
    (builds : ∀ a : α, check = .ok a → Builds (next a) (operands a) arity written) :
    Builds (liftM check >>= next) (check >>= operands) arity written where
  run_eq params := by
    cases passed : check with
    | error error => rfl
    | ok a => exact (builds a passed).run_eq params
  length_eq values accepted := by
    cases passed : check with
    | error error =>
        rw [passed] at accepted
        exact nomatch accepted
    | ok a =>
        rw [passed] at accepted
        exact (builds a passed).length_eq values accepted

end Builds

theorem builds_bind (value : Scalar) :
    Builds (bind value) (.ok [value]) 1 fun bound => bound + 1 where
  run_eq _ := rfl
  length_eq values accepted := by
    rw [← Except.ok.inj accepted]
    rfl

theorem builds_bound (value : Scalar) :
    Builds (bound value) (.ok [value]) 1 fun bound => .param (bound + 1) where
  run_eq _ := rfl
  length_eq values accepted := by
    rw [← Except.ok.inj accepted]
    rfl

/-! ## Parts in a row -/

/-- The operands of several parts, one after the other. -/
def operandsOf {β : Type} (operands : β → Except QueryError (List Scalar)) :
    List β → Except QueryError (List Scalar)
  | [] => .ok []
  | part :: rest =>
    operands part >>= fun values => (operandsOf operands rest).map fun others => values ++ others

/-- How many operands several parts have. -/
def arityOf {β : Type} (arity : β → Nat) : List β → Nat
  | [] => 0
  | part :: rest => arity part + arityOf arity rest

/-- What several parts write, each after the operands of those before it. -/
def writtenOf {α β : Type} (arity : β → Nat) (written : β → Nat → α) : Nat → List β → List α
  | _, [] => []
  | bound, part :: rest => written part bound :: writtenOf arity written (bound + arity part) rest

section

variable {α β : Type} {builder : β → Binder α} {operands : β → Except QueryError (List Scalar)}
  {arity : β → Nat} {written : β → Nat → α}

theorem builds_mapM (parts : List β)
    (builds : ∀ part ∈ parts, Builds (builder part) (operands part) (arity part) (written part)) :
    Builds (parts.mapM builder) (operandsOf operands parts) (arityOf arity parts)
      fun bound => writtenOf arity written bound parts := by
  induction parts with
  | nil => exact Builds.pure []
  | cons part rest inductionHypothesis =>
      rw [List.mapM_cons]
      have first := builds part List.mem_cons_self
      have later := inductionHypothesis fun other member =>
        builds other (List.mem_cons_of_mem part member)
      exact first.bind fun a => later.map fun others => a :: others

end

/-- Binding scalars one after the other gives them numbers in a row. -/
theorem builds_items (items : List Scalar) :
    Builds (items.mapM bind) (.ok items) items.length fun bound =>
      List.range' (bound + 1) items.length := by
  induction items with
  | nil => exact Builds.pure []
  | cons item rest inductionHypothesis =>
      have arity_eq : 1 + rest.length = (item :: rest).length := Nat.add_comm 1 rest.length
      have builds := (builds_bind item).bind fun number =>
        inductionHypothesis.map fun numbers => number :: numbers
      rw [arity_eq] at builds
      rw [List.mapM_cons]
      exact builds

end Sql

/-! ## Checks of all members of a list -/

/-- Each member of the second of two related lists is related to a member of the first. -/
theorem exists_left_of_forall₂ {β γ : Type} {related : β → γ → Prop} {lefts : List β}
    {rights : List γ} (each : List.Forall₂ related lefts rights) {b : γ} (member : b ∈ rights) :
    ∃ a ∈ lefts, related a b := by
  induction each with
  | nil => exact nomatch member
  | @cons a _ _ _ first _ inductionHypothesis =>
      rcases List.mem_cons.mp member with rfl | later
      · exact ⟨a, List.mem_cons_self, first⟩
      · rcases inductionHypothesis later with ⟨found, foundMember, foundRelated⟩
        exact ⟨found, List.mem_cons_of_mem a foundMember, foundRelated⟩

/-- A check of all members of a list gives the results of the members. -/
theorem mapM_ok {β γ : Type} {check : β → Except QueryError γ} {members : List β}
    {results : List γ} (each : List.Forall₂ (fun a b => check a = .ok b) members results) :
    members.mapM check = .ok results := by
  induction each with
  | nil => rfl
  | cons first _ inductionHypothesis =>
      rw [List.mapM_cons, first, inductionHypothesis]
      rfl

/-- A check of all members of a list has one result for each member. -/
theorem forall₂_of_mapM_ok {β γ : Type} {check : β → Except QueryError γ} {members : List β}
    {results : List γ} (accepted : members.mapM check = .ok results) :
    List.Forall₂ (fun a b => check a = .ok b) members results := by
  induction members generalizing results with
  | nil =>
      cases accepted
      exact .nil
  | cons a rest inductionHypothesis =>
      rw [List.mapM_cons] at accepted
      rcases Sql.bind_ok accepted with ⟨first, firstAccepted, accepted⟩
      rcases Sql.bind_ok accepted with ⟨others, restAccepted, accepted⟩
      cases accepted
      exact .cons firstAccepted (inductionHypothesis restAccepted)

section

variable {β γ : Type} {check : β → Except QueryError γ} {members : List β} {results : List γ}
  (accepted : members.mapM check = .ok results)
include accepted

/-- Each result of a check that is made for all members of a list is that of a member. -/
theorem mem_of_mapM_ok {b : γ} (member : b ∈ results) : ∃ a ∈ members, check a = .ok b :=
  exists_left_of_forall₂ (forall₂_of_mapM_ok accepted) member

/-- And each member has a result. -/
theorem exists_of_mapM_ok {a : β} (member : a ∈ members) : ∃ b ∈ results, check a = .ok b :=
  exists_left_of_forall₂ (forall₂_of_mapM_ok accepted).flip member

/-- Where a check can only give the value of a function, all results are its values. -/
theorem eq_map_of_mapM_ok {f : β → γ} (given : ∀ (a : β) (b : γ), check a = .ok b → b = f a) :
    results = members.map f := by
  have each := forall₂_of_mapM_ok accepted
  clear accepted
  induction each with
  | nil => rfl
  | @cons a b _ _ first _ inductionHypothesis =>
      rw [List.map_cons, given a b first, inductionHypothesis]

end

/-- If all members of a list have images, there is one image for each member. -/
theorem forall₂_of_mapM_some {β γ : Type} {image? : β → Option γ} {members : List β}
    {images : List γ} (all : members.mapM image? = some images) :
    List.Forall₂ (fun a b => image? a = some b) members images := by
  induction members generalizing images with
  | nil =>
      cases all
      exact .nil
  | cons a rest inductionHypothesis =>
      rw [List.mapM_cons] at all
      rcases Option.bind_eq_some_iff.mp all with ⟨b, first, all⟩
      rcases Option.bind_eq_some_iff.mp all with ⟨others, later, all⟩
      cases all
      exact .cons first (inductionHypothesis later)

/-- Of the members of a list one has no image, or all of them have one. -/
theorem exists_none_or_forall₂ {β γ : Type} (image? : β → Option γ) (members : List β) :
    (∃ a ∈ members, image? a = none) ∨
      ∃ images : List γ, List.Forall₂ (fun a b => image? a = some b) members images := by
  induction members with
  | nil => exact .inr ⟨[], .nil⟩
  | cons a rest inductionHypothesis =>
      cases first : image? a with
      | none => exact .inl ⟨a, List.mem_cons_self, first⟩
      | some b =>
          rcases inductionHypothesis with ⟨other, member, noImage⟩ | ⟨images, each⟩
          · exact .inl ⟨other, List.mem_cons_of_mem a member, noImage⟩
          · exact .inr ⟨b :: images, .cons first each⟩

/-- A check of all members of a list fails as that of some member, if any of them fails. -/
theorem mapM_error {β γ : Type} {check : β → Except QueryError γ} {members : List β}
    (refused : ∃ a ∈ members, ∃ error, check a = .error error) :
    ∃ a ∈ members, ∃ error, check a = .error error ∧ members.mapM check = .error error := by
  induction members with
  | nil =>
      rcases refused with ⟨_, member, _⟩
      exact nomatch member
  | cons a rest inductionHypothesis =>
      rw [List.mapM_cons]
      cases first : check a with
      | error error => exact ⟨a, List.mem_cons_self, error, first, rfl⟩
      | ok b =>
          have later : ∃ a ∈ rest, ∃ error, check a = .error error := by
            rcases refused with ⟨found, member, error, failed⟩
            rcases List.mem_cons.mp member with rfl | member
            · exact nomatch first.symm.trans failed
            · exact ⟨found, member, error, failed⟩
          rcases inductionHypothesis later with ⟨found, member, error, failed, all⟩
          refine ⟨found, List.mem_cons_of_mem a member, error, failed, ?_⟩
          rw [all]
          rfl

end DocumentQuery
