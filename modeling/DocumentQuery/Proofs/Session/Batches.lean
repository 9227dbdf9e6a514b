import DocumentQuery.Proofs.Session.Recording
import DocumentQuery.Proofs.Sql.Binding
import DocumentQuery.Session.TableHandle
import DocumentQuery.Store.Scripted
import Mathlib.Data.List.Forall2

namespace DocumentQuery

open DocumentQuery.Action

/-!
# Rows in one transaction

A transaction has a fixed course around whatever runs in it.  It begins; if that fails nothing
follows.  What succeeds is committed, what fails is rolled back, and the failure that is reported
is the one that came first, whatever the rollback answers.

A batch of rows runs one statement for each row in a transaction, up to the first one that fails.
Every row is checked before the transaction begins, so a batch with a row that is refused asks
nothing of the store, and neither does an empty one.
-/

variable {σ α : Type}

/-! ## Transactions -/

/-- The exchanges and the result of a transaction, given those that what runs in it may have. -/
inductive Transacts (body : List Exchange → Except QueryError α → Prop) :
    List Exchange → Except QueryError α → Prop where
  | notBegun (e : StoreError) : Transacts body [⟨.begin, .error e⟩] (.error (.store e))
  | committed {inside : List Exchange} {a : α} (ran : body inside (.ok a)) :
      Transacts body (⟨.begin, .ok ()⟩ :: inside ++ [⟨.commit, .ok ()⟩]) (.ok a)
  | notCommitted {inside : List Exchange} {a : α} (ran : body inside (.ok a)) (e : StoreError) :
      Transacts body (⟨.begin, .ok ()⟩ :: inside ++ [⟨.commit, .error e⟩]) (.error (.store e))
  | rolledBack {inside : List Exchange} {error : QueryError} (ran : body inside (.error error))
      (answer : Except StoreError Unit) :
      Transacts body (⟨.begin, .ok ()⟩ :: inside ++ [⟨.rollback, answer⟩]) (.error error)

/-- On an open connection a transaction has its course around what runs in it.  On a closed one it
does not begin. -/
theorem ends_transaction {action : Action (Recorded σ) α} {c : Connection (Recorded σ)}
    (records : c.Records) {body : List Exchange → Except QueryError α → Prop}
    {post : List Exchange → Except QueryError α → Connection (Recorded σ) → Prop}
    (ends : ∀ c' : Connection (Recorded σ), c'.Records → c'.isOpen = true →
      action.Ends c' fun inside result _ => body inside result)
    (opened : c.isOpen = true → ∀ asked result c', Transacts body asked result →
      post asked result c')
    (closed : c.isOpen = false → post [] (.error .notConnected) c) :
    (Connection.transaction action).Ends c post := by
  refine Ends.bind (ends_ask records (fun isOpen began c₁ extends₁ _ => ?_) closed)
  cases began with
  | error e => exact opened isOpen _ _ _ (.notBegun e)
  | ok _ =>
      have records₁ := extends₁.records records
      have isOpen₁ : c₁.isOpen = true := extends₁.isOpen_eq.trans isOpen
      refine Ends.bind (Ends.attempt ((ends c₁ records₁ isOpen₁).mono
        fun inside result c₂ extends₂ ran => ?_))
      have records₂ := extends₂.records records₁
      have isOpen₂ : c₂.isOpen = true := extends₂.isOpen_eq.trans isOpen₁
      have notClosed : c₂.isOpen ≠ false := by
        rw [isOpen₂]
        decide
      cases result with
      | ok a =>
          refine Ends.bind (ends_ask records₂ (fun _ done c₃ _ _ => ?_)
            fun isClosed => absurd isClosed notClosed)
          cases done with
          | ok _ => exact ends_pure (opened isOpen _ _ _ (.committed ran))
          | error e => exact opened isOpen _ _ _ (.notCommitted ran e)
      | error error =>
          refine Ends.bind (Ends.attempt (ends_ask records₂ (fun _ answer c₃ _ _ => ?_)
            fun isClosed => absurd isClosed notClosed))
          exact ends_throw (opened isOpen _ _ _ (.rolledBack ran answer))

/-! ## Statements one after the other -/

/-- The exchanges of statements that succeed. -/
def ran (done : List (Sql.Statement × RunOutcome)) : List Exchange :=
  done.map fun (statement, outcome) => ⟨.run statement, .ok outcome⟩

/-- The identities that statements report, in their order. -/
def identities (done : List (Sql.Statement × RunOutcome)) : List Int64 :=
  done.filterMap fun entry => entry.2.lastId?

theorem identities_cons (statement : Sql.Statement) (outcome : RunOutcome)
    (done : List (Sql.Statement × RunOutcome)) :
    identities ((statement, outcome) :: done) = outcome.lastId?.toList ++ identities done := by
  rcases outcome with ⟨affected, _ | id⟩ <;> rfl

/-- Statements are run in their order, either all of them or up to the first one that fails. -/
inductive RunsAll (statements : List Sql.Statement) :
    List Exchange → Except QueryError (List Int64) → Prop where
  | all (done : List (Sql.Statement × RunOutcome)) (each : statements = done.map Prod.fst) :
      RunsAll statements (ran done) (.ok (identities done))
  | stopped (done : List (Sql.Statement × RunOutcome)) (failed : Sql.Statement)
      (left : List Sql.Statement) (each : statements = done.map Prod.fst ++ failed :: left)
      (e : StoreError) :
      RunsAll statements (ran done ++ [⟨.run failed, .error e⟩]) (.error (.store e))

/-- A statement that succeeds comes before the others, and so does its identity. -/
theorem RunsAll.next {rest : List Sql.Statement} {asked : List Exchange}
    {result : Except QueryError (List Int64)} (runs : RunsAll rest asked result)
    (statement : Sql.Statement) (outcome : RunOutcome) :
    RunsAll (statement :: rest) (⟨.run statement, .ok outcome⟩ :: asked)
      (result.map (outcome.lastId?.toList ++ ·)) := by
  cases runs with
  | all done each =>
      have runs := RunsAll.all ((statement, outcome) :: done) (congrArg (statement :: ·) each)
      rw [identities_cons] at runs
      exact runs
  | stopped done failed left each e =>
      exact .stopped ((statement, outcome) :: done) failed left (congrArg (statement :: ·) each) e

theorem ends_runAll (statements : List Sql.Statement) {c : Connection (Recorded σ)}
    (records : c.Records) (isOpen : c.isOpen = true) :
    (TableHandle.runAll statements).Ends c
      fun asked result _ => RunsAll statements asked result := by
  induction statements generalizing c with
  | nil => exact ends_pure (.all [] rfl)
  | cons statement rest inductionHypothesis =>
      refine Ends.bind (ends_ask records (fun _ answer c₁ extends₁ _ => ?_) fun isClosed => ?_)
      · rcases answer with e | (outcome : RunOutcome)
        · exact .stopped [] statement rest rfl e
        · refine Ends.bind ((inductionHypothesis (extends₁.records records)
            (extends₁.isOpen_eq.trans isOpen)).mono fun asked result c₂ _ runs => ?_)
          have runs := runs.next statement outcome
          cases result with
          | ok later =>
              refine ends_pure ?_
              change RunsAll _ (⟨.run statement, .ok outcome⟩ :: (asked ++ [])) _
              rw [List.append_nil]
              exact runs
          | error error => exact runs
      · exact absurd isClosed (by rw [isOpen]; decide)

/-! ## Batches of rows -/

/-- The exchanges and the result of a batch whose rows are inserted by these statements. -/
inductive BatchCourse (returnId : Bool) (statements : List Sql.Statement) :
    List Exchange → Except QueryError (List Int64) → Prop where
  | notBegun (e : StoreError) :
      BatchCourse returnId statements [⟨.begin, .error e⟩] (.error (.store e))
  | stopped (done : List (Sql.Statement × RunOutcome)) (failed : Sql.Statement)
      (left : List Sql.Statement) (each : statements = done.map Prod.fst ++ failed :: left)
      (e : StoreError) (answer : Except StoreError Unit) :
      BatchCourse returnId statements
        (⟨.begin, .ok ()⟩ :: ran done ++ [⟨.run failed, .error e⟩, ⟨.rollback, answer⟩])
        (.error (.store e))
  | notCommitted (done : List (Sql.Statement × RunOutcome)) (each : statements = done.map Prod.fst)
      (e : StoreError) :
      BatchCourse returnId statements
        (⟨.begin, .ok ()⟩ :: ran done ++ [⟨.commit, .error e⟩]) (.error (.store e))
  | committed (done : List (Sql.Statement × RunOutcome)) (each : statements = done.map Prod.fst) :
      BatchCourse returnId statements
        (⟨.begin, .ok ()⟩ :: ran done ++ [⟨.commit, .ok ()⟩])
        (.ok (if returnId then identities done else []))

/-- A transaction around the statements has the course of a batch. -/
theorem Transacts.batchCourse {statements : List Sql.Statement} {asked : List Exchange}
    {result : Except QueryError (List Int64)} (transacts : Transacts (RunsAll statements) asked result)
    (returnId : Bool) :
    BatchCourse returnId statements asked (result.map fun ids => if returnId then ids else []) := by
  cases transacts with
  | notBegun e => exact .notBegun e
  | committed runs =>
      cases runs with
      | all done each => exact .committed done each
  | notCommitted runs e =>
      cases runs with
      | all done each => exact .notCommitted done each e
  | rolledBack runs answer =>
      cases runs with
      | stopped done failed left each e =>
          rw [← List.cons_append, List.append_assoc]
          exact .stopped done failed left each e answer

/-- How a batch ends, given what the check of its rows says. -/
inductive BatchEnds (isOpen returnId : Bool) :
    Except QueryError (List Sql.Statement) → List Exchange → Except QueryError (List Int64) → Prop
    where
  | refused (error : QueryError) : BatchEnds isOpen returnId (.error error) [] (.error error)
  | empty : BatchEnds isOpen returnId (.ok []) [] (.ok [])
  | closed {statements : List Sql.Statement} (some : statements ≠ []) (isClosed : isOpen = false) :
      BatchEnds isOpen returnId (.ok statements) [] (.error .notConnected)
  | asked {statements : List Sql.Statement} (some : statements ≠ []) (opened : isOpen = true)
      {exchanges : List Exchange} {result : Except QueryError (List Int64)}
      (course : BatchCourse returnId statements exchanges result) :
      BatchEnds isOpen returnId (.ok statements) exchanges result

theorem ends_insertMany (h : TableHandle) (rows : List Row) (returnId : Bool)
    {c : Connection (Recorded σ)} (records : c.Records) :
    (h.insertMany rows returnId).Ends c fun asked result _ =>
      BatchEnds c.isOpen returnId (rows.mapM (Sql.insert h.table)) asked result := by
  refine Ends.bind (ends_check ?_)
  cases checked : rows.mapM (Sql.insert h.table) with
  | error error => exact .refused error
  | ok statements =>
      cases statements with
      | nil => exact ends_pure .empty
      | cons statement rest =>
          refine Ends.bind (ends_transaction records
            (fun c' records' isOpen' => ends_runAll _ records' isOpen') ?_ ?_)
          · intro isOpen asked result c' transacts
            have course := transacts.batchCourse returnId
            cases result with
            | ok ids =>
                refine ends_pure ?_
                rw [List.append_nil]
                exact .asked (List.cons_ne_nil _ _) isOpen course
            | error error => exact .asked (List.cons_ne_nil _ _) isOpen course
          · exact fun isClosed => .closed (List.cons_ne_nil _ _) isClosed

/-- A batch with a row that is refused asks nothing of the store, nor does an empty one.  Any other
batch runs the statements of its rows in one transaction; on a closed connection it does not begin. -/
theorem insertMany_course (h : TableHandle) (rows : List Row) (returnId : Bool)
    (c : Connection σ) :
    ((∃ row ∈ rows, ∃ error, Sql.insert h.table row = .error error) →
      (h.insertMany rows returnId).exchanges c = [] ∧
        ∃ row ∈ rows, ∃ error, Sql.insert h.table row = .error error ∧
          (h.insertMany rows returnId).result c = .error error) ∧
    (rows = [] → (h.insertMany rows returnId).exchanges c = [] ∧
      (h.insertMany rows returnId).result c = .ok []) ∧
    ∀ statements : List Sql.Statement, rows ≠ [] →
      List.Forall₂ (fun row statement => Sql.insert h.table row = .ok statement) rows statements →
      (c.isOpen = true → BatchCourse returnId statements ((h.insertMany rows returnId).exchanges c)
        ((h.insertMany rows returnId).result c)) ∧
      (c.isOpen = false → (h.insertMany rows returnId).exchanges c = [] ∧
        (h.insertMany rows returnId).result c = .error .notConnected) := by
  have ends := (ends_insertMany h rows returnId c.records_recording).exchanges_result
  change BatchEnds c.isOpen _ _ _ _ at ends
  generalize (h.insertMany rows returnId).exchanges c = asked at ends ⊢
  generalize (h.insertMany rows returnId).result c = result at ends ⊢
  refine ⟨fun refused => ?_, fun empty => ?_, fun statements some each => ?_⟩
  · rcases mapM_error refused with ⟨row, member, error, rowRefused, checked⟩
    rw [checked] at ends
    cases ends with
    | refused => exact ⟨rfl, row, member, error, rowRefused, rfl⟩
  · subst empty
    cases ends with
    | empty => exact ⟨rfl, rfl⟩
    | closed nonempty _ => exact absurd rfl nonempty
    | asked nonempty _ _ => exact absurd rfl nonempty
  · rw [mapM_ok each] at ends
    cases ends with
    | empty =>
        cases each
        exact absurd rfl some
    | closed _ isClosed =>
        exact ⟨fun isOpen => absurd (isOpen.symm.trans isClosed) (by decide), fun _ => ⟨rfl, rfl⟩⟩
    | asked _ isOpen course =>
        exact ⟨fun _ => course, fun isClosed => absurd (isOpen.symm.trans isClosed) (by decide)⟩

/-- A table of notes. -/
def notes : TableHandle :=
  ⟨⟨"default", "notes", [{ name := "text", type := .text }]⟩⟩

/-- A note. -/
def note (text : String) : Row :=
  .ofList [("text", .text text)]

/-- Of two notes only the first can be written, and the transaction is rolled back in vain. -/
theorem insertMany_course_full :
    let full : StoreError := ⟨.query, "database or disk is full"⟩
    let c : Connection Script :=
      .scripted { run := [.ok { lastId? := some 1 }, .error full], rollback := [.error full] }
    ∃ first second : Sql.Statement,
      Sql.insert notes.table (note "one") = .ok first ∧
      Sql.insert notes.table (note "two") = .ok second ∧
      BatchCourse true [first, second] ((notes.insertMany [note "one", note "two"] true).exchanges c)
        ((notes.insertMany [note "one", note "two"] true).result c) := by
  intro full c
  have firstBuilt : ∃ first, Sql.insert notes.table (note "one") = .ok first := ⟨_, rfl⟩
  have secondBuilt : ∃ second, Sql.insert notes.table (note "two") = .ok second := ⟨_, rfl⟩
  rcases firstBuilt with ⟨first, firstBuilt⟩
  rcases secondBuilt with ⟨second, secondBuilt⟩
  have course := (insertMany_course notes [note "one", note "two"] true c).2.2 [first, second]
    (List.cons_ne_nil _ _) (.cons firstBuilt (.cons secondBuilt .nil))
  exact ⟨first, second, firstBuilt, secondBuilt, course.1 rfl⟩

end DocumentQuery
