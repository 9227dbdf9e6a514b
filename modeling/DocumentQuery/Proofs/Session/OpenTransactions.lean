import DocumentQuery.Proofs.Session.Batches
import Mathlib.Data.List.Induction

namespace DocumentQuery

open DocumentQuery.Action

/-!
# Transactions that are left open

Whether a store has a transaction open can be read off what it has answered.  A transaction is
open from a `begin` that succeeds up to the commit or the rollback that does.  A commit that fails
leaves it open.

What fails inside a transaction is rolled back, but a commit that fails is not followed by a
rollback.  So a batch leaves its transaction open in two cases: its rollback fails, or its commit
does.  Over a run of batches the first such failure decides: up to there every batch finds no
transaction open, and the next one finds one.
-/

variable {σ : Type}

/-! ## Reading the record -/

/-- A transaction is open after an exchange. -/
def Exchange.leavesOpen (isOpen : Bool) : Exchange → Bool
  | ⟨.begin, .ok _⟩ => true
  | ⟨.commit, .ok _⟩ => false
  | ⟨.rollback, .ok _⟩ => false
  | _ => isOpen

/-- A transaction is open after some exchanges. -/
def openAfter (isOpen : Bool) (asked : List Exchange) : Bool :=
  asked.foldl Exchange.leavesOpen isOpen

/-- A call has failed. -/
def Failed (call : Call) (asked : List Exchange) : Prop :=
  ∃ e : StoreError, (⟨call, .error e⟩ : Exchange) ∈ asked

theorem openAfter_append (isOpen : Bool) (asked more : List Exchange) :
    openAfter isOpen (asked ++ more) = openAfter (openAfter isOpen asked) more :=
  List.foldl_append

theorem failed_append_iff (call : Call) (asked more : List Exchange) :
    Failed call (asked ++ more) ↔ Failed call asked ∨ Failed call more := by
  simp only [Failed, List.mem_append, exists_or]

/-- Only statements are run. -/
def Runs (asked : List Exchange) : Prop :=
  ∀ exchange ∈ asked, ∃ statement answer, exchange = ⟨.run statement, answer⟩

theorem runs_ran (done : List (Sql.Statement × RunOutcome)) : Runs (ran done) := by
  intro exchange member
  rcases List.mem_map.mp member with ⟨⟨statement, outcome⟩, _, rfl⟩
  exact ⟨statement, .ok outcome, rfl⟩

theorem Runs.openAfter_eq {asked : List Exchange} (runs : Runs asked) (isOpen : Bool) :
    openAfter isOpen asked = isOpen := by
  induction asked with
  | nil => rfl
  | cons exchange rest inductionHypothesis =>
      rcases runs exchange List.mem_cons_self with ⟨statement, answer, rfl⟩
      exact inductionHypothesis fun later member => runs later (List.mem_cons_of_mem _ member)

theorem Runs.not_failed {asked : List Exchange} (runs : Runs asked) {call : Call}
    (other : ∀ statement, call ≠ .run statement) : ¬ Failed call asked := by
  rintro ⟨e, member⟩
  rcases runs _ member with ⟨statement, answer, same⟩
  exact other statement (congrArg Exchange.call same)

/-! ## One batch -/

/-- What a batch asks of a store, apart from the statements that it runs. -/
inductive Outline : List Exchange → Prop where
  | silent : Outline []
  | notBegun (e : StoreError) : Outline [⟨.begin, .error e⟩]
  | committed {inside : List Exchange} (runs : Runs inside)
      (answer : Except StoreError (Call.Answer .commit)) :
      Outline (⟨.begin, .ok ()⟩ :: inside ++ [⟨.commit, answer⟩])
  | rolledBack {inside : List Exchange} (runs : Runs inside)
      (answer : Except StoreError (Call.Answer .rollback)) :
      Outline (⟨.begin, .ok ()⟩ :: inside ++ [⟨.rollback, answer⟩])

theorem BatchCourse.outline {returnId : Bool} {statements : List Sql.Statement}
    {asked : List Exchange} {result : Except QueryError (List Int64)}
    (course : BatchCourse returnId statements asked result) : Outline asked := by
  cases course with
  | notBegun e => exact .notBegun e
  | stopped done failed left each e answer =>
      have runs : Runs (ran done ++ [⟨.run failed, .error e⟩]) := by
        intro exchange member
        rcases List.mem_append.mp member with member | member
        · exact runs_ran done exchange member
        · exact ⟨failed, .error e, List.mem_singleton.mp member⟩
      have outline := Outline.rolledBack runs answer
      rw [← List.cons_append, List.append_assoc] at outline
      exact outline
  | notCommitted done each e => exact .committed (runs_ran done) (.error e)
  | committed done each => exact .committed (runs_ran done) (.ok ())

theorem BatchEnds.outline {isOpen returnId : Bool} {checked : Except QueryError (List Sql.Statement)}
    {asked : List Exchange} {result : Except QueryError (List Int64)}
    (ends : BatchEnds isOpen returnId checked asked result) : Outline asked := by
  cases ends with
  | refused => exact .silent
  | empty => exact .silent
  | closed => exact .silent
  | asked _ _ course => exact course.outline

section

variable {inside : List Exchange}

/-- What comes last decides whether a transaction that has begun is open. -/
theorem Runs.openAfter_around (runs : Runs inside) (isOpen : Bool) (last : Exchange) :
    openAfter isOpen (⟨.begin, .ok ()⟩ :: inside ++ [last]) = last.leavesOpen true := by
  rw [openAfter_append]
  change last.leavesOpen (openAfter true inside) = _
  rw [runs.openAfter_eq]

theorem Runs.failed_around_iff (runs : Runs inside) (call : Call)
    (other : ∀ statement, call ≠ .run statement) (last : Exchange) :
    Failed call (⟨.begin, .ok ()⟩ :: inside ++ [last]) ↔ Failed call [last] := by
  have begun : ¬ Failed call [⟨.begin, .ok ()⟩] := by
    rintro ⟨e, member⟩
    cases List.mem_singleton.mp member
  rw [failed_append_iff, ← List.singleton_append, failed_append_iff, or_iff_right begun,
    or_iff_right (runs.not_failed other)]

end

theorem not_failed_single (call other : Call) (ne : call ≠ other)
    (answer : Except StoreError other.Answer) : ¬ Failed call [⟨other, answer⟩] := by
  rintro ⟨e, member⟩
  exact ne (congrArg Exchange.call (List.mem_singleton.mp member))

/-- A commit or a rollback closes a transaction unless it fails. -/
theorem leavesOpen_iff_failed {last : Exchange} (closes : last.call = .commit ∨ last.call = .rollback) :
    last.leavesOpen true = true ↔ Failed .commit [last] ∨ Failed .rollback [last] := by
  rcases last with ⟨call, answer⟩
  rcases closes with rfl | rfl <;> cases answer <;> simp [Failed, Exchange.leavesOpen]

/-- A batch that finds no transaction open leaves none, unless its commit or its rollback fails. -/
theorem Outline.opens_iff {asked : List Exchange} (outline : Outline asked) :
    openAfter false asked = true ↔ Failed .commit asked ∨ Failed .rollback asked := by
  cases outline with
  | silent =>
      refine iff_of_false Bool.false_ne_true ?_
      rintro (⟨e, member⟩ | ⟨e, member⟩) <;> exact nomatch member
  | notBegun e =>
      refine iff_of_false Bool.false_ne_true ?_
      exact not_or.mpr ⟨not_failed_single .commit .begin nofun _,
        not_failed_single .rollback .begin nofun _⟩
  | committed runs answer =>
      rw [runs.openAfter_around, runs.failed_around_iff .commit nofun,
        runs.failed_around_iff .rollback nofun]
      exact leavesOpen_iff_failed (.inl rfl)
  | rolledBack runs answer =>
      rw [runs.openAfter_around, runs.failed_around_iff .commit nofun,
        runs.failed_around_iff .rollback nofun]
      exact leavesOpen_iff_failed (.inr rfl)

/-- What has begun does not depend on what was open before. -/
theorem Outline.openAfter_eq {asked : List Exchange} (outline : Outline asked)
    (begun : (⟨.begin, .ok ()⟩ : Exchange) ∈ asked) (isOpen : Bool) :
    openAfter isOpen asked = openAfter false asked := by
  cases outline with
  | silent => exact nomatch begun
  | notBegun e => cases List.mem_singleton.mp begun
  | committed runs answer => rw [runs.openAfter_around, runs.openAfter_around]
  | rolledBack runs answer => rw [runs.openAfter_around, runs.openAfter_around]

/-- A commit that fails is not followed by a rollback. -/
theorem Outline.not_rolledBack {asked : List Exchange} (outline : Outline asked)
    (failed : Failed .commit asked) (answer : Except StoreError Unit) :
    (⟨.rollback, answer⟩ : Exchange) ∉ asked := by
  cases outline with
  | silent => exact List.not_mem_nil
  | notBegun e => exact absurd failed (not_failed_single .commit .begin nofun _)
  | committed runs _ =>
      intro member
      rcases List.mem_append.mp member with member | member
      · rcases List.mem_cons.mp member with same | member
        · cases same
        · rcases runs _ member with ⟨statement, _, same⟩
          cases same
      · cases List.mem_singleton.mp member
  | rolledBack runs answer =>
      rw [runs.failed_around_iff .commit nofun] at failed
      exact absurd failed (not_failed_single .commit .rollback nofun answer)

/-- A transaction that has begun is closed in the end, or cannot be closed, unless its commit
fails. -/
theorem Outline.settled_iff {asked : List Exchange} (outline : Outline asked)
    (begun : (⟨.begin, .ok ()⟩ : Exchange) ∈ asked) (isOpen : Bool) :
    (openAfter isOpen asked = false ∨ Failed .rollback asked) ↔ ¬ Failed .commit asked := by
  rw [outline.openAfter_eq begun]
  constructor
  · rintro (isClosed | ⟨e, member⟩) failed
    · exact absurd (outline.opens_iff.mpr (.inl failed)) (by rw [isClosed]; decide)
    · exact outline.not_rolledBack failed _ member
  · intro notFailed
    cases isOpen : openAfter false asked with
    | false => exact .inl rfl
    | true => exact .inr ((outline.opens_iff.mp isOpen).resolve_left notFailed)

/-! ## Runs of batches -/

/-- Rows to be inserted into a table. -/
structure Batch where
  handle : TableHandle
  rows : List Row
  returnId : Bool

def Batch.insert (b : Batch) : Action σ (List Int64) :=
  b.handle.insertMany b.rows b.returnId

/-- Insert batches one after the other, whether they fail or not. -/
def insertBatches : List Batch → Action σ Unit
  | [] => pure ()
  | b :: rest => do
    let _ ← Connection.attempt b.insert
    insertBatches rest

theorem insertBatches_concat (batches : List Batch) (b : Batch) :
    (insertBatches (batches ++ [b]) : Action σ Unit) =
      insertBatches batches >>= fun _ => Connection.attempt b.insert >>= fun _ => pure () := by
  induction batches with
  | nil => exact (pure_bind _ _).symm
  | cons first rest inductionHypothesis =>
      rw [List.cons_append, insertBatches, inductionHypothesis, insertBatches, bind_assoc]

theorem ends_batch (b : Batch) {c : Connection (Recorded σ)} (records : c.Records) :
    b.insert.Ends c fun asked _ _ => Outline asked :=
  (ends_insertMany b.handle b.rows b.returnId records).mono fun _ _ _ _ ends => ends.outline

theorem ends_insertBatches (batches : List Batch) {c : Connection (Recorded σ)}
    (records : c.Records) : (insertBatches batches).Ends c fun _ result _ => result = .ok () := by
  induction batches generalizing c with
  | nil => exact ends_pure rfl
  | cons b rest inductionHypothesis =>
      exact Ends.bind (Ends.attempt ((ends_batch b records).mono fun _ _ _ extends' _ =>
        inductionHypothesis (extends'.records records)))

/-- One more batch adds to what is asked of the store. -/
theorem exchanges_concat (batches : List Batch) (b : Batch) (c : Connection σ) :
    ∃ asked, (insertBatches (batches ++ [b])).exchanges c =
      (insertBatches batches).exchanges c ++ asked ∧ Outline asked := by
  have before := ends_insertBatches batches c.records_recording
  have records := before.extends.records c.records_recording
  let next : Unit → Action (Recorded σ) Unit :=
    fun _ => Connection.attempt b.insert >>= fun _ => pure ()
  have step : (next ()).Ends ((insertBatches batches).run c.recording).2
      fun asked _ _ => Outline asked := by
    refine Ends.bind (Ends.attempt ((ends_batch b records).mono fun asked _ _ _ outline => ?_))
    refine ends_pure ?_
    rw [List.append_nil]
    exact outline
  rcases exchanges_bind next before.exchanges_result step with ⟨asked, _, _, exchanges_eq, outline⟩
  rw [insertBatches_concat]
  exact ⟨asked, exchanges_eq, outline⟩

/-- Batches find no transaction open, and leave none, as long as no commit and no rollback fails. -/
theorem closed_throughout_iff (batches : List Batch) (c : Connection σ) :
    (∀ started, started <+: batches →
      openAfter false ((insertBatches started).exchanges c) = false) ↔
    ¬ Failed .commit ((insertBatches batches).exchanges c) ∧
      ¬ Failed .rollback ((insertBatches batches).exchanges c) := by
  induction batches using List.reverseRecOn with
  | nil =>
      refine iff_of_true (fun started isPrefix => ?_) ⟨?_, ?_⟩
      · rw [List.prefix_nil.mp isPrefix]
        rfl
      · exact fun ⟨_, member⟩ => nomatch member
      · exact fun ⟨_, member⟩ => nomatch member
  | append_singleton batches b inductionHypothesis =>
      rcases exchanges_concat batches b c with ⟨asked, exchanges_eq, outline⟩
      have last (none : ¬ Failed .commit ((insertBatches batches).exchanges c) ∧
          ¬ Failed .rollback ((insertBatches batches).exchanges c)) :
          openAfter false ((insertBatches batches).exchanges c ++ asked) = false ↔
            ¬ Failed .commit asked ∧ ¬ Failed .rollback asked := by
        have found := inductionHypothesis.mpr none batches List.prefix_rfl
        rw [openAfter_append, found, ← Bool.not_eq_true, outline.opens_iff, not_or]
      simp only [List.prefix_concat_iff, forall_eq_or_imp, exchanges_eq, inductionHypothesis,
        failed_append_iff, not_or]
      constructor
      · rintro ⟨closed, before⟩
        have now := (last before).mp closed
        exact ⟨⟨before.1, now.1⟩, ⟨before.2, now.2⟩⟩
      · rintro ⟨⟨beforeCommit, commit⟩, ⟨beforeRollback, rollback⟩⟩
        have before := And.intro beforeCommit beforeRollback
        exact ⟨(last before).mpr ⟨commit, rollback⟩, before⟩

/-- A batch that has begun has no transaction open in the end, or its rollback has failed, exactly
if its commit has not failed; a commit that fails is not followed by a rollback.  Each batch of a
run finds no transaction open exactly as long as no commit and no rollback fails. -/
theorem batches_closed_iff (c : Connection σ) :
    (∀ (h : TableHandle) (rows : List Row) (returnId isOpen : Bool),
      (⟨.begin, .ok ()⟩ : Exchange) ∈ (h.insertMany rows returnId).exchanges c →
      ((openAfter isOpen ((h.insertMany rows returnId).exchanges c) = false ∨
          Failed .rollback ((h.insertMany rows returnId).exchanges c)) ↔
        ¬ Failed .commit ((h.insertMany rows returnId).exchanges c)) ∧
      (Failed .commit ((h.insertMany rows returnId).exchanges c) →
        ∀ answer : Except StoreError Unit,
          (⟨.rollback, answer⟩ : Exchange) ∉ (h.insertMany rows returnId).exchanges c)) ∧
    ∀ batches : List Batch,
      (∀ started, started <+: batches →
        openAfter false ((insertBatches started).exchanges c) = false) ↔
      ¬ Failed .commit ((insertBatches batches).exchanges c) ∧
        ¬ Failed .rollback ((insertBatches batches).exchanges c) := by
  refine ⟨fun h rows returnId isOpen begun => ?_, fun batches => closed_throughout_iff batches c⟩
  have outline : Outline ((h.insertMany rows returnId).exchanges c) :=
    (ends_insertMany h rows returnId c.records_recording).exchanges_result.outline
  exact ⟨outline.settled_iff begun isOpen, outline.not_rolledBack⟩

/-- A note is written, but the store is locked when it is to be committed: the transaction stays
open, and a second batch finds it open. -/
theorem batches_closed_locked :
    let locked : StoreError := ⟨.transaction, "database is locked"⟩
    let c : Connection Script := .scripted { commit := [.error locked] }
    let asked := (notes.insertMany [note "one"] false).exchanges c
    let batch : Batch := ⟨notes, [note "one"], false⟩
    (⟨.begin, .ok ()⟩ : Exchange) ∈ asked ∧
      ¬ (openAfter false asked = false ∨ Failed .rollback asked) ∧
      ¬ ∀ started, started <+: [batch, batch] →
        openAfter false ((insertBatches started).exchanges c) = false := by
  intro locked c asked batch
  have first : ∃ statement, asked =
      [⟨.begin, .ok ()⟩, ⟨.run statement, .ok {}⟩, ⟨.commit, .error locked⟩] := ⟨_, rfl⟩
  have alone : ∃ statement, (insertBatches [batch]).exchanges c =
      [⟨.begin, .ok ()⟩, ⟨.run statement, .ok {}⟩, ⟨.commit, .error locked⟩] := ⟨_, rfl⟩
  rcases first with ⟨statement, asked_eq⟩
  rcases alone with ⟨_, alone_eq⟩
  have begun : (⟨.begin, .ok ()⟩ : Exchange) ∈ asked := by
    rw [asked_eq]
    exact List.mem_cons_self
  have failed : Failed .commit asked := by
    rw [asked_eq]
    exact ⟨locked, by simp⟩
  have failedAlone : Failed .commit ((insertBatches [batch]).exchanges c) := by
    rw [alone_eq]
    exact ⟨locked, by simp⟩
  rcases batches_closed_iff c with ⟨each, throughout⟩
  have settled := (each notes [note "one"] false false begun).1
  refine ⟨begun, fun closed => settled.mp closed failed, fun closed => ?_⟩
  have found := (throughout [batch]).mp fun started isPrefix =>
    closed started (isPrefix.trans (List.prefix_append [batch] [batch]))
  exact found.1 failedAlone

end DocumentQuery
