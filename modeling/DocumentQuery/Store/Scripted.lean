import DocumentQuery.Store.Basic

namespace DocumentQuery

/-!
# Scripted stores

A scripted store answers from prepared replies and keeps a record of every call, so that
what an operation asks of a store, and in which order, can be read off afterwards.  Where
no reply is prepared a call succeeds and has nothing to report.
-/

/-- The prepared replies to each kind of call, next one first. -/
structure Replies where
  run : List (Except StoreError RunOutcome) := []
  query : List (Except StoreError (List Row)) := []
  batch : List (Except StoreError Unit) := []
  begin : List (Except StoreError Unit) := []
  commit : List (Except StoreError Unit) := []
  rollback : List (Except StoreError Unit) := []
  describe : List (Except StoreError Unit) := []

/-- The state of a scripted store: its version, its tables by their names in the store, the
replies, and the calls so far, latest first. -/
structure Script where
  version : Except StoreError String
  tables : OrderedMap (List StoredColumn) := .empty
  replies : Replies := {}
  record : List Call := []

namespace Script

/-- The next reply, or the given one where none is prepared. -/
def next {α : Type} (default : α) : List (Except StoreError α) →
    Except StoreError α × List (Except StoreError α)
  | [] => (.ok default, [])
  | reply :: rest => (reply, rest)

/-- The columns of a table; a table that is not there has none. -/
def columnsOf (s : Script) (table : String) : List StoredColumn :=
  (s.tables.get? table).getD []

/-- Answer a call and record it. -/
def answer (call : Call) (s : Script) : Except StoreError call.Answer × Script :=
  let s := { s with record := call :: s.record }
  let r := s.replies
  match call with
  | .version => (s.version, s)
  | .run _ =>
    let (reply, rest) := next {} r.run
    (reply, { s with replies := { r with run := rest } })
  | .query _ =>
    let (reply, rest) := next [] r.query
    (reply, { s with replies := { r with query := rest } })
  | .batch _ =>
    let (reply, rest) := next () r.batch
    (reply, { s with replies := { r with batch := rest } })
  | .begin =>
    let (reply, rest) := next () r.begin
    (reply, { s with replies := { r with begin := rest } })
  | .commit =>
    let (reply, rest) := next () r.commit
    (reply, { s with replies := { r with commit := rest } })
  | .rollback =>
    let (reply, rest) := next () r.rollback
    (reply, { s with replies := { r with rollback := rest } })
  | .describe table =>
    let (reply, rest) := next () r.describe
    (reply.map fun _ => s.columnsOf table, { s with replies := { r with describe := rest } })

/-- The store that answers from a script. -/
def store : Store Script where
  answer := answer

def calls (s : Script) : List Call :=
  s.record.reverse

end Script
end DocumentQuery
