import DocumentQuery.Session.Connection
import DocumentQuery.Store.Scripted

namespace DocumentQuery

/-!
# What an action asks of a store

Any store can be made to keep a record of what it is asked and what it answers.  Nothing else
about it changes, so what an action does on a connection to a recording store is what it does on
every connection, with every sequence of answers.

`Ends` says how an action ends: with the exchanges it adds to the record, its result, and the
connection it leaves behind.  It has one lemma for each way in which actions are put together, and
one for each of the few actions that look at the connection.
-/

/-- A call and the answer to it. -/
structure Exchange where
  call : Call
  answer : Except StoreError call.Answer

/-- The state of a store, and what has been asked of it so far. -/
structure Recorded (σ : Type) where
  state : σ
  exchanges : List Exchange

variable {σ α β : Type}

/-- A store that answers as another one and records every call with its answer. -/
def Store.recording (store : Store σ) : Store (Recorded σ) where
  answer call recorded :=
    let (answer, state) := store.answer call recorded.state
    (answer, ⟨state, recorded.exchanges ++ [⟨call, answer⟩]⟩)

namespace Connection

/-- The connection with a record, which is empty at first. -/
def recording (c : Connection σ) : Connection (Recorded σ) where
  config := c.config
  store := c.store.recording
  state := ⟨c.state, []⟩
  isOpen := c.isOpen
  cache := c.cache
  server := c.server

/-- An open connection to a store that answers from a script. -/
def scripted (replies : Replies) : Connection Script where
  config := .inMemory
  store := Script.store
  state := { version := .ok "3", replies }
  isOpen := true
  cache := .ofDatabase Config.memoryDatabase
  server := { version := "3" }

/-- The store of the connection keeps a record. -/
def Records (c : Connection (Recorded σ)) : Prop :=
  ∃ store : Store σ, c.store = store.recording

theorem records_recording (c : Connection σ) : c.recording.Records :=
  ⟨c.store, rfl⟩

/-- One connection comes from another by exchanges with the same store. -/
structure Extends (c c' : Connection (Recorded σ)) (added : List Exchange) : Prop where
  store_eq : c'.store = c.store
  isOpen_eq : c'.isOpen = c.isOpen
  exchanges_eq : c'.state.exchanges = c.state.exchanges ++ added

namespace Extends

variable {c c' c'' : Connection (Recorded σ)} {added more : List Exchange}

theorem refl (c : Connection (Recorded σ)) : c.Extends c [] :=
  ⟨rfl, rfl, (List.append_nil _).symm⟩

theorem trans (first : c.Extends c' added) (second : c'.Extends c'' more) :
    c.Extends c'' (added ++ more) where
  store_eq := second.store_eq.trans first.store_eq
  isOpen_eq := second.isOpen_eq.trans first.isOpen_eq
  exchanges_eq := by
    rw [second.exchanges_eq, first.exchanges_eq, List.append_assoc]

theorem records (extension : c.Extends c' added) (records : c.Records) : c'.Records := by
  rcases records with ⟨store, same⟩
  exact ⟨store, extension.store_eq.trans same⟩

end Extends
end Connection

namespace Action

/-! ## Runs of actions -/

theorem run_bind (action : Action σ α) (next : α → Action σ β) (c : Connection σ) :
    (action >>= next).run c = ExceptT.bindCont next (action.run c).1 (action.run c).2 :=
  rfl

theorem run_get_bind (next : Connection σ → Action σ α) (c : Connection σ) :
    (getThe (Connection σ) >>= next : Action σ α).run c = (next c).run c :=
  rfl

theorem run_requireOpen (c : Connection σ) : (Connection.requireOpen : Action σ Unit).run c =
    (if c.isOpen then .ok () else .error .notConnected, c) := by
  rw [Connection.requireOpen, run_get_bind]
  cases c.isOpen <;> rfl

/-- An answer as a result. -/
def resultOf (answer : Except StoreError α) : Except QueryError α :=
  answer.mapError .store

/-- On an open connection a call takes the answer and the next state from the store. -/
theorem run_ask (call : Call) (c : Connection σ) (isOpen : c.isOpen = true) :
    (Connection.ask call : Action σ call.Answer).run c =
      (resultOf (c.store.answer call c.state).1,
        { c with state := (c.store.answer call c.state).2 }) := by
  have opened : (Connection.requireOpen : Action σ Unit).run c = (.ok (), c) := by
    rw [run_requireOpen, if_pos isOpen]
  rw [Connection.ask, run_bind, opened]
  change (getThe (Connection σ) >>= _ : Action σ call.Answer).run c = _
  rw [run_get_bind]
  rcases c.store.answer call c.state with ⟨answer, state⟩
  cases answer <;> rfl

/-! ## Ends of actions -/

/-- What an action asks of the store of a connection. -/
def exchanges (action : Action (Recorded σ) α) (c : Connection σ) : List Exchange :=
  (action.run c.recording).2.state.exchanges

/-- The result of an action on a connection. -/
def result (action : Action (Recorded σ) α) (c : Connection σ) : Except QueryError α :=
  (action.run c.recording).1

/-- How an action ends: `post` is about the exchanges that it adds, its result and the connection
that it leaves behind. -/
def Ends (action : Action (Recorded σ) α) (c : Connection (Recorded σ))
    (post : List Exchange → Except QueryError α → Connection (Recorded σ) → Prop) : Prop :=
  ∃ (added : List Exchange) (result : Except QueryError α) (c' : Connection (Recorded σ)),
    action.run c = (result, c') ∧ c.Extends c' added ∧ post added result c'

theorem Ends.exchanges_result {action : Action (Recorded σ) α} {c : Connection σ}
    {post : List Exchange → Except QueryError α → Connection (Recorded σ) → Prop}
    (ends : action.Ends c.recording post) :
    post (action.exchanges c) (action.result c) (action.run c.recording).2 := by
  rcases ends with ⟨added, result, c', run, extension, holds⟩
  have added_eq : action.exchanges c = added := by
    rw [exchanges, run, extension.exchanges_eq]
    rfl
  have result_eq : action.result c = result := congrArg Prod.fst run
  rw [added_eq, result_eq, run]
  exact holds

theorem Ends.extends {action : Action (Recorded σ) α} {c : Connection σ}
    {post : List Exchange → Except QueryError α → Connection (Recorded σ) → Prop}
    (ends : action.Ends c.recording post) :
    c.recording.Extends (action.run c.recording).2 (action.exchanges c) := by
  rcases ends with ⟨added, result, c', run, extension, _⟩
  have after : (action.run c.recording).2 = c' := congrArg Prod.snd run
  rw [exchanges, after]
  exact ⟨extension.store_eq, extension.isOpen_eq, rfl⟩

/-- What is asked by a second action comes after what a first one has asked. -/
theorem exchanges_bind {action : Action (Recorded σ) α} (next : α → Action (Recorded σ) β)
    {c : Connection σ} {a : α} (succeeds : action.result c = .ok a)
    {post : List Exchange → Except QueryError β → Connection (Recorded σ) → Prop}
    (ends : (next a).Ends (action.run c.recording).2 post) :
    ∃ added result c', (action >>= next).exchanges c = action.exchanges c ++ added ∧
      post added result c' := by
  rcases ends with ⟨added, result, c', run, extension, holds⟩
  have bound := run_bind action next c.recording
  have first : (action.run c.recording).1 = .ok a := succeeds
  rw [first] at bound
  have after : ((action >>= next).run c.recording).2 = c' := congrArg Prod.snd (bound.trans run)
  refine ⟨added, result, c', ?_, holds⟩
  rw [exchanges, exchanges, after, extension.exchanges_eq]

section

variable {action : Action (Recorded σ) α} {c : Connection (Recorded σ)}
  {post other : List Exchange → Except QueryError α → Connection (Recorded σ) → Prop}

theorem Ends.mono (ends : action.Ends c post)
    (weaker : ∀ added result c', c.Extends c' added → post added result c' →
      other added result c') : action.Ends c other := by
  rcases ends with ⟨added, result, c', run, extension, holds⟩
  exact ⟨added, result, c', run, extension, weaker added result c' extension holds⟩

theorem ends_pure {a : α} (holds : post [] (.ok a) c) :
    (Pure.pure a : Action (Recorded σ) α).Ends c post :=
  ⟨[], .ok a, c, rfl, .refl c, holds⟩

theorem ends_throw {error : QueryError} (holds : post [] (.error error) c) :
    (throw error : Action (Recorded σ) α).Ends c post :=
  ⟨[], .error error, c, rfl, .refl c, holds⟩

/-- The second part of an action is run where the first one has succeeded. -/
theorem Ends.bind {next : α → Action (Recorded σ) β}
    {post : List Exchange → Except QueryError β → Connection (Recorded σ) → Prop}
    (first : action.Ends c fun added result c' =>
      match result with
      | .ok a => (next a).Ends c' fun more result c'' => post (added ++ more) result c''
      | .error error => post added (.error error) c') :
    (action >>= next).Ends c post := by
  rcases first with ⟨added, result, c', run, extension, holds⟩
  have bound := run_bind action next c
  rw [run] at bound
  cases result with
  | error error => exact ⟨added, .error error, c', bound, extension, holds⟩
  | ok a =>
      rcases holds with ⟨more, result, c'', runNext, extensionNext, holds⟩
      exact ⟨added ++ more, result, c'', bound.trans runNext, extension.trans extensionNext, holds⟩

theorem ends_check {checked : Except QueryError α} (holds : post [] checked c) :
    (Connection.check checked : Action (Recorded σ) α).Ends c post := by
  cases checked with
  | ok a => exact ends_pure holds
  | error error => exact ends_throw holds

theorem ends_requireOpen
    {post : List Exchange → Except QueryError Unit → Connection (Recorded σ) → Prop}
    (opened : c.isOpen = true → post [] (.ok ()) c)
    (closed : c.isOpen = false → post [] (.error .notConnected) c) :
    (Connection.requireOpen : Action (Recorded σ) Unit).Ends c post := by
  refine ⟨[], _, c, run_requireOpen c, .refl c, ?_⟩
  cases isOpen : c.isOpen with
  | true => exact opened isOpen
  | false => exact closed isOpen

theorem ends_get
    {post : List Exchange → Except QueryError (Connection (Recorded σ)) →
      Connection (Recorded σ) → Prop}
    (holds : post [] (.ok c) c) :
    (getThe (Connection (Recorded σ)) : Action (Recorded σ) (Connection (Recorded σ))).Ends c post :=
  ⟨[], .ok c, c, rfl, .refl c, holds⟩

theorem ends_set {c' : Connection (Recorded σ)} (extends' : c.Extends c' [])
    {post : List Exchange → Except QueryError PUnit → Connection (Recorded σ) → Prop}
    (holds : post [] (.ok ()) c') :
    (set c' : Action (Recorded σ) PUnit).Ends c post :=
  ⟨[], .ok (), c', rfl, extends', holds⟩

theorem ends_cached
    {post : List Exchange → Except QueryError DefinitionCache → Connection (Recorded σ) → Prop}
    (holds : post [] (.ok c.cache) c) :
    (Connection.cached : Action (Recorded σ) DefinitionCache).Ends c post :=
  ⟨[], .ok c.cache, c, rfl, .refl c, holds⟩

theorem ends_updateCache {f : DefinitionCache → DefinitionCache}
    {post : List Exchange → Except QueryError Unit → Connection (Recorded σ) → Prop}
    (holds : post [] (.ok ()) { c with cache := f c.cache }) :
    (Connection.updateCache f : Action (Recorded σ) Unit).Ends c post :=
  ⟨[], .ok (), { c with cache := f c.cache }, rfl, ⟨rfl, rfl, (List.append_nil _).symm⟩, holds⟩

theorem Ends.attempt {post : List Exchange → Except QueryError (Except QueryError α) →
      Connection (Recorded σ) → Prop}
    (ends : action.Ends c fun added result c' => post added (.ok result) c') :
    (Connection.attempt action).Ends c post := by
  rcases ends with ⟨added, result, c', run, extension, holds⟩
  refine ⟨added, .ok result, c', ?_, extension, holds⟩
  change ((Except.ok (action.run c).1, (action.run c).2) : _ × _) = _
  rw [run]

/-- On an open connection a call adds one exchange with some answer, which is the result.  On a
closed one nothing is asked. -/
theorem ends_ask {call : Call}
    {post : List Exchange → Except QueryError call.Answer → Connection (Recorded σ) → Prop}
    (records : c.Records)
    (opened : c.isOpen = true → ∀ (answer : Except StoreError call.Answer)
      (c' : Connection (Recorded σ)), c.Extends c' [⟨call, answer⟩] → c'.cache = c.cache →
      post [⟨call, answer⟩] (resultOf answer) c')
    (closed : c.isOpen = false → post [] (.error .notConnected) c) :
    (Connection.ask call : Action (Recorded σ) call.Answer).Ends c post := by
  cases isOpen : c.isOpen with
  | true =>
      rcases records with ⟨store, same⟩
      have run := run_ask call c isOpen
      have answered : (c.store.answer call c.state).1 = (store.answer call c.state.state).1 := by
        rw [same]
        rfl
      have extension : c.Extends { c with state := (c.store.answer call c.state).2 }
          [⟨call, (c.store.answer call c.state).1⟩] := by
        refine ⟨rfl, rfl, ?_⟩
        rw [answered, same]
        rfl
      exact ⟨_, _, _, run, extension, opened isOpen _ _ extension rfl⟩
  | false =>
      have refused : (Connection.requireOpen : Action (Recorded σ) Unit).run c =
          (.error .notConnected, c) := by
        rw [run_requireOpen, isOpen]
        rfl
      refine ⟨[], .error .notConnected, c, ?_, .refl c, closed isOpen⟩
      rw [Connection.ask, run_bind, refused]
      rfl

end

end Action
end DocumentQuery
