import DocumentQuery.Proofs.Session.Histories
import DocumentQuery.Proofs.Session.Rejections
import DocumentQuery.Proofs.Sql.CreatedNames
import DocumentQuery.Proofs.Text.Names

namespace DocumentQuery

open DocumentQuery.Action DocumentQuery.Sql

/-!
# Names in the store

The store knows no schemas: it keeps a table or an index under one name, and that name must say
which one it is.  For identifiers it does.  The name of something in the default schema has no
point and every other one has a single point, so the two small names that a name in the store is
made of can be read off it again.  They are the key under which a connection remembers the
definition of a table.

Two things follow from that for the operations on a connection.  What is created under different
names is never sent to the store under one name, whatever else has happened.  And when a table is
found by asking for its description, the name that is sent decides under which key the answer is
remembered.
-/

variable {σ τ α : Type}

/-! ## Letter case -/

/-- Two texts differ at most in the case of the letters `A` to `Z`. -/
def SameLetters (first second : String) : Prop :=
  first.toList.map Text.smallLatin = second.toList.map Text.smallLatin

instance (first second : String) : Decidable (SameLetters first second) :=
  inferInstanceAs (Decidable (_ = _))

theorem Text.smallLatin_smallLatin (c : Char) : smallLatin (smallLatin c) = smallLatin c := by
  have first : 'A'.toNat = 65 := rfl
  have last : 'Z'.toNat = 90 := rfl
  refine Char.toNat_inj.mp ?_
  rw [toNat_smallLatin (smallLatin c), toNat_smallLatin c, first, last]
  split
  · split <;> omega
  · rfl

theorem sameLetters_iff {first second : String} (valid : Name.isIdentifier first = true)
    (valid' : Name.isIdentifier second = true) :
    SameLetters first second ↔ Text.lowercase first = Text.lowercase second := by
  rw [SameLetters, ← String.toList_inj, Text.toList_lowercase (Name.ascii_of_isIdentifier valid),
    Text.toList_lowercase (Name.ascii_of_isIdentifier valid')]

/-- The names of a schema and of something in it are identifiers. -/
def ValidNames (names : String × String) : Prop :=
  Name.isIdentifier names.1 = true ∧ Name.isIdentifier names.2 = true

/-! ## The key in a name -/

/-- The key of two names in a cache. -/
def smallNames (names : String × String) : String × String :=
  (Text.lowercase names.1, Text.lowercase names.2)

/-- The names of schema and table that a name in the store is made of.  They are those for which it
stands as the target of a join in the default schema. -/
def Name.cacheKey (stored : String) : String × String :=
  Join.splitTarget stored defaultSchema

theorem Join.splitTarget_eq (name schema : String) : splitTarget name schema =
    ((Reference.ofText name).qualifier.getD schema, (Reference.ofText name).column) := by
  rw [splitTarget, Reference.ofText]
  cases Text.splitAtFirst '.' name.toList <;> rfl

namespace Name

section

variable {names others : String × String} (valid : ValidNames names)

include valid

/-- The key is read back from the name in the store. -/
theorem cacheKey_qualified : cacheKey (qualified names.1 names.2) = smallNames names := by
  rw [cacheKey, Join.splitTarget_eq, qualified, smallNames]
  split
  · rename_i isDefault
    rw [Reference.ofText_bare (lowercase_noPoint valid.2), isDefault]
    rfl
  · rw [Reference.ofText_qualified (lowercase_noPoint valid.1)]
    rfl

/-- A name in the store is written in small letters. -/
theorem smallLatin_qualified : (qualified names.1 names.2).toList.map Text.smallLatin =
    (qualified names.1 names.2).toList := by
  have small {name : String} (valid : isIdentifier name = true) :
      (Text.lowercase name).toList.map Text.smallLatin = (Text.lowercase name).toList := by
    rw [Text.toList_lowercase (ascii_of_isIdentifier valid), List.map_map]
    exact List.map_congr_left fun c _ => Text.smallLatin_smallLatin c
  rw [qualified]
  split
  · exact small valid.2
  · have point : ".".toList.map Text.smallLatin = ".".toList := by decide
    rw [String.toList_append, String.toList_append, List.map_append, List.map_append,
      small valid.1, small valid.2, point]

/-- Two pairs of identifiers have one name in the store exactly if they are the same names. -/
theorem qualified_inj_iff (valid' : ValidNames others) :
    qualified names.1 names.2 = qualified others.1 others.2 ↔
      SameLetters names.1 others.1 ∧ SameLetters names.2 others.2 := by
  rw [sameLetters_iff valid.1 valid'.1, sameLetters_iff valid.2 valid'.2]
  constructor
  · -- The key undoes the qualified name, up to letter case.
    intro same
    have keys := congrArg cacheKey same
    rw [cacheKey_qualified valid, cacheKey_qualified valid'] at keys
    exact Prod.mk.inj keys
  · exact fun same => qualified_eq same

/-- Two names in the store never differ in letter case alone. -/
theorem sameLetters_qualified_iff (valid' : ValidNames others) :
    SameLetters (qualified names.1 names.2) (qualified others.1 others.2) ↔
      qualified names.1 names.2 = qualified others.1 others.2 := by
  rw [SameLetters, smallLatin_qualified valid, smallLatin_qualified valid', String.toList_inj]

end

end Name

/-! ## Creating -/

/-- The names of the schema and of what an operation creates in it. -/
def Operation.creates? : Operation → Option (String × String)
  | createTable schema table _ _ _ => some (schema, table)
  | createIndex schema _ index _ _ _ => some (schema, index)
  | _ => none

/-- A single statement was sent, and the first name in it is the given one. -/
def SentUnder (asked : List Exchange) (stored : String) : Prop :=
  ∃ pieces answer, asked = [⟨.batch pieces, answer⟩] ∧ firstName? (piecesText pieces) = some stored

theorem SentUnder.unique {asked : List Exchange} {stored other : String}
    (sent : SentUnder asked stored) (sent' : SentUnder asked other) : stored = other := by
  rcases sent with ⟨pieces, answer, rfl, named⟩
  rcases sent' with ⟨_, _, same, named'⟩
  cases same
  exact Option.some.inj (named.symm.trans named')

/-- How something is created: what is not refused is sent, under its name in the store. -/
structure Creates (names : String × String) (asked : List Exchange) (result : Except QueryError α) :
    Prop where
  sends : ∀ a, result = .ok a → asked ≠ []
  named : asked ≠ [] → ValidNames names ∧ SentUnder asked (Name.qualified names.1 names.2)

theorem Creates.refused (names : String × String) (error : QueryError) :
    Creates names [] (.error error : Except QueryError α) :=
  ⟨nofun, fun sent => absurd rfl sent⟩

/-- What a builder has accepted is sent. -/
theorem ends_created {names : String × String} {built : Except QueryError (List Piece)}
    (each : ∀ pieces, built = .ok pieces → ValidNames names ∧
      firstName? (piecesText pieces) = some (Name.qualified names.1 names.2))
    {c : Connection (Recorded σ)} (records : c.Records) :
    (Connection.check built >>= fun pieces => Connection.ask (.batch pieces)).Ends c
      fun asked result _ => Creates names asked result := by
  refine Ends.bind (ends_check ?_)
  cases built with
  | error error => exact .refused names error
  | ok pieces =>
      rcases each pieces rfl with ⟨valid, named⟩
      refine ends_ask records (fun _ answer _ _ _ => ?_) fun _ => .refused names .notConnected
      exact ⟨fun _ _ => List.cons_ne_nil _ _, fun _ => ⟨valid, pieces, answer, rfl, named⟩⟩

theorem ends_creates {operation : Operation} {names : String × String}
    (creates : operation.creates? = some names) {c : Connection (Recorded σ)}
    (records : c.Records) :
    operation.perform.Ends c fun asked result _ => Creates names asked result := by
  cases operation with
  | createTable schema table columns temporary ifNotExists =>
      cases creates
      refine Ends.bind (ends_requireOpen (fun _ => ?_) fun _ => .refused _ .notConnected)
      refine ends_created (fun pieces accepted => ?_) records
      rcases createTable_names accepted with ⟨validSchema, validTable, named⟩
      exact ⟨⟨validSchema, validTable⟩, named⟩
  | createIndex schema table index columns unique ifNotExists =>
      cases creates
      refine Ends.bind (ends_requireOpen (fun _ => ?_) fun _ => .refused _ .notConnected)
      -- The facade checks the schema, and the builder checks the index.
      refine Ends.bind (ends_checkIdentifier (fun validSchema => ?_) fun _ => .refused _)
      refine ends_created (fun pieces accepted => ?_) records
      rcases createIndex_names accepted with ⟨validIndex, named⟩
      exact ⟨⟨validSchema, validIndex⟩, named⟩
  | _ => exact nomatch creates

/-- At some moment an operation was to create something of these names, and the statement that was
sent has the given name in the store. -/
def Created (moments : List Moment) (names : String × String) (stored : String) : Prop :=
  ∃ m ∈ moments, ∃ operation, m.step = .perform operation ∧ operation.creates? = some names ∧
    SentUnder m.asked stored

theorem records_take (step : Step) {c : Connection (Recorded σ)} (records : c.Records) :
    (c.take step).Records := by
  cases step with
  | perform operation => exact (guards_perform operation c records).askedUntil.2.records records
  | close => exact records_close records

theorem records_after (steps : List Step) {c : Connection (Recorded σ)} (records : c.Records) :
    (c.after steps).Records := by
  induction steps generalizing c with
  | nil => exact records
  | cons step rest inductionHypothesis => exact inductionHypothesis (records_take step records)

/-- In every run what is created is created under its name in the store. -/
theorem Created.stored_eq {steps : List Step} {c : Connection (Recorded σ)} (records : c.Records)
    {names : String × String} {stored : String} (created : Created (c.history steps) names stored) :
    ValidNames names ∧ stored = Name.qualified names.1 names.2 := by
  induction steps generalizing c with
  | nil =>
      rcases created with ⟨m, member, _⟩
      exact nomatch member
  | cons step rest inductionHypothesis =>
      rcases created with ⟨m, member, operation, performed, creates, under⟩
      rcases List.mem_cons.mp member with rfl | later
      · -- The first step is taken on this connection, whatever has happened before.
        dsimp only at performed under
        subst performed
        have sent : c.askedUntil (c.take (.perform operation)) ≠ [] := by
          rcases under with ⟨_, _, same, _⟩
          rw [same]
          exact List.cons_ne_nil _ _
        rcases (ends_creates creates records).askedUntil.1.named sent with ⟨valid, named⟩
        exact ⟨valid, under.unique named⟩
      · exact inductionHypothesis (records_take step records)
          ⟨m, later, operation, performed, creates, under⟩

/-! ## Finding -/

/-- The definition that the answer to a description makes under a key, if it has columns. -/
def described? (key : String × String) : Except StoreError (List StoredColumn) → Option Table
  | .ok columns => if columns.isEmpty then none else some (definition key columns)
  | .error _ => none

/-- An answer is remembered under a key, where nothing was remembered before, and under no other
key.  It also is the result. -/
structure KeptUnder (key : String × String) (answer : Except StoreError (List StoredColumn))
    (result : Except QueryError (Option Table)) (before after : DefinitionCache) : Prop where
  unknown : before.found? key.1 key.2 = none
  result_eq : result = (resultOf answer).map fun _ => described? key answer
  found?_eq : ∀ other : String × String, after.found? other.1 other.2 =
    if other = key then described? key answer else before.found? other.1 other.2

theorem KeptUnder.nothing {key : String × String} {answer : Except StoreError (List StoredColumn)}
    {result : Except QueryError (Option Table)} {before : DefinitionCache}
    (unknown : before.found? key.1 key.2 = none) (makesNone : described? key answer = none)
    (result_eq : result = (resultOf answer).map fun _ => none) :
    KeptUnder key answer result before before where
  unknown := unknown
  result_eq := by rw [makesNone, result_eq]
  found?_eq other := by
    rw [makesNone]
    split
    · rename_i same
      rw [same, unknown]
    · rfl

/-- A definition is added under the key of its names. -/
theorem KeptUnder.added {names : String × String} {before : DefinitionCache}
    (unknown : before.table? names.1 names.2 = none) (column : StoredColumn)
    (rest : List StoredColumn) :
    KeptUnder (smallNames names) (.ok (column :: rest))
      (.ok (some (definition names (column :: rest)))) before
      (before.addTable (definition names (column :: rest))) := by
  have same : SameNames names (smallNames names) :=
    ⟨(Text.lowercase_lowercase _).symm, (Text.lowercase_lowercase _).symm⟩
  have makes : described? (smallNames names) (.ok (column :: rest)) =
      some (definition names (column :: rest)) := by
    rw [definition_eq same]
    rfl
  refine ⟨unknown, ?_, fun other => ?_⟩
  · rw [makes]
    rfl
  · have sameKey : (other.1 = (smallNames names).1 ∧ other.2 = (smallNames names).2) ↔
        other = smallNames names := Prod.ext_iff.symm
    rw [makes, before.found?_addTable]
    exact if_congr sameKey rfl rfl

/-- How a table is found: what is not known is asked for under its name in the store, and the answer
is kept under the key of its names. -/
structure Finds (names : String × String) (asked : List Exchange)
    (result : Except QueryError (Option Table)) (before after : DefinitionCache) : Prop where
  asks : before.table? names.1 names.2 = none → ∃ answer : Except StoreError (List StoredColumn),
    asked = [⟨.describe (Name.qualified names.1 names.2), answer⟩]
  kept : ∀ stored (answer : Except StoreError (List StoredColumn)),
    (⟨.describe stored, answer⟩ : Exchange) ∈ asked →
      stored = Name.qualified names.1 names.2 ∧
        KeptUnder (smallNames names) answer result before after

theorem Loads.finds {names : String × String} {c : Connection (Recorded σ)} {asked : List Exchange}
    {result : Except QueryError (Option Table)} {after : DefinitionCache}
    (loads : Loads names c asked result after) (isOpen : c.isOpen = true) :
    Finds names asked result c.cache after := by
  have described {answer : Except StoreError (List StoredColumn)}
      (kept : KeptUnder (smallNames names) answer result c.cache after) :
      Finds names [⟨.describe (Name.qualified names.1 names.2), answer⟩] result c.cache after := by
    refine ⟨fun _ => ⟨answer, rfl⟩, fun stored other member => ?_⟩
    cases List.mem_singleton.mp member
    exact ⟨rfl, kept⟩
  cases loads with
  | closed isClosed => exact absurd isOpen (by rw [isClosed]; decide)
  | @remembered found known =>
      refine ⟨fun unknown => ?_, fun _ _ member => nomatch member⟩
      exact absurd (known.symm.trans unknown) (Option.some_ne_none found)
  | failed unknown e => exact described (.nothing unknown rfl rfl)
  | missing unknown => exact described (.nothing unknown rfl rfl)
  | described unknown column rest => exact described (.added unknown column rest)

/-- Only identifiers are looked up, on an open connection. -/
theorem ends_finds (names : String × String) {c : Connection (Recorded σ)} (records : c.Records) :
    (Connection.findTable names.1 names.2).Ends c fun asked result c' =>
      (c.isOpen = true → ValidNames names → Finds names asked result c.cache c'.cache) ∧
        (asked ≠ [] → c.isOpen = true ∧ ValidNames names) := by
  refine ends_findTable_of_loadTable (fun isOpen validSchema validTable => ?_) fun _ no => ?_
  · exact (ends_loads names records).mono fun _ _ _ _ loads =>
      ⟨fun _ _ => loads.finds isOpen, fun _ => ⟨isOpen, validSchema, validTable⟩⟩
  · exact ⟨fun isOpen valid => absurd ⟨isOpen, valid⟩ no, fun sent => absurd rfl sent⟩

/-! ## The names decide -/

/-- Two pairs of identifiers have one name in the store exactly if they differ at most in letter
case.  Whatever is created in two runs under names that differ otherwise is created under different
names in the store, also for a store that disregards letter case.  The name that is sent to find a
table decides the key under which the answer is remembered, and nothing else changes. -/
theorem store_names_identify (c : Connection σ) (d : Connection τ) (steps later : List Step) :
    let now := c.recording.after steps
    (∀ names others : String × String, ValidNames names → ValidNames others →
      (Name.qualified names.1 names.2 = Name.qualified others.1 others.2 ↔
        SameLetters names.1 others.1 ∧ SameLetters names.2 others.2)) ∧
    (∀ (names others : String × String) (stored stored' : String),
      Created (c.recording.history steps) names stored →
      Created (d.recording.history later) others stored' →
        (SameLetters stored stored' ↔ stored = stored') ∧
        (stored = stored' ↔ SameLetters names.1 others.1 ∧ SameLetters names.2 others.2)) ∧
    (∀ operation names a, operation.creates? = some names → now.returns operation = .ok a →
      SentUnder (now.asks operation) (Name.qualified names.1 names.2)) ∧
    (∀ names : String × String, now.isOpen = true → ValidNames names →
      now.cache.table? names.1 names.2 = none →
        ∃ answer : Except StoreError (List StoredColumn),
          now.asks (.findTable names.1 names.2) =
            [⟨.describe (Name.qualified names.1 names.2), answer⟩]) ∧
    ∀ (names : String × String) (stored : String) (answer : Except StoreError (List StoredColumn)),
      (⟨.describe stored, answer⟩ : Exchange) ∈ now.asks (.findTable names.1 names.2) →
        Name.cacheKey stored = smallNames names ∧
        KeptUnder (Name.cacheKey stored) answer (now.returns (.findTable names.1 names.2)) now.cache
          (now.take (.perform (.findTable names.1 names.2))).cache := by
  intro now
  have records : now.Records := records_after steps c.records_recording
  have found (names : String × String) := (ends_finds names records).askedUntil.1
  refine ⟨fun names others => Name.qualified_inj_iff, ?_, ?_, ?_, ?_⟩
  · intro names others stored stored' created created'
    rcases created.stored_eq c.records_recording with ⟨valid, rfl⟩
    rcases created'.stored_eq d.records_recording with ⟨valid', rfl⟩
    exact ⟨Name.sameLetters_qualified_iff valid valid', Name.qualified_inj_iff valid valid'⟩
  · intro operation names a creates succeeded
    have made := (ends_creates creates records).askedUntil.1
    exact (made.named (made.sends a succeeded)).2
  · intro names isOpen valid unknown
    exact ((found names).1 isOpen valid).asks unknown
  · intro names stored answer asked
    rcases (found names).2 (List.ne_nil_of_mem asked) with ⟨isOpen, valid⟩
    rcases ((found names).1 isOpen valid).kept stored answer asked with ⟨rfl, kept⟩
    rw [Name.cacheKey_qualified valid]
    exact ⟨rfl, kept⟩

/-- A table `T` of the schema `S` and an index `S_T` of the default schema, whose names in the store
differ in one character only. -/
theorem store_names_identify_point :
    let script : Script :=
      { version := .ok "3", tables := ⟨[("s.t", [⟨"id", "integer", false, false⟩])]⟩ }
    let c : Connection Script := { Connection.scripted {} with state := script }
    let table : Operation := .createTable "S" "T" [{ name := "id", type := "integer" }] false false
    let index : Operation := .createIndex "default" "t" "S_T" ["id"] true false
    let now := c.recording.after [.perform table, .perform index]
    let moments := c.recording.history [.perform table, .perform index]
    (ValidNames ("S", "T") ∧ ValidNames ("default", "S_T") ∧
      Name.qualified "S" "T" ≠ Name.qualified "default" "S_T") ∧
    (Created moments ("S", "T") "s.t" ∧ Created moments ("default", "S_T") "s_t" ∧
      ¬ SameLetters "s.t" "s_t") ∧
    (now.returns table = .ok () ∧ SentUnder (now.asks table) (Name.qualified "S" "T")) ∧
    ∃ answer : Except StoreError (List StoredColumn),
      (⟨.describe "s.t", answer⟩ : Exchange) ∈ now.asks (.findTable "S" "T") ∧
      KeptUnder (Name.cacheKey "s.t") answer (now.returns (.findTable "S" "T")) now.cache
        (now.take (.perform (.findTable "S" "T"))).cache := by
  intro script c table index now moments
  have validTable : ValidNames ("S", "T") := ⟨by decide, by decide⟩
  have validIndex : ValidNames ("default", "S_T") := ⟨by decide, by decide⟩
  have other : ¬ (SameLetters "S" "default" ∧ SameLetters "T" "S_T") := by decide
  have tableCreated : Created moments ("S", "T") "s.t" :=
    ⟨_, List.mem_cons_self, table, rfl, rfl, _, _, rfl, by decide +kernel⟩
  have indexCreated : Created moments ("default", "S_T") "s_t" :=
    ⟨_, List.mem_cons_of_mem _ List.mem_cons_self, index, rfl, rfl, _, _, rfl, by decide +kernel⟩
  rcases store_names_identify c c [.perform table, .perform index]
    [.perform table, .perform index] with ⟨same_names_iff, created, succeeded, described, kept⟩
  refine ⟨⟨validTable, validIndex, ?_⟩, ⟨tableCreated, indexCreated, ?_⟩, ⟨rfl, ?_⟩, ?_⟩
  · exact mt (same_names_iff ("S", "T") ("default", "S_T") validTable validIndex).mp other
  · rcases created _ _ _ _ tableCreated indexCreated with ⟨caseless, same_iff⟩
    exact fun same => other (same_iff.mp (caseless.mp same))
  · exact succeeded table ("S", "T") () rfl rfl
  · rcases described ("S", "T") rfl validTable rfl with ⟨answer, asked⟩
    have stored : Name.qualified "S" "T" = "s.t" := by decide
    have member : (⟨.describe "s.t", answer⟩ : Exchange) ∈ now.asks (.findTable "S" "T") := by
      rw [← stored]
      exact asked ▸ List.mem_singleton_self _
    exact ⟨answer, member, (kept ("S", "T") "s.t" answer member).2⟩

end DocumentQuery
