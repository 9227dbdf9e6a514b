import DocumentQuery.Session.Cache

namespace DocumentQuery

/-!
# What a cache remembers

A definition is remembered under two names, and found under the same names in any letter case.
Here each change of a cache is described by what is found afterwards: a definition that is added is
found under its names, one that is forgotten is not found, and under other names nothing changes.

Forgetting takes away one entry, so it only forgets where each name is held once.  Every change of
a cache keeps that.
-/

/-- The names of a schema and a table are the same names in any letter case. -/
def SameNames (names others : String × String) : Prop :=
  Text.lowercase names.1 = Text.lowercase others.1 ∧
    Text.lowercase names.2 = Text.lowercase others.2

instance (names others : String × String) : Decidable (SameNames names others) :=
  inferInstanceAs (Decidable (_ ∧ _))

theorem SameNames.refl (names : String × String) : SameNames names names :=
  ⟨rfl, rfl⟩

theorem SameNames.symm {names others : String × String} (same : SameNames names others) :
    SameNames others names :=
  ⟨same.1.symm, same.2.symm⟩

theorem SameNames.trans {names others more : String × String} (first : SameNames names others)
    (second : SameNames others more) : SameNames names more :=
  ⟨first.1.trans second.1, first.2.trans second.2⟩

namespace DefinitionCache

/-- Each schema, and each table of a schema, is held once. -/
structure Distinct (c : DefinitionCache) : Prop where
  schemas : c.schemas.Distinct
  tables : ∀ (key : String) (entry : SchemaEntry), c.schemas.get? key = some entry →
    entry.tables.Distinct

/-- What is remembered under two names in small letters. -/
def found? (c : DefinitionCache) (schema table : String) : Option Table :=
  (c.schemas.get? schema).bind fun entry => entry.tables.get? table

theorem table?_eq (c : DefinitionCache) (schema table : String) :
    c.table? schema table = c.found? (Text.lowercase schema) (Text.lowercase table) := rfl

/-- Putting an entry in place keeps what is held once. -/
theorem Distinct.insert {c : DefinitionCache} (distinct : c.Distinct) (key : String)
    {entry : SchemaEntry} (tables : entry.tables.Distinct) :
    ({ c with schemas := c.schemas.insert key entry } : DefinitionCache).Distinct where
  schemas := distinct.schemas.insert key entry
  tables other found held := by
    by_cases same : other = key
    · rw [same, OrderedMap.get?_insert_self] at held
      rw [← Option.some.inj held]
      exact tables
    · rw [c.schemas.get?_insert_of_ne entry same] at held
      exact distinct.tables other found held

/-! ## Nothing -/

theorem distinct_ofDatabase (database : String) : (ofDatabase database).Distinct where
  schemas := OrderedMap.distinct_empty
  tables _ _ held := nomatch held

theorem table?_ofDatabase (database schema table : String) :
    (ofDatabase database).table? schema table = none := rfl

/-! ## Remembering -/

theorem distinct_addSchema {c : DefinitionCache} (distinct : c.Distinct) (schema : Schema) :
    (c.addSchema schema).2.Distinct := by
  rw [addSchema]
  cases c.schemas.get? schema.name with
  | some entry => exact distinct
  | none => exact distinct.insert schema.name OrderedMap.distinct_empty

/-- A schema that is remembered brings no definitions. -/
theorem table?_addSchema (c : DefinitionCache) (schema : Schema) (schemaName table : String) :
    (c.addSchema schema).2.table? schemaName table = c.table? schemaName table := by
  rw [addSchema]
  cases held : c.schemas.get? schema.name with
  | some entry => rfl
  | none =>
      rw [table?_eq, table?_eq, found?, found?]
      by_cases same : Text.lowercase schemaName = schema.name
      · rw [same, OrderedMap.get?_insert_self, held]
        rfl
      · rw [c.schemas.get?_insert_of_ne _ same]

theorem distinct_addTable {c : DefinitionCache} (distinct : c.Distinct) (table : Table) :
    (c.addTable table).Distinct := by
  refine distinct.insert table.schema (OrderedMap.Distinct.insert ?_ table.name table)
  cases held : c.schemas.get? table.schema with
  | none => exact OrderedMap.distinct_empty
  | some entry => exact distinct.tables table.schema entry held

theorem found?_addTable (c : DefinitionCache) (table : Table) (schema name : String) :
    (c.addTable table).found? schema name =
      if schema = table.schema ∧ name = table.name then some table else c.found? schema name := by
  rw [found?, found?, addTable]
  by_cases sameSchema : schema = table.schema
  · rw [sameSchema, OrderedMap.get?_insert_self, Option.bind_some]
    by_cases sameName : name = table.name
    · rw [sameName, OrderedMap.get?_insert_self, if_pos ⟨rfl, rfl⟩]
    · rw [OrderedMap.get?_insert_of_ne _ _ sameName, if_neg fun both => sameName both.2]
      cases c.schemas.get? table.schema <;> rfl
  · rw [c.schemas.get?_insert_of_ne _ sameSchema, if_neg fun both => sameSchema both.1]

/-- A definition that is added is found under its names, and no other one changes. -/
theorem table?_addTable (c : DefinitionCache) (schema table : String) (columns : List Column)
    (others : String × String) :
    (c.addTable (.named schema table columns)).table? others.1 others.2 =
      if SameNames others (schema, table) then some (.named schema table columns)
      else c.table? others.1 others.2 :=
  c.found?_addTable (.named schema table columns) _ _

/-! ## Forgetting -/

theorem distinct_forgetSchema {c : DefinitionCache} (distinct : c.Distinct) (schema : String) :
    (c.forgetSchema schema).2.Distinct where
  schemas := distinct.schemas.erase _
  tables key entry held := by
    change (c.schemas.erase (Text.lowercase schema)).get? key = some entry at held
    by_cases same : key = Text.lowercase schema
    · rw [same, distinct.schemas.get?_erase_self] at held
      exact nomatch held
    · rw [c.schemas.get?_erase_of_ne same] at held
      exact distinct.tables key entry held

/-- With a schema all its definitions are forgotten. -/
theorem table?_forgetSchema {c : DefinitionCache} (distinct : c.Distinct)
    (schema other table : String) : (c.forgetSchema schema).2.table? other table =
      if Text.lowercase other = Text.lowercase schema then none else c.table? other table := by
  rw [table?_eq, table?_eq, found?, found?, forgetSchema]
  by_cases same : Text.lowercase other = Text.lowercase schema
  · rw [if_pos same, same, distinct.schemas.get?_erase_self]
    rfl
  · rw [if_neg same, c.schemas.get?_erase_of_ne same]

theorem distinct_forgetTable {c : DefinitionCache} (distinct : c.Distinct) (schema table : String) :
    (c.forgetTable schema table).2.Distinct where
  schemas := distinct.schemas.modify _ _
  tables key entry held := by
    rw [forgetTable] at held
    by_cases same : key = Text.lowercase schema
    · rw [same, OrderedMap.get?_modify_self] at held
      rcases Option.map_eq_some_iff.mp held with ⟨before, found, rfl⟩
      exact (distinct.tables _ before found).erase _
    · rw [c.schemas.get?_modify_of_ne _ same] at held
      exact distinct.tables key entry held

/-- A definition that is forgotten is not found, and no other one changes. -/
theorem table?_forgetTable {c : DefinitionCache} (distinct : c.Distinct) (schema table : String)
    (others : String × String) : (c.forgetTable schema table).2.table? others.1 others.2 =
      if SameNames others (schema, table) then none else c.table? others.1 others.2 := by
  rw [table?_eq, table?_eq, found?, found?, forgetTable]
  by_cases sameSchema : Text.lowercase others.1 = Text.lowercase schema
  · rw [sameSchema, OrderedMap.get?_modify_self]
    cases held : c.schemas.get? (Text.lowercase schema) with
    | none => simp
    | some entry =>
        by_cases sameTable : Text.lowercase others.2 = Text.lowercase table
        · rw [if_pos ⟨sameSchema, sameTable⟩, sameTable]
          exact (distinct.tables _ entry held).get?_erase_self _
        · rw [if_neg fun both => sameTable both.2]
          exact entry.tables.get?_erase_of_ne sameTable
  · rw [c.schemas.get?_modify_of_ne _ sameSchema, if_neg fun both => sameSchema both.1]

end DefinitionCache
end DocumentQuery
