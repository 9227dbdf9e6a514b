import DocumentQuery.Session.Connection

namespace DocumentQuery

/-!
# Registries

A registry finds the driver that opens connections by its name or one of its other names,
without regard to letter case.  Of two drivers under one name the later one counts.
-/

/-- Something that opens connections. -/
structure Driver (σ : Type) where
  name : String
  otherNames : List String := []
  connect : Config → Except QueryError (Connection σ)

/-- The driver for the embedded store, given how the store is opened. -/
def Driver.embedded {σ : Type} (connect : Config → Except QueryError (Connection σ)) :
    Driver σ where
  name := Dialect.sqlite.name
  otherNames := ["sqlite3"]
  connect := connect

/-- Drivers by all of their names. -/
structure Registry (σ : Type) where
  drivers : OrderedMap (Driver σ) := .empty

namespace Registry

variable {σ : Type}

/-- Register a driver under all of its names. -/
def register (r : Registry σ) (driver : Driver σ) : Registry σ :=
  ⟨(driver.name :: driver.otherNames).foldl
    (fun drivers name => drivers.insert (Text.lowercase name) driver) r.drivers⟩

def get? (r : Registry σ) (name : String) : Option (Driver σ) :=
  r.drivers.get? (Text.lowercase name)

def contains (r : Registry σ) (name : String) : Bool :=
  (r.get? name).isSome

/-- All names, in alphabetical order. -/
def names (r : Registry σ) : List String :=
  r.drivers.keys.mergeSort fun a b => decide (a ≤ b)

/-- Open a connection with the driver that has a name. -/
def connect (r : Registry σ) (name : String) (config : Config) :
    Except QueryError (Connection σ) := do
  let driver ← orReject (r.get? name) (.unknownDriver name)
  driver.connect config

def display (r : Registry σ) : String :=
  "Registry \x7b drivers: [" ++ ", ".intercalate (r.names.map Text.quoted) ++ "] \x7d"

end Registry
end DocumentQuery
