import SyntheticRows.Catalog.Table
import SyntheticRows.Discovery.Error
import SyntheticRows.Log.Event
import SyntheticRows.Server.Basic
/-!
Reading the tables of a namespace from a server. A table is mapped before the next one is read, so
that the first table that cannot be mapped ends the reading.
-/

namespace SyntheticRows

structure DiscoveryOptions where
  namespaceName : String
  /-- Partitioned tables are read like all others. -/
  partitioned : Bool
  deriving DecidableEq, Repr

def DiscoveryOptions.ofNamespace (namespaceName : String) : DiscoveryOptions :=
  { namespaceName, partitioned := true }

/-- A server that is being read, with what has been reported. -/
structure Reading (σ : Type) where
  server : σ
  events : Array Event

abbrev Discovery (σ α : Type) : Type :=
  ExceptT DiscoveryError (StateM (Reading σ)) α

namespace Discovery

variable {σ : Type}

def ask {α : Type} (question : σ → ServerReply σ α) : Discovery σ α := fun reading =>
  let (answer, server) := question reading.server
  (answer.mapError .server, { reading with server })

def report (event : Event) : Discovery σ Unit :=
  modify fun reading => { reading with events := reading.events.push event }

def catalogTable (server : Server σ) (namespaceName name : String) : Discovery σ CatalogTable := do
  let columns ← ask (server.columns namespaceName name)
  let primaryKey ← ask (server.primaryKey namespaceName name)
  let foreignKeys ← ask (server.foreignKeys namespaceName name)
  report (.tableDiscovered name columns.length foreignKeys.length)
  pure { name, columns, primaryKey, foreignKeys }

def table (server : Server σ) (namespaceName name : String) : Discovery σ Table := do
  let found ← catalogTable server namespaceName name
  liftM ((found.toTable namespaceName).mapError DiscoveryError.columnType)

/-- The tables keep the order in which the server names them. -/
def schema (server : Server σ) (options : DiscoveryOptions) : Discovery σ Schema := do
  let database ← ask server.databaseName
  let names ← ask (server.tableNames options.namespaceName options.partitioned)
  let tables ← names.mapM (table server options.namespaceName)
  report (.schemaDiscovered database options.namespaceName tables.length)
  pure {
    engine := "postgres"
    database := some database
    namespaceName := options.namespaceName
    tables }

end Discovery

/-- The schema of a namespace, the server behind it and what was reported. -/
def discover {σ : Type} (server : Server σ) (options : DiscoveryOptions) (state : σ) :
    Except DiscoveryError Schema × Reading σ :=
  Discovery.schema server options { server := state, events := #[] }

end SyntheticRows
