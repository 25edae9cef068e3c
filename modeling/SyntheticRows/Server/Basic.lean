import SyntheticRows.Catalog.Basic
/-!
What the library needs of a database server.
-/

namespace SyntheticRows

/-- Why there is no answer of a server. -/
inductive ServerFault where
  /-- The database refused with a message. -/
  | refused (message : String)
  /-- Anything else, such as a connection that is lost. -/
  | failed (reason : String)
  deriving DecidableEq, Repr

def ServerFault.message : ServerFault → String
  | refused message => "error returned from database: " ++ message
  | failed reason => reason

/-- The answer of a server, or why there is none, and the server behind it. -/
abbrev ServerReply (σ α : Type) : Type :=
  Except ServerFault α × σ

/-- A connected server whose state is a value of `σ`. It may answer whatever it likes. -/
structure Server (σ : Type) where
  databaseName : σ → ServerReply σ String
  /-- The tables of a namespace, with or without the partitioned ones. -/
  tableNames : (namespaceName : String) → (partitioned : Bool) → σ → ServerReply σ (List String)
  columns : (namespaceName table : String) → σ → ServerReply σ (List CatalogColumn)
  primaryKey : (namespaceName table : String) → σ → ServerReply σ (List String)
  foreignKeys : (namespaceName table : String) → σ → ServerReply σ (List CatalogForeignKey)
  /-- Runs a statement that changes data. -/
  execute : (statement : String) → (parameters : List String) → σ → ServerReply σ Unit
  /-- Runs a query for one text, which the first row holds if there is a row. -/
  queryText : (statement : String) → σ → ServerReply σ (Option String)

/-- Connects to the server that a text names, or tells why that is not possible. -/
abbrev Connector (σ : Type) : Type :=
  (connection : String) → σ → Except ServerFault (Server σ)

end SyntheticRows
