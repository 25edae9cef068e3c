import SyntheticRows.Json.Record
import SyntheticRows.NameMap
import SyntheticRows.Server.Basic
import SyntheticRows.Sql.Query
import SyntheticRows.Text.Numeral
/-!
A server that answers from a script and records the statements that it is sent. The script holds the
messages with which the database refuses. A statement of a kind that is always refused takes nothing
from the script.
-/

namespace SyntheticRows

inductive StatementKind where
  | database
  | tables
  | columns
  | primaryKey
  | foreignKeys
  | insert
  | sample
  deriving DecidableEq, Repr

inductive Parameter where
  | text (value : String)
  | flag (value : Bool)
  deriving DecidableEq, Repr

structure SentStatement where
  kind : StatementKind
  text : String
  parameters : List Parameter
  deriving DecidableEq, Repr

structure ServerScript where
  database : String
  tables : List String
  columns : NameMap (List CatalogColumn)
  primaryKeys : NameMap (List String)
  foreignKeys : NameMap (List CatalogForeignKey)
  /-- The answers to samples in turn; after them there is no row. -/
  samples : List (Except String (Option String))
  /-- The inserts that are refused, by their number from one on. -/
  insertErrors : List (Nat × String)
  /-- The kinds of statements that are always refused. -/
  errors : List (StatementKind × String)
  /-- The message with which a connection is refused. -/
  refusal : Option String

/-- The script of a server that holds nothing and refuses nothing. -/
def ServerScript.empty : ServerScript :=
  { database := "", tables := [], columns := .empty, primaryKeys := .empty, foreignKeys := .empty,
    samples := [], insertErrors := [], errors := [], refusal := none }

/-- A scripted server with what is left of its samples and what it has been sent. -/
structure ScriptedServer where
  script : ServerScript
  samples : List (Except String (Option String))
  inserts : Nat
  statements : Array SentStatement

namespace ScriptedServer

def start (script : ServerScript) : ScriptedServer :=
  { script, samples := script.samples, inserts := 0, statements := #[] }

def record (server : ScriptedServer) (kind : StatementKind) (text : String)
    (parameters : List Parameter) : ScriptedServer :=
  { server with statements := server.statements.push { kind, text, parameters } }

/-- Records a statement and answers it unless its kind is refused. -/
def answer {α : Type} (kind : StatementKind) (text : String) (parameters : List Parameter)
    (reply : ScriptedServer → ServerReply ScriptedServer α) (server : ScriptedServer) :
    ServerReply ScriptedServer α :=
  let server := server.record kind text parameters
  match server.script.errors.lookup kind with
  | some message => (.error (.refused message), server)
  | none => reply server

/-- An answer that the script holds for each table. -/
def tableAnswer {α : Type} (kind : StatementKind) (text : String)
    (answers : ServerScript → NameMap (List α)) (namespaceName table : String) :
    ScriptedServer → ServerReply ScriptedServer (List α) :=
  answer kind text [.text namespaceName, .text table] fun server =>
    (.ok (((answers server.script).get? table).getD []), server)

def insert (server : ScriptedServer) : ServerReply ScriptedServer Unit :=
  let number := server.inserts + 1
  let counted := { server with inserts := number }
  match server.script.insertErrors.lookup number with
  | some message => (.error (.refused message), counted)
  | none => (.ok (), counted)

def sample (server : ScriptedServer) : ServerReply ScriptedServer (Option String) :=
  match server.samples with
  | [] => (.ok none, server)
  | reply :: samples => (reply.mapError .refused, { server with samples })

def connection : Server ScriptedServer :=
  { databaseName := answer .database Sql.databaseName [] fun server =>
      (.ok server.script.database, server)
    tableNames := fun namespaceName partitioned =>
      answer .tables Sql.tableNames [.text namespaceName, .flag partitioned] fun server =>
        (.ok server.script.tables, server)
    columns := tableAnswer .columns Sql.columns (·.columns)
    primaryKey := tableAnswer .primaryKey Sql.primaryKey (·.primaryKeys)
    foreignKeys := tableAnswer .foreignKeys Sql.foreignKeys (·.foreignKeys)
    execute := fun statement parameters =>
      answer .insert statement (parameters.map .text) insert
    queryText := fun statement => answer .sample statement [] sample }

/-- Any connection text leads to the script. -/
def connect : Connector ScriptedServer := fun _ server =>
  match server.script.refusal with
  | some message => .error (.refused message)
  | none => .ok connection

end ScriptedServer

end SyntheticRows
