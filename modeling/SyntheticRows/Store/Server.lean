import SyntheticRows.Server.Basic
import SyntheticRows.Sql.Statement
import SyntheticRows.Store.Basic
/-!
The tables of a namespace on a server as a place for rows.
-/

namespace SyntheticRows

/-- What a refusal tells is about the row, and any other fault about the query. -/
def ServerFault.storeError : ServerFault → StoreError
  | refused message => .rejected message
  | failed reason => .query reason

namespace Server

variable {σ : Type}

/-- A row whose values do not match its columns is not sent. -/
def insertRow (server : Server σ) (namespaceName table : String) (columns : List ColumnBinding)
    (values : List String) (state : σ) (stream : RandomStream) : StoreReply σ Unit :=
  if columns.length ≠ values.length then
    { answer := .error (.rejected s!"{values.length} values for {columns.length} columns")
      store := state, stream, events := [] }
  else
    let (answer, state) := server.execute (Sql.insertStatement namespaceName table columns) values
      state
    { answer := answer.mapError ServerFault.storeError, store := state, stream, events := [] }

def sampleKey (server : Server σ) (namespaceName table column : String) (state : σ)
    (stream : RandomStream) : StoreReply σ (Option String) :=
  let (answer, state) := server.queryText (Sql.sampleStatement namespaceName table column) state
  { answer := answer.mapError ServerFault.storeError, store := state, stream
    events := [.sampling table column] }

def rowStore (server : Server σ) (namespaceName : String) : RowStore σ :=
  { insertRow := server.insertRow namespaceName, sampleKey := server.sampleKey namespaceName }

end Server

end SyntheticRows
