import SyntheticRows.Log.Event
import SyntheticRows.Random.Stream
import SyntheticRows.Store.Error
/-!
What the filling of tables needs of the place where rows go.
-/

namespace SyntheticRows

/-- A column as an insert names it. -/
structure ColumnBinding where
  name : String
  /-- The declared type, to which the text of a value is cast. -/
  sqlType : String
  deriving DecidableEq, Repr

/-- The answer of a store, with the store and the random stream behind it. -/
structure StoreReply (σ α : Type) where
  answer : Except StoreError α
  store : σ
  stream : RandomStream
  events : List StoreEvent

/-- A place for rows whose state is a value of `σ`. Both operations may answer whatever they like
and may draw from the random stream. -/
structure RowStore (σ : Type) where
  /-- Inserts one row; the values stand in the order of the columns. -/
  insertRow : (table : String) → List ColumnBinding → (values : List String) → σ → RandomStream →
    StoreReply σ Unit
  /-- One of the values that a column holds, if it holds any. -/
  sampleKey : (table column : String) → σ → RandomStream → StoreReply σ (Option String)

end SyntheticRows
