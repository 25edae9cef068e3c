/-!
The column types of a relational database, as far as the generation of values tells them apart.
A parameter that a declaration leaves out stays absent, so that `varchar` and `varchar(0)` differ.
-/

namespace SyntheticRows

/-- The column types that carry no parameter. -/
inductive PlainType where
  | smallInt | integer | bigInt
  | smallSerial | serial | bigSerial
  | real | double | money
  | text | boolean | date | bytea
  | point | line | lineSegment | box | path | polygon | circle
  | inet | cidr | macAddr | macAddr8
  | json | jsonb | xml | uuid
  | tsVector | tsQuery | pgLsn | pgSnapshot
  deriving DecidableEq, Repr

inductive ColumnType where
  | plain (type : PlainType)
  | numeric (precision scale : Option UInt32)
  | char (length : Option UInt32)
  | varChar (maxLength : Option UInt32)
  | bit (length : Option UInt32)
  | varBit (maxLength : Option UInt32)
  | time (precision : Option UInt32) (withTimeZone : Bool)
  | timestamp (precision : Option UInt32) (withTimeZone : Bool)
  | interval (precision : Option UInt32)
  deriving DecidableEq, Repr

namespace ColumnType

/-- A sequence of the database fills the column, and no insert names it. -/
def isAutoGenerated : ColumnType → Bool
  | plain .smallSerial | plain .serial | plain .bigSerial => true
  | _ => false

/-- The value is derived from other columns, for full-text search. -/
def isTextSearch : ColumnType → Bool
  | plain .tsVector | plain .tsQuery => true
  | _ => false

def isInsertable (type : ColumnType) : Bool :=
  !type.isAutoGenerated && !type.isTextSearch

/-- The sequence-backed variant of an integer type. -/
def asSerial : ColumnType → ColumnType
  | plain .smallInt => plain .smallSerial
  | plain .integer => plain .serial
  | plain .bigInt => plain .bigSerial
  | type => type

end ColumnType

end SyntheticRows
