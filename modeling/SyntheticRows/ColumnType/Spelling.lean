import SyntheticRows.ColumnType.Basic
/-!
The canonical spelling of each column type, as the database itself writes it.
-/

namespace SyntheticRows

def PlainType.spelling : PlainType → String
  | .smallInt => "smallint"
  | .integer => "integer"
  | .bigInt => "bigint"
  | .smallSerial => "smallserial"
  | .serial => "serial"
  | .bigSerial => "bigserial"
  | .real => "real"
  | .double => "double precision"
  | .money => "money"
  | .text => "text"
  | .boolean => "boolean"
  | .date => "date"
  | .bytea => "bytea"
  | .point => "point"
  | .line => "line"
  | .lineSegment => "lseg"
  | .box => "box"
  | .path => "path"
  | .polygon => "polygon"
  | .circle => "circle"
  | .inet => "inet"
  | .cidr => "cidr"
  | .macAddr => "macaddr"
  | .macAddr8 => "macaddr8"
  | .json => "json"
  | .jsonb => "jsonb"
  | .xml => "xml"
  | .uuid => "uuid"
  | .tsVector => "tsvector"
  | .tsQuery => "tsquery"
  | .pgLsn => "pg_lsn"
  | .pgSnapshot => "pg_snapshot"

namespace ColumnType

def withParameter (name : String) : Option UInt32 → String
  | none => name
  | some parameter => name ++ "(" ++ toString parameter ++ ")"

def zoneSpelling (withTimeZone : Bool) : String :=
  if withTimeZone then " with time zone" else " without time zone"

/-- A scale without a precision has no spelling of its own and is left out. -/
def spelling : ColumnType → String
  | plain type => type.spelling
  | numeric (some precision) (some scale) =>
      "numeric(" ++ toString precision ++ "," ++ toString scale ++ ")"
  | numeric precision none => withParameter "numeric" precision
  | numeric none (some _) => "numeric"
  | char length => withParameter "character" length
  | varChar maxLength => withParameter "character varying" maxLength
  | bit length => withParameter "bit" length
  | varBit maxLength => withParameter "bit varying" maxLength
  | time precision withTimeZone =>
      withParameter "time" precision ++ zoneSpelling withTimeZone
  | timestamp precision withTimeZone =>
      withParameter "timestamp" precision ++ zoneSpelling withTimeZone
  | interval precision => withParameter "interval" precision

end ColumnType

end SyntheticRows
