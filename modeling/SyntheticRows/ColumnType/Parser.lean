import SyntheticRows.ColumnType.Basic
import SyntheticRows.ColumnType.Declaration
/-!
The column type that a declaration denotes. Each name of the catalog belongs to one head, which
decides what parameters and qualifier may follow.
-/

namespace SyntheticRows

open Text

/-- What a type name stands for before its parameters are known. -/
inductive TypeHead where
  | plain (type : PlainType)
  | numeric
  | char
  | varChar
  | bit
  | varBit
  | time
  | timeZoned
  | timestamp
  | timestampZoned
  | interval
  deriving DecidableEq, Repr

namespace TypeHead

def aliases : List (String × TypeHead) := [
  ("smallint", plain .smallInt), ("int2", plain .smallInt),
  ("integer", plain .integer), ("int", plain .integer), ("int4", plain .integer),
  ("bigint", plain .bigInt), ("int8", plain .bigInt),
  ("smallserial", plain .smallSerial), ("serial2", plain .smallSerial),
  ("serial", plain .serial), ("serial4", plain .serial),
  ("bigserial", plain .bigSerial), ("serial8", plain .bigSerial),
  ("real", plain .real), ("float4", plain .real),
  ("float8", plain .double),
  ("numeric", numeric), ("decimal", numeric),
  ("money", plain .money),
  ("char", char), ("character", char), ("bpchar", char),
  ("varchar", varChar),
  ("text", plain .text),
  ("bit", bit), ("varbit", varBit),
  ("boolean", plain .boolean), ("bool", plain .boolean),
  ("date", plain .date),
  ("time", time), ("timetz", timeZoned),
  ("timestamp", timestamp), ("timestamptz", timestampZoned),
  ("interval", interval),
  ("bytea", plain .bytea),
  ("point", plain .point), ("line", plain .line), ("lseg", plain .lineSegment),
  ("box", plain .box), ("path", plain .path), ("polygon", plain .polygon),
  ("circle", plain .circle),
  ("inet", plain .inet), ("cidr", plain .cidr),
  ("macaddr", plain .macAddr), ("macaddr8", plain .macAddr8),
  ("json", plain .json), ("jsonb", plain .jsonb), ("xml", plain .xml), ("uuid", plain .uuid),
  ("tsvector", plain .tsVector), ("tsquery", plain .tsQuery),
  ("pg_lsn", plain .pgLsn),
  ("pg_snapshot", plain .pgSnapshot), ("txid_snapshot", plain .pgSnapshot)]

def ofName? (name : List Char) : Option TypeHead :=
  (aliases.find? fun entry => entry.1.toList == name).map (·.2)

end TypeHead

namespace Declaration

def refuseQualifier (declaration : Declaration) : Except DeclarationFault Unit :=
  match declaration.qualifier with
  | none => .ok ()
  | some qualifier =>
      .error (.refusesQualifier (String.ofList declaration.name) (String.ofList qualifier))

def refuseParameters (declaration : Declaration) : Except DeclarationFault Unit :=
  match declaration.first with
  | none => .ok ()
  | some _ => .error (.takesNoParameters (String.ofList declaration.name))

/-- The parameter of a type that takes at most one. -/
def onlyParameter (declaration : Declaration) : Except DeclarationFault (Option UInt32) :=
  match declaration.second with
  | none => .ok declaration.first
  | some _ => .error (.takesOneParameter (String.ofList declaration.name))

/-- The parameter of a type that takes at most one and no qualifier. -/
def unqualifiedParameter (declaration : Declaration) :
    Except DeclarationFault (Option UInt32) := do
  declaration.refuseQualifier
  declaration.onlyParameter

/-- Whether the qualifier asks for a time zone. -/
def timeZone (declaration : Declaration) : Except DeclarationFault Bool :=
  match declaration.qualifier with
  | none => .ok false
  | some qualifier =>
      if qualifier == "without time zone".toList then .ok false
      else if qualifier == "with time zone".toList then .ok true
      else .error (.unknownQualifier (String.ofList qualifier))

def intervalFields : List String :=
  ["year", "month", "day", "hour", "minute", "second", "to"]

def isIntervalField (word : List Char) : Bool :=
  intervalFields.any fun field => field.toList == word

def checkIntervalFields (declaration : Declaration) : Except DeclarationFault Unit :=
  match declaration.qualifier with
  | none => .ok ()
  | some fields =>
      if (splitAtEach ' ' fields).all isIntervalField then .ok ()
      else .error (.unknownIntervalFields (String.ofList fields))

/-- The type that a declaration with a known name denotes. -/
def typeOf (declaration : Declaration) : TypeHead → Except DeclarationFault ColumnType
  | .plain type => do
      declaration.refuseParameters
      declaration.refuseQualifier
      pure (.plain type)
  | .numeric => do
      declaration.refuseQualifier
      pure (.numeric declaration.first declaration.second)
  | .char => ColumnType.char <$> declaration.unqualifiedParameter
  | .varChar => ColumnType.varChar <$> declaration.unqualifiedParameter
  | .bit => ColumnType.bit <$> declaration.unqualifiedParameter
  | .varBit => ColumnType.varBit <$> declaration.unqualifiedParameter
  | .time => do
      let precision ← declaration.onlyParameter
      let withTimeZone ← declaration.timeZone
      pure (.time precision withTimeZone)
  | .timeZoned => (ColumnType.time · true) <$> declaration.unqualifiedParameter
  | .timestamp => do
      let precision ← declaration.onlyParameter
      let withTimeZone ← declaration.timeZone
      pure (.timestamp precision withTimeZone)
  | .timestampZoned => (ColumnType.timestamp · true) <$> declaration.unqualifiedParameter
  | .interval => do
      declaration.checkIntervalFields
      ColumnType.interval <$> declaration.onlyParameter

end Declaration

namespace ColumnType

/-- The type that a normalized declaration denotes; `raw` is quoted in errors. -/
def ofNormalized (raw : String) (text : List Char) : Except ColumnTypeError ColumnType :=
  match Declaration.ofNormalized text with
  | .error fault => .error (.malformed raw fault)
  | .ok declaration =>
      match TypeHead.ofName? declaration.name with
      | none => .error (.unknown raw (String.ofList declaration.name))
      | some head =>
          match declaration.typeOf head with
          | .error fault => .error (.malformed raw fault)
          | .ok type => .ok type

/-- Reads a declaration such as `numeric(10,2)` or `timestamp(3) with time zone`. -/
def parse (raw : String) : Except ColumnTypeError ColumnType :=
  ofNormalized raw (Declaration.normalize raw.toList)

end ColumnType

end SyntheticRows
