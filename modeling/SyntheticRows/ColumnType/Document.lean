import SyntheticRows.ColumnType.Basic
import SyntheticRows.Json.Record
/-!
Column types as documents: an object whose field `kind` names the type, beside its parameters.
-/

namespace SyntheticRows

def PlainType.kind : PlainType → String
  | .smallInt => "small_int"
  | .integer => "integer"
  | .bigInt => "big_int"
  | .smallSerial => "small_serial"
  | .serial => "serial"
  | .bigSerial => "big_serial"
  | .real => "real"
  | .double => "double"
  | .money => "money"
  | .text => "text"
  | .boolean => "boolean"
  | .date => "date"
  | .bytea => "bytea"
  | .point => "point"
  | .line => "line"
  | .lineSegment => "line_segment"
  | .box => "box"
  | .path => "path"
  | .polygon => "polygon"
  | .circle => "circle"
  | .inet => "inet"
  | .cidr => "cidr"
  | .macAddr => "mac_addr"
  | .macAddr8 => "mac_addr8"
  | .json => "json"
  | .jsonb => "jsonb"
  | .xml => "xml"
  | .uuid => "uuid"
  | .tsVector => "ts_vector"
  | .tsQuery => "ts_query"
  | .pgLsn => "pg_lsn"
  | .pgSnapshot => "pg_snapshot"

def PlainType.all : List PlainType :=
  [.smallInt, .integer, .bigInt, .smallSerial, .serial, .bigSerial, .real, .double, .money, .text,
    .boolean, .date, .bytea, .point, .line, .lineSegment, .box, .path, .polygon, .circle, .inet,
    .cidr, .macAddr, .macAddr8, .json, .jsonb, .xml, .uuid, .tsVector, .tsQuery, .pgLsn, .pgSnapshot]

def PlainType.ofKind? (kind : String) : Option PlainType :=
  PlainType.all.find? fun type => type.kind == kind

namespace ColumnType

open Json

def parameterDocument (parameter : Option UInt32) : Json :=
  optional (fun value => natural value.toNat) parameter

def toDocument : ColumnType → Json
  | plain type => object [("kind", string type.kind)]
  | numeric precision scale =>
      object [("kind", string "numeric"), ("precision", parameterDocument precision),
        ("scale", parameterDocument scale)]
  | char length =>
      object [("kind", string "char"), ("length", parameterDocument length)]
  | varChar maxLength =>
      object [("kind", string "var_char"), ("max_length", parameterDocument maxLength)]
  | bit length =>
      object [("kind", string "bit"), ("length", parameterDocument length)]
  | varBit maxLength =>
      object [("kind", string "var_bit"), ("max_length", parameterDocument maxLength)]
  | time precision withTimeZone =>
      object [("kind", string "time"), ("precision", parameterDocument precision),
        ("with_time_zone", bool withTimeZone)]
  | timestamp precision withTimeZone =>
      object [("kind", string "timestamp"), ("precision", parameterDocument precision),
        ("with_time_zone", bool withTimeZone)]
  | interval precision =>
      object [("kind", string "interval"), ("precision", parameterDocument precision)]

/-- The kind of a document and what holds the parameters of that kind. -/
def kindOf? : Json → Option (String × Json)
  | array (kind :: parameters) => do
      let kind ← kind.string?
      some (kind, array parameters)
  | value => do
      match ← objectRecord? [["kind"]] value with
      | [some kind] => do
          let kind ← kind.string?
          some (kind, value)
      | _ => none

/-- Kinds without parameters refuse items, but not named fields. -/
def noParameters? : Json → Option Unit
  | array items => if items.isEmpty then some () else none
  | _ => some ()

def onlyParameter? (name : String) (parameters : Json) : Option (Option UInt32) := do
  match ← record? [[name]] 1 parameters with
  | [parameter] => nullable? unsigned32? parameter
  | _ => none

def zonedParameters? (parameters : Json) : Option (Option UInt32 × Bool) := do
  match ← record? [["precision"], ["with_time_zone"]] 2 parameters with
  | [precision, some withTimeZone] => do
      let precision ← nullable? unsigned32? precision
      let withTimeZone ← withTimeZone.bool?
      some (precision, withTimeZone)
  | _ => none

def numericParameters? (parameters : Json) : Option (Option UInt32 × Option UInt32) := do
  match ← record? [["precision"], ["scale"]] 2 parameters with
  | [precision, scale] => do
      let precision ← nullable? unsigned32? precision
      let scale ← nullable? unsigned32? scale
      some (precision, scale)
  | _ => none

def ofDocument? (value : Json) : Option ColumnType := do
  let (kind, parameters) ← kindOf? value
  match PlainType.ofKind? kind with
  | some type => do
      noParameters? parameters
      some (plain type)
  | none =>
      if kind == "numeric" then do
        let (precision, scale) ← numericParameters? parameters
        some (numeric precision scale)
      else if kind == "char" then char <$> onlyParameter? "length" parameters
      else if kind == "var_char" then varChar <$> onlyParameter? "max_length" parameters
      else if kind == "bit" then bit <$> onlyParameter? "length" parameters
      else if kind == "var_bit" then varBit <$> onlyParameter? "max_length" parameters
      else if kind == "time" then do
        let (precision, withTimeZone) ← zonedParameters? parameters
        some (time precision withTimeZone)
      else if kind == "timestamp" then do
        let (precision, withTimeZone) ← zonedParameters? parameters
        some (timestamp precision withTimeZone)
      else if kind == "interval" then interval <$> onlyParameter? "precision" parameters
      else none

end ColumnType

end SyntheticRows
