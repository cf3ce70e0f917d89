import ChannelLedger.Bytes.Hex
import ChannelLedger.Json.Basic
import ChannelLedger.Wire.Schema

/-!
# Messages as JSON

A record shown with all its declared fields by name: byte strings as hexadecimal text, an absent
message as `null`, maps as objects.
-/
namespace ChannelLedger.Wire

mutual

/-- The value of a field as JSON. -/
def FieldType.toJson : (type : FieldType) → type.Value → Json
  | .int32, (value : Int32) => .int value.toInt
  | .int64, (value : Int64) => .int value.toInt
  | .uint64, (value : UInt64) => .nat value.toNat
  | .bool, (value : Bool) => .bool value
  | .string, (value : String) => .string value
  | .bytes, (value : Bytes) => .string value.toHex
  | .repeatedBytes, values => .array ((values : List Bytes).map fun bytes => .string bytes.toHex)
  | .map, (map : ByteMap) =>
    .object (map.entries.map fun (key, bytes) => (key, .string bytes.toHex))
  | .message _ fields, value =>
    match value with
    | none => .null
    | some record => .object (fields.toJsonFields record)
  | .repeatedMessage _ fields, records =>
    .array ((records : List fields.Record).map fun record => .object (fields.toJsonFields record))

/-- The fields of a record as the fields of a JSON object. -/
def Fields.toJsonFields : (fields : Fields) → fields.Record → List (String × Json)
  | .nil, _ => []
  | .cons _ name type rest, (value, others) => (name, type.toJson value) :: rest.toJsonFields others

end

/-- A record as a JSON object. -/
def Schema.toJson (schema : Schema) (record : schema.Record) : Json :=
  .object (schema.fields.toJsonFields record)

mutual

/-- Every map held anywhere inside the value of a field. -/
def FieldType.maps : (type : FieldType) → type.Value → List ByteMap
  | .map, (map : ByteMap) => [map]
  | .message _ fields, value =>
    match value with
    | none => []
    | some record => fields.maps record
  | .repeatedMessage _ fields, records =>
    (records : List fields.Record).flatMap fun record => fields.maps record
  | .int32, _ | .int64, _ | .uint64, _ | .bool, _ | .string, _ | .bytes, _
  | .repeatedBytes, _ => []

/-- Every map held anywhere inside a record. -/
def Fields.maps : (fields : Fields) → fields.Record → List ByteMap
  | .nil, _ => []
  | .cons _ _ type rest, (value, others) => type.maps value ++ rest.maps others

end

end ChannelLedger.Wire
