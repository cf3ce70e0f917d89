import ChannelLedger.Wire.Key
import ChannelLedger.Wire.Schema

/-!
# Writing messages

Fields are written in the order of the schema. A scalar, text or byte string that equals its
default is left out; a message that is present is written even if it is empty, and so is every
element of a repeated field. A map entry is a small message of its own, whose key and value are
left out when they are empty.
-/
namespace ChannelLedger.Wire

/-- A varint field; zero is left out. -/
def writeWord (number : Nat) (word : UInt64) : Bytes :=
  if word = 0 then [] else Key.write number .varint ++ Varint.write word

/-- A delimited field. -/
def writeDelimited (number : Nat) (bytes : Bytes) : Bytes :=
  Key.write number .delimited ++ Varint.write (UInt64.ofNat bytes.length) ++ bytes

/-- A byte string field; the empty one is left out. -/
def writeBytes (number : Nat) (bytes : Bytes) : Bytes :=
  if bytes.isEmpty then [] else writeDelimited number bytes

/-- The entry of a map. -/
def writeEntry (number : Nat) (entry : String × Bytes) : Bytes :=
  writeDelimited number (writeBytes 1 (Bytes.ofText entry.1) ++ writeBytes 2 entry.2)

mutual

/-- A field under the given number. -/
def FieldType.write : (type : FieldType) → (number : Nat) → type.Value → Bytes
  | .int32, number, (value : Int32) => writeWord number value.toInt64.toUInt64
  | .int64, number, (value : Int64) => writeWord number value.toUInt64
  | .uint64, number, value => writeWord number value
  | .bool, number, (value : Bool) => writeWord number (if value then 1 else 0)
  | .string, number, value => writeBytes number (Bytes.ofText value)
  | .bytes, number, value => writeBytes number value
  | .repeatedBytes, number, values => (values : List Bytes).flatMap (writeDelimited number)
  | .map, number, (entries : ByteMap) => entries.entries.flatMap (writeEntry number)
  | .message _ fields, number, value =>
    match value with
    | none => []
    | some record => writeDelimited number (fields.write record)
  | .repeatedMessage _ fields, number, records =>
    (records : List fields.Record).flatMap fun record => writeDelimited number (fields.write record)

/-- All fields of a record. -/
def Fields.write : (fields : Fields) → fields.Record → Bytes
  | .nil, _ => []
  | .cons number _ type rest, (value, others) => type.write number value ++ rest.write others

end

/-- The encoding of a record. -/
def Schema.encode (schema : Schema) (record : schema.Record) : Bytes :=
  schema.fields.write record

end ChannelLedger.Wire
