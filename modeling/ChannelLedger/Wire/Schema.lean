import ChannelLedger.Wire.ByteMap

/-!
# Schemas and their records

A message type is described by a schema: its name and its fields, each with a number, a name and a
type. A schema says what a value of the message is, so `Record` computes the type of those values
from it: one component for each declared field, in order. Everything else about the wire format
(reading, writing, merging, showing) is then one definition by recursion on the schema, for all
message types at once.
-/
namespace ChannelLedger.Wire

mutual

/-- What a field holds. -/
inductive FieldType where
  | int32
  | int64
  | uint64
  | bool
  | string
  | bytes
  /-- Any number of byte strings. -/
  | repeatedBytes
  /-- A map from text to bytes. -/
  | map
  /-- A message that may be absent. -/
  | message (name : String) (fields : Fields)
  /-- Any number of messages. -/
  | repeatedMessage (name : String) (fields : Fields)

/-- The fields of a message. -/
inductive Fields where
  | nil
  | cons (number : Nat) (name : String) (type : FieldType) (rest : Fields)

end

/-- A message type. -/
structure Schema where
  name : String
  fields : Fields

mutual

/-- The values of a field. -/
@[reducible] def FieldType.Value : FieldType → Type
  | .int32 => Int32
  | .int64 => Int64
  | .uint64 => UInt64
  | .bool => Bool
  | .string => String
  | .bytes => Bytes
  | .repeatedBytes => List Bytes
  | .map => ByteMap
  | .message _ fields => Option fields.Record
  | .repeatedMessage _ fields => List fields.Record

/-- The values of a message: one component for each field. -/
@[reducible] def Fields.Record : Fields → Type
  | .nil => Unit
  | .cons _ _ type rest => type.Value × rest.Record

end

mutual

/-- What a field holds when the bytes do not mention it. -/
def FieldType.default : (type : FieldType) → type.Value
  | .int32 => (0 : Int32)
  | .int64 => (0 : Int64)
  | .uint64 => (0 : UInt64)
  | .bool => false
  | .string => ""
  | .bytes => []
  | .repeatedBytes => []
  | .map => ByteMap.empty
  | .message _ _ => none
  | .repeatedMessage _ _ => []

/-- The message that the empty byte string encodes. -/
def Fields.default : (fields : Fields) → fields.Record
  | .nil => ()
  | .cons _ _ type rest => (type.default, rest.default)

end

/-- The values of a message type. -/
@[reducible] def Schema.Record (schema : Schema) : Type :=
  schema.fields.Record

/-- A schema from its name and the list of its fields. -/
def Schema.of (name : String) (fields : List (Nat × String × FieldType)) : Schema :=
  ⟨name, fields.foldr (fun (number, name, type) rest => .cons number name type rest) .nil⟩

/-- A field that holds a message of the given type, or nothing. -/
def Schema.optional (schema : Schema) : FieldType :=
  .message schema.name schema.fields

/-- A field that holds any number of messages of the given type. -/
def Schema.repeated (schema : Schema) : FieldType :=
  .repeatedMessage schema.name schema.fields

end ChannelLedger.Wire
