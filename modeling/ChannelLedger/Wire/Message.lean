import ChannelLedger.Wire.Read
import ChannelLedger.Wire.Write

/-!
# Message types

A structure whose values are the records of a schema. The two readings are inverse to each other,
so what is proved of records holds of the structure.
-/
namespace ChannelLedger.Wire

/-- A type of messages, with its schema. -/
class Message (α : Type) where
  schema : Schema
  ofRecord : schema.Record → α
  toRecord : α → schema.Record
  ofRecord_toRecord : ∀ a, ofRecord (toRecord a) = a := by intro a; cases a; rfl
  toRecord_ofRecord : ∀ r, toRecord (ofRecord r) = r := by intro r; rfl

namespace Message

attribute [simp] ofRecord_toRecord toRecord_ofRecord

variable {α : Type} [Message α]

/-- The message that a byte string encodes. -/
def decode (input : Bytes) : Except Fault α :=
  ((schema α).decode input).map ofRecord

/-- The encoding of a message. -/
def encode (a : α) : Bytes :=
  (schema α).encode (toRecord a)

/-! ## Messages inside messages -/

/-- A message that may be absent. -/
def ofOptional (value : (schema α).optional.Value) : Option α :=
  Option.map ofRecord value

def toOptional (value : Option α) : (schema α).optional.Value :=
  Option.map toRecord value

/-- Any number of messages. -/
def ofRepeated (values : (schema α).repeated.Value) : List α :=
  List.map ofRecord values

def toRepeated (values : List α) : (schema α).repeated.Value :=
  List.map toRecord values

@[simp] theorem ofOptional_toOptional (a : Option α) : ofOptional (toOptional a) = a := by
  cases a <;> simp [ofOptional, toOptional]

@[simp] theorem toOptional_ofOptional (r : (schema α).optional.Value) :
    toOptional (α := α) (ofOptional r) = r := by
  change Option (schema α).Record at r
  cases r with
  | none => rfl
  | some r => exact congrArg some (toRecord_ofRecord (α := α) r)

@[simp] theorem ofRepeated_toRepeated (as : List α) : ofRepeated (toRepeated as) = as := by
  induction as <;> simp_all [ofRepeated, toRepeated]

@[simp] theorem toRepeated_ofRepeated (rs : (schema α).repeated.Value) :
    toRepeated (α := α) (ofRepeated rs) = rs := by
  change List (schema α).Record at rs
  simp only [toRepeated, ofRepeated, List.map_map]
  exact (List.map_congr_left fun r _ => toRecord_ofRecord (α := α) r).trans (List.map_id' _)

end Message

end ChannelLedger.Wire
