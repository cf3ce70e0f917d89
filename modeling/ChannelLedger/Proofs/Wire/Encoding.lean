import ChannelLedger.Message.Catalogue
import ChannelLedger.Proofs.Wire.Varint

/-!
# The encodings of a message

A map has no order, so a writer may put its entries in any order and a message has more than one
encoding. `Fields.Encodes` says which byte strings these are; the writer's own is one of them
(`Message.encodes_encode`).

Not every schema can be read back: the numbers of its fields must be told apart and written in a
key, and its messages and maps must nest no deeper than the reader follows. This is `Fields.fits`,
and every message type fits (`fits_schemas`).
-/
namespace ChannelLedger.Wire

/-! ## Encodings -/

mutual

/-- The byte strings that a value is written as under a field number. -/
def FieldType.Encodes : (type : FieldType) → (number : Nat) → type.Value → Bytes → Prop
  | .int32, number, value, bytes => bytes = FieldType.int32.write number value
  | .int64, number, value, bytes => bytes = FieldType.int64.write number value
  | .uint64, number, value, bytes => bytes = FieldType.uint64.write number value
  | .bool, number, value, bytes => bytes = FieldType.bool.write number value
  | .string, number, value, bytes => bytes = FieldType.string.write number value
  | .bytes, number, value, bytes => bytes = FieldType.bytes.write number value
  | .repeatedBytes, number, value, bytes => bytes = FieldType.repeatedBytes.write number value
  | .map, number, (map : ByteMap), bytes =>
    ∃ entries : List (String × Bytes), entries.Perm map.entries
      ∧ bytes = entries.flatMap (writeEntry number)
  | .message _ fields, number, value, bytes =>
    match value with
    | none => bytes = []
    | some record => ∃ body, fields.Encodes record body ∧ bytes = writeDelimited number body
  | .repeatedMessage _ fields, number, records, bytes =>
    ∃ bodies : List Bytes,
      List.Forall₂ (fun record body => fields.Encodes record body)
        (records : List fields.Record) bodies
      ∧ bytes = bodies.flatMap (writeDelimited number)

/-- The byte strings that a record is written as. -/
def Fields.Encodes : (fields : Fields) → fields.Record → Bytes → Prop
  | .nil, _, bytes => bytes = []
  | .cons number _ type rest, (value, others), bytes =>
    ∃ front back, type.Encodes number value front ∧ rest.Encodes others back
      ∧ bytes = front ++ back

end

mutual

theorem FieldType.encodes_write : (type : FieldType) → (number : Nat) → (value : type.Value) →
    type.Encodes number value (type.write number value)
  | .int32, _, _ | .int64, _, _ | .uint64, _, _ | .bool, _, _ | .string, _, _ | .bytes, _, _
  | .repeatedBytes, _, _ => by
    unfold FieldType.Encodes
    rfl
  | .map, number, value => by
    unfold FieldType.Encodes FieldType.write
    exact ⟨_, .refl _, rfl⟩
  | .message _ fields, number, none => by
    unfold FieldType.Encodes FieldType.write
    rfl
  | .message _ fields, number, some record => by
    unfold FieldType.Encodes FieldType.write
    exact ⟨_, Fields.encodes_write fields record, rfl⟩
  | .repeatedMessage _ fields, number, records => by
    unfold FieldType.Encodes FieldType.write
    refine ⟨(records : List fields.Record).map fields.write, ?_, ?_⟩
    · rw [List.forall₂_map_right_iff]
      exact List.forall₂_same.2 fun record _ => Fields.encodes_write fields record
    · rw [List.flatMap_map]

/-- The writer's choice is an encoding. -/
theorem Fields.encodes_write : (fields : Fields) → (record : fields.Record) →
    fields.Encodes record (fields.write record)
  | .nil, _ => by
    unfold Fields.Encodes Fields.write
    rfl
  | .cons number _ type rest, (value, others) => by
    unfold Fields.Encodes Fields.write
    exact ⟨_, _, FieldType.encodes_write type number value, Fields.encodes_write rest others, rfl⟩

end

namespace Message

variable {α : Type} [Message α]

/-- The encodings of a message. Their length is a 64-bit number, as the lengths inside are. -/
def Encodes (a : α) (bytes : Bytes) : Prop :=
  (schema α).fields.Encodes (toRecord a) bytes ∧ bytes.length < 2 ^ 64

theorem encodes_encode (a : α) (h : (encode a).length < 2 ^ 64) : Encodes a (encode a) :=
  ⟨Fields.encodes_write _ _, h⟩

end Message

/-! ## Schemas that can be read back -/

/-- The numbers of the fields. -/
def Fields.numbers : Fields → List Nat
  | .nil => []
  | .cons number _ _ rest => number :: rest.numbers

mutual

/-- Values of the field nest no deeper than a budget allows. -/
def FieldType.fits : FieldType → (budget : Nat) → Bool
  | .map, budget => 0 < budget
  | .message _ fields, budget | .repeatedMessage _ fields, budget =>
    match budget with
    | 0 => false
    | budget + 1 => fields.fits budget
  | _, _ => true

/-- The fields have numbers that a key can carry, each its own, and their values nest no deeper
than a budget allows. -/
def Fields.fits : Fields → (budget : Nat) → Bool
  | .nil, _ => true
  | .cons number _ type rest, budget =>
    decide (Key.IsNumber number) && !rest.numbers.contains number && type.fits budget
      && rest.fits budget

end

theorem FieldType.fits_map {budget : Nat} (h : FieldType.map.fits budget = true) :
    ∃ left, budget = left + 1 := by
  unfold FieldType.fits at h
  cases budget with
  | zero => exact absurd h (by decide)
  | succ left => exact ⟨left, rfl⟩

theorem FieldType.fits_message {name : String} {fields : Fields} {budget : Nat}
    (h : (FieldType.message name fields).fits budget = true) :
    ∃ left, budget = left + 1 ∧ fields.fits left = true := by
  unfold FieldType.fits at h
  cases budget with
  | zero => exact absurd h Bool.false_ne_true
  | succ left => exact ⟨left, rfl, h⟩

theorem FieldType.fits_repeatedMessage {name : String} {fields : Fields} {budget : Nat}
    (h : (FieldType.repeatedMessage name fields).fits budget = true) :
    ∃ left, budget = left + 1 ∧ fields.fits left = true := by
  unfold FieldType.fits at h
  cases budget with
  | zero => exact absurd h Bool.false_ne_true
  | succ left => exact ⟨left, rfl, h⟩

theorem Fields.fits_cons {number budget : Nat} {name : String} {type : FieldType} {rest : Fields}
    (h : (Fields.cons number name type rest).fits budget = true) :
    Key.IsNumber number ∧ number ∉ rest.numbers ∧ type.fits budget = true
      ∧ rest.fits budget = true := by
  unfold Fields.fits at h
  simpa [and_assoc] using h

/-- **Every message type can be read back.** -/
theorem fits_schemas : ∀ schema ∈ schemas, schema.fields.fits maxNesting = true := by
  decide

end ChannelLedger.Wire
