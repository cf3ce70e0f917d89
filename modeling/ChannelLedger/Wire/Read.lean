import ChannelLedger.Text.Utf8
import ChannelLedger.Wire.Key
import ChannelLedger.Wire.Schema

/-!
# Reading messages

A message is read field by field until its bytes end. Every declared field is merged into the
record read so far: a later scalar replaces an earlier one, messages merge field by field,
repeated fields grow, and map entries replace entries of the same key. Fields that the schema does
not declare are skipped.

Two rules decide what malformed bytes are reported as. A length is compared with what is left of
the *whole* input, and only after the last field of a nested message has been read is it asked
whether the fields ended where the message does. And nesting costs: a budget, one less for each
message, map entry or skipped group entered, must be left for whatever nests or is skipped.

Readers take the bytes that are left and answer with what they read and the bytes after that.
-/
namespace ChannelLedger.Wire

/-- The nesting budget of a whole message. -/
def maxNesting : Nat := 100

/-- Repeats a reader while more than `stop` bytes are left. A step that reads at least one byte
makes the length of the input fuel enough. -/
def readWhile {ε σ : Type} (step : σ → Bytes → Except ε (σ × Bytes)) (stop : Nat) :
    (fuel : Nat) → σ → Bytes → Except ε (σ × Bytes)
  | 0, state, input => .ok (state, input)
  | fuel + 1, state, input =>
    if input.length ≤ stop then .ok (state, input)
    else do
      let (state, input) ← step state input
      readWhile step stop fuel state input

/-- Reads a length and then, by repeated steps, a part of exactly that many bytes. -/
def readDelimited {σ : Type} (step : σ → Bytes → Except Fault (σ × Bytes)) (state : σ)
    (input : Bytes) : Except Fault (σ × Bytes) := do
  let (length, input) ← (Varint.read input).mapError .ofCause
  if input.length < length.toNat then throw (.ofCause .underflow)
  let stop := input.length - length.toNat
  let (state, input) ← readWhile step stop input.length state input
  if input.length < stop then throw (.ofCause .overrun)
  return (state, input)

/-- Leaves out the next `count` bytes. -/
def skipBytes (count : Nat) (input : Bytes) : Except Cause Bytes :=
  if input.length < count then .error .underflow else .ok (input.drop count)

/-- Leaves out the fields of a group up to the end of group `number`, each by `skip`. -/
def skipGroup (skip : Key → Bytes → Except Cause Bytes) (number : Nat) :
    (fuel : Nat) → Bytes → Except Cause Bytes
  | 0, _ => .error .varint
  | fuel + 1, input => do
    let (key, input) ← Key.read input
    if key.wireType = .endGroup then
      if key.number = number then return input else throw .endGroup
    else skipGroup skip number fuel (← skip key input)

/-- Leaves out a field whose key has been read. -/
def skipField (budget : Nat) (key : Key) (input : Bytes) : Except Cause Bytes :=
  match budget with
  | 0 => .error .nesting
  | budget + 1 =>
    match key.wireType with
    | .varint => (Varint.read input).map (·.2)
    | .fixed64 => skipBytes 8 input
    | .fixed32 => skipBytes 4 input
    | .delimited => do
      let (length, input) ← Varint.read input
      skipBytes length.toNat input
    | .startGroup => skipGroup (skipField budget) key.number (input.length + 1) input
    | .endGroup => .error .endGroup

/-- Demands the layout that a field is written in. -/
def expect (actual expected : WireType) : Except Fault Unit :=
  if actual = expected then .ok () else .error (.ofCause (.layout actual expected))

/-- Reads a varint field. -/
def readWord (wireType : WireType) (input : Bytes) : Except Fault (UInt64 × Bytes) := do
  expect wireType .varint
  (Varint.read input).mapError .ofCause

/-- Reads a byte string field. -/
def readBytes (wireType : WireType) (input : Bytes) : Except Fault (Bytes × Bytes) := do
  expect wireType .delimited
  let (length, input) ← (Varint.read input).mapError .ofCause
  if input.length < length.toNat then throw (.ofCause .underflow)
  return (input.take length.toNat, input.drop length.toNat)

/-- Reads a string field. -/
def readText (wireType : WireType) (input : Bytes) : Except Fault (String × Bytes) := do
  let (bytes, input) ← readBytes wireType input
  match Utf8.decode? bytes with
  | some text => return (text, input)
  | none => throw (.ofCause .text)

/-- Reads a key and goes on with the field behind it. -/
def readKeyed {α : Type} (field : Key → Bytes → Except Fault α) (input : Bytes) :
    Except Fault α := do
  let (key, input) ← (Key.read input).mapError .ofCause
  field key input

/-- Reads the field of a map entry whose key has been read: the entry's key is field 1 and its
value field 2. -/
def readEntryField (budget : Nat) (entry : String × Bytes) (key : Key) (input : Bytes) :
    Except Fault ((String × Bytes) × Bytes) := do
  match key.number with
  | 1 =>
    let (text, input) ← readText key.wireType input
    return ((text, entry.2), input)
  | 2 =>
    let (bytes, input) ← readBytes key.wireType input
    return ((entry.1, bytes), input)
  | _ =>
    let input ← (skipField budget key input).mapError .ofCause
    return (entry, input)

mutual

/-- Reads a field whose key has been read and merges it into the value so far. -/
def FieldType.read : (type : FieldType) → (budget : Nat) → WireType → type.Value → Bytes →
    Except Fault (type.Value × Bytes)
  | .int32, _, wireType, _, input => do
    let (word, input) ← readWord wireType input
    return (word.toUInt32.toInt32, input)
  | .int64, _, wireType, _, input => do
    let (word, input) ← readWord wireType input
    return (word.toInt64, input)
  | .uint64, _, wireType, _, input => readWord wireType input
  | .bool, _, wireType, _, input => do
    let (word, input) ← readWord wireType input
    return (word != 0, input)
  | .string, _, wireType, _, input => readText wireType input
  | .bytes, _, wireType, _, input => readBytes wireType input
  | .repeatedBytes, _, wireType, items, input => do
    let (bytes, input) ← readBytes wireType input
    return (items ++ [bytes], input)
  | .map, budget, _, entries, input =>
    match budget with
    | 0 => .error (.ofCause .nesting)
    | budget + 1 => do
      let ((key, value), input) ← readDelimited (fun entry => readKeyed (readEntryField budget entry)) ("", []) input
      return (entries.insert key value, input)
  | .message name fields, budget, wireType, value, input => do
    expect wireType .delimited
    match budget with
    | 0 => throw (.ofCause .nesting)
    | budget + 1 =>
      let (record, input) ←
        readDelimited (fun record => readKeyed fun key input => fields.read name budget key record input)
          (value.getD fields.default) input
      return (some record, input)
  | .repeatedMessage name fields, budget, wireType, items, input => do
    expect wireType .delimited
    match budget with
    | 0 => throw (.ofCause .nesting)
    | budget + 1 =>
      let (record, input) ←
        readDelimited (fun record => readKeyed fun key input => fields.read name budget key record input)
          fields.default input
      return (items ++ [record], input)

/-- Reads the field behind a key and merges it into the record so far. The field of a number that
is not declared is skipped. -/
def Fields.read : (fields : Fields) → (message : String) → (budget : Nat) → Key →
    fields.Record → Bytes → Except Fault (fields.Record × Bytes)
  | .nil, _, budget, key, _, input => do
    let input ← (skipField budget key input).mapError .ofCause
    return ((), input)
  | .cons number name type rest, message, budget, key, (value, others), input =>
    if key.number = number then do
      let (value, input) ←
        (type.read budget key.wireType value input).mapError (.within ⟨message, name⟩)
      return ((value, others), input)
    else do
      let (others, input) ← rest.read message budget key others input
      return ((value, others), input)

end

/-- Reads one field of a message, key and all, and merges it into the record so far. -/
def Schema.readField (schema : Schema) (budget : Nat) (record : schema.Record) :
    Bytes → Except Fault (schema.Record × Bytes) :=
  readKeyed fun key input => schema.fields.read schema.name budget key record input

/-- The record that a byte string encodes, within a nesting budget. -/
def Schema.decodeWithin (budget : Nat) (schema : Schema) (input : Bytes) :
    Except Fault schema.Record :=
  (readWhile (schema.readField budget) 0 input.length schema.fields.default input).map (·.1)

/-- The record that a byte string encodes. -/
def Schema.decode (schema : Schema) (input : Bytes) : Except Fault schema.Record :=
  schema.decodeWithin maxNesting input

end ChannelLedger.Wire
