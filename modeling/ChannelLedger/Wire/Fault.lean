/-!
# Faults of the wire format

Why bytes are not the encoding of a message: a cause, and the fields it was met in. The text names
the fields from the innermost outwards, each with the message that declares it.
-/
namespace ChannelLedger.Wire

/-- How the bytes after a key are laid out. -/
inductive WireType where
  | varint
  | fixed64
  | delimited
  | startGroup
  | endGroup
  | fixed32
  deriving DecidableEq, Repr

namespace WireType

/-- The number of a wire type in the three low bits of a key. -/
def code : WireType → Nat
  | .varint => 0
  | .fixed64 => 1
  | .delimited => 2
  | .startGroup => 3
  | .endGroup => 4
  | .fixed32 => 5

def ofCode? : Nat → Option WireType
  | 0 => some .varint
  | 1 => some .fixed64
  | 2 => some .delimited
  | 3 => some .startGroup
  | 4 => some .endGroup
  | 5 => some .fixed32
  | _ => none

@[simp] theorem ofCode?_code (w : WireType) : ofCode? w.code = some w := by
  cases w <;> rfl

def name : WireType → String
  | .varint => "Varint"
  | .fixed64 => "SixtyFourBit"
  | .delimited => "LengthDelimited"
  | .startGroup => "StartGroup"
  | .endGroup => "EndGroup"
  | .fixed32 => "ThirtyTwoBit"

end WireType

/-- The rule of the format that was broken. -/
inductive Cause where
  /-- A varint ends early or does not fit in 64 bits. -/
  | varint
  /-- A key does not fit in 32 bits. -/
  | key (value : UInt64)
  /-- A key with one of the two unassigned wire types. -/
  | wireType (code : Nat)
  /-- A key with field number zero. -/
  | fieldNumber
  /-- A declared field in a layout that is not its own. -/
  | layout (actual expected : WireType)
  /-- A length reaches past the end of the input. -/
  | underflow
  /-- The last field of a delimited part reaches past the end of the part. -/
  | overrun
  /-- An end of a group that no group of that number waits for. -/
  | endGroup
  /-- Messages or groups nest too deep. -/
  | nesting
  /-- A string field that is not UTF-8. -/
  | text
  deriving DecidableEq, Repr

def Cause.message : Cause → String
  | .varint => "invalid varint"
  | .key value => "invalid key value: " ++ toString value
  | .wireType code => "invalid wire type value: " ++ toString code
  | .fieldNumber => "invalid tag value: 0"
  | .layout actual expected =>
    "invalid wire type: " ++ actual.name ++ " (expected " ++ expected.name ++ ")"
  | .underflow => "buffer underflow"
  | .overrun => "delimited length exceeded"
  | .endGroup => "unexpected end group tag"
  | .nesting => "recursion limit reached"
  | .text => "invalid string value: data is not UTF-8 encoded"

/-- A declared field, named together with its message. -/
structure FieldName where
  message : String
  field : String
  deriving DecidableEq, Repr

/-- How a field is named in a fault. The name `type` is a reserved word and carries a mark. -/
def FieldName.text (n : FieldName) : String :=
  n.message ++ "." ++ (if n.field = "type" then "r#type" else n.field)

structure Fault where
  /-- The fields the cause was met in, innermost first. -/
  path : List FieldName
  cause : Cause
  deriving DecidableEq, Repr

namespace Fault

/-- A fault met outside any declared field. -/
def ofCause (cause : Cause) : Fault := ⟨[], cause⟩

/-- The same fault seen from the message around the field. -/
def within (name : FieldName) (fault : Fault) : Fault :=
  { fault with path := fault.path ++ [name] }

def message (fault : Fault) : String :=
  "failed to decode Protobuf message: "
    ++ String.join (fault.path.map fun name => name.text ++ ": ") ++ fault.cause.message

end Fault

end ChannelLedger.Wire
