import ChannelLedger.Wire.Varint

/-!
# Keys

In front of every field stands its key, a varint of at most 32 bits: the field number and, in the
three low bits, the wire type.
-/
namespace ChannelLedger.Wire

structure Key where
  number : Nat
  wireType : WireType
  deriving DecidableEq, Repr

namespace Key

/-- The key that a number denotes. Its faults are looked for in this order: too large, unassigned
wire type, field number zero. -/
def ofCode (code : UInt64) : Except Cause Key :=
  if code.toNat < 0x100000000 then
    match WireType.ofCode? (code.toNat % 8) with
    | none => .error (.wireType (code.toNat % 8))
    | some wireType =>
      if code.toNat / 8 = 0 then .error .fieldNumber else .ok ⟨code.toNat / 8, wireType⟩
  else .error (.key code)

/-- Reads a key. -/
def read (input : Bytes) : Except Cause (Key × Bytes) := do
  let (code, rest) ← Varint.read input
  return (← ofCode code, rest)

/-- Writes a key. -/
def write (number : Nat) (wireType : WireType) : Bytes :=
  Varint.write (UInt64.ofNat (8 * number + wireType.code))

end Key

end ChannelLedger.Wire
