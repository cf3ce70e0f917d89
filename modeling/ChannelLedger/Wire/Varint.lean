import ChannelLedger.Bytes.Basic
import ChannelLedger.Wire.Fault

/-!
# Varints

A number in groups of seven bits, least significant first; every byte but the last has its high
bit set. Ten bytes carry 64 bits, of which the tenth may hold one. A number may be written with
more bytes than it needs, and reading takes such forms too; writing uses the fewest.
-/
namespace ChannelLedger.Wire.Varint

/-- The most bytes a varint may have. -/
def maxLength : Nat := 10

/-- Reads a varint of at most `left` bytes, of which the last may be at most 1 if none is left
after it. -/
def readUpTo : (left : Nat) → Bytes → Option (Nat × Bytes)
  | 0, _ => none
  | _ + 1, [] => none
  | left + 1, b :: rest =>
    if b < 0x80 then
      if left = 0 ∧ 1 < b then none else some (b.toNat, rest)
    else (readUpTo left rest).map fun (n, rest) => (b.toNat - 0x80 + 128 * n, rest)

/-- Reads a varint. -/
def read (input : Bytes) : Except Cause (UInt64 × Bytes) :=
  match readUpTo maxLength input with
  | some (n, rest) => .ok (UInt64.ofNat n, rest)
  | none => .error .varint

/-- Writes a number in at most `left` bytes. -/
def writeUpTo : (left n : Nat) → Bytes
  | 0, _ => []
  | left + 1, n =>
    if n < 0x80 then [UInt8.ofNat n] else UInt8.ofNat (0x80 + n % 128) :: writeUpTo left (n / 128)

/-- The shortest varint of a number. -/
def write (n : UInt64) : Bytes :=
  writeUpTo maxLength n.toNat

end ChannelLedger.Wire.Varint
