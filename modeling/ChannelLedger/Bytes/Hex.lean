import ChannelLedger.Bytes.Basic
import ChannelLedger.Text.Quoted

/-!
# Hexadecimal

Hashes and nonces are shown as hexadecimal text, two lower-case digits a byte. Reading takes
either case. It first asks that the text have an even length, counted in bytes of its UTF-8 form,
and then names the first byte that is no digit: a character outside ASCII is therefore reported by
its first byte.
-/
namespace ChannelLedger

namespace Hex

/-- Why a text is not hexadecimal. -/
inductive Fault where
  /-- The text has an odd number of bytes. -/
  | oddLength
  /-- A byte of the text is not a digit. -/
  | invalidCharacter (byte : UInt8) (position : Nat)
  deriving DecidableEq, Repr

/-- The wording of a fault; the offending byte is shown as the character of that number. -/
def Fault.message : Fault → String
  | .oddLength => "Odd number of digits"
  | .invalidCharacter byte position =>
    "Invalid character " ++ Quoted.char (Char.ofNat byte.toNat) ++ " at position " ++ toString position

/-- The lower-case digit of a number below sixteen. -/
def digit (n : Nat) : Char :=
  Char.ofNat (if n < 10 then 0x30 + n else 0x57 + n)

/-- The value of a digit of either case, given as an ASCII byte. -/
def value? (byte : UInt8) : Option Nat :=
  let n := byte.toNat
  if 0x30 ≤ n ∧ n ≤ 0x39 then some (n - 0x30)
  else if 0x61 ≤ n ∧ n ≤ 0x66 then some (n - 0x57)
  else if 0x41 ≤ n ∧ n ≤ 0x46 then some (n - 0x37)
  else none

/-- The digits of a byte string. -/
def digits (bs : Bytes) : List Char :=
  bs.flatMap fun b => [digit (b.toNat / 16), digit (b.toNat % 16)]

/-- Reads pairs of digits; `position` counts the bytes already read. -/
def ofDigits : (position : Nat) → Bytes → Except Fault Bytes
  | _, [] => .ok []
  | _, [_] => .error .oddLength
  | position, high :: low :: rest =>
    match value? high, value? low with
    | none, _ => .error (.invalidCharacter high position)
    | some _, none => .error (.invalidCharacter low (position + 1))
    | some h, some l => (ofDigits (position + 2) rest).map (UInt8.ofNat (16 * h + l) :: ·)

end Hex

namespace Bytes

/-- A byte string as lower-case hexadecimal text. -/
def toHex (bs : Bytes) : String :=
  String.ofList (Hex.digits bs)

/-- The byte string a hexadecimal text denotes. -/
def ofHex (s : String) : Except Hex.Fault Bytes :=
  let text := ofText s
  if text.length % 2 = 1 then .error .oddLength else Hex.ofDigits 0 text

end Bytes

end ChannelLedger
