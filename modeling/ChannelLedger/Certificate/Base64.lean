import ChannelLedger.Bytes.Basic

/-!
# Base64

Four characters carry three bytes. Blanks between characters do not count, and a dash ends the
text. The characters come in groups of four; the last group may end in one or two equals signs,
each of which stands for a byte that is not there.
-/
namespace ChannelLedger.Base64

/-- The value of a character. -/
def value? (b : UInt8) : Option Nat :=
  let n := b.toNat
  if 0x41 ≤ n ∧ n ≤ 0x5a then some (n - 0x41)
  else if 0x61 ≤ n ∧ n ≤ 0x7a then some (n - 0x61 + 26)
  else if 0x30 ≤ n ∧ n ≤ 0x39 then some (n - 0x30 + 52)
  else if n = 0x2b then some 62
  else if n = 0x2f then some 63
  else none

/-- The character of a value below 64. -/
def character (n : Nat) : UInt8 :=
  if n < 26 then UInt8.ofNat (0x41 + n)
  else if n < 52 then UInt8.ofNat (0x61 + (n - 26))
  else if n < 62 then UInt8.ofNat (0x30 + (n - 52))
  else if n = 62 then 0x2b
  else 0x2f

def isBlank (b : UInt8) : Bool :=
  b = 0x20 || b = 0x09 || b = 0x0a || b = 0x0d

/-- The equals sign. -/
def pad : UInt8 := 0x3d

/-- The dash. -/
def dash : UInt8 := 0x2d

/-- The bytes of groups of four characters. -/
def ofGroups : Bytes → Option Bytes
  | [] => some []
  | [a, b, c, d] => do
    let a ← value? a
    let b ← value? b
    if c = pad then
      if d = pad then return [UInt8.ofNat (a * 4 + b / 16)] else none
    else
      let c ← value? c
      if d = pad then return [UInt8.ofNat (a * 4 + b / 16), UInt8.ofNat (b % 16 * 16 + c / 4)]
      else
        let d ← value? d
        return [UInt8.ofNat (a * 4 + b / 16), UInt8.ofNat (b % 16 * 16 + c / 4),
          UInt8.ofNat (c % 4 * 64 + d)]
  | a :: b :: c :: d :: rest => do
    let a ← value? a
    let b ← value? b
    let c ← value? c
    let d ← value? d
    let bytes ← ofGroups rest
    return UInt8.ofNat (a * 4 + b / 16) :: UInt8.ofNat (b % 16 * 16 + c / 4)
      :: UInt8.ofNat (c % 4 * 64 + d) :: bytes
  | _ => none

/-- The bytes that a text carries. -/
def decode? (text : Bytes) : Option Bytes :=
  ofGroups ((text.takeWhile (· != dash)).filter fun b => !isBlank b)

/-- The characters of a byte string, without line breaks. -/
def encode : Bytes → Bytes
  | [] => []
  | [a] => [character (a.toNat / 4), character (a.toNat % 4 * 16), pad, pad]
  | [a, b] => [character (a.toNat / 4), character (a.toNat % 4 * 16 + b.toNat / 16),
      character (b.toNat % 16 * 4), pad]
  | a :: b :: c :: rest =>
    character (a.toNat / 4) :: character (a.toNat % 4 * 16 + b.toNat / 16)
      :: character (b.toNat % 16 * 4 + c.toNat / 64) :: character (c.toNat % 64) :: encode rest

end ChannelLedger.Base64
