import ChannelLedger.Bytes.Basic

/-!
# Writing DER

The distinguished encoding of the few types that block headers use. It leaves no choice: a length
takes the fewest bytes, and so does an integer, which keeps a zero byte in front only where its
first bit would otherwise read as a sign.
-/
namespace ChannelLedger.Der

/-- The tags of the types written here. -/
def integerTag : UInt8 := 0x02

def octetStringTag : UInt8 := 0x04

def sequenceTag : UInt8 := 0x30

/-- A length below 2^64: itself if it is below 128, else the number of its bytes and the bytes. -/
def length (n : Nat) : Bytes :=
  if n < 0x80 then [UInt8.ofNat n]
  else
    let bytes := (Bytes.ofNat 8 n).trimZeros
    UInt8.ofNat (0x80 + bytes.length) :: bytes

/-- An element (`der_tlv`): tag, length, content. -/
def element (tag : UInt8) (content : Bytes) : Bytes :=
  tag :: length content.length ++ content

/-- The content of a non-negative integer (`der_unsigned`). -/
def unsigned (n : UInt64) : Bytes :=
  match (Bytes.ofNat 8 n.toNat).trimZeros with
  | [] => [0]
  | b :: bs => if 0x80 ≤ b then 0 :: b :: bs else b :: bs

end ChannelLedger.Der
