/-!
# Byte strings

Blocks, hashes, keys and certificates are byte strings. They are lists, so that readers recurse
on them; the number a byte string denotes is taken big-endian throughout.
-/
namespace ChannelLedger

/-- A finite string of bytes. -/
abbrev Bytes := List UInt8

namespace Bytes

/-- The UTF-8 encoding of a text. -/
def ofText (s : String) : Bytes :=
  s.toList.flatMap String.utf8EncodeChar

/-- The number a byte string denotes, most significant byte first. -/
def toNat (bs : Bytes) : Nat :=
  bs.foldl (fun n b => n * 256 + b.toNat) 0

/-- The `width` low bytes of `n`, most significant first. -/
def ofNat : (width n : Nat) → Bytes
  | 0, _ => []
  | width + 1, n => ofNat width (n / 256) ++ [UInt8.ofNat n]

/-- Drops the zero bytes in front. -/
def trimZeros (bs : Bytes) : Bytes :=
  bs.dropWhile (· == 0)

@[simp] theorem length_ofNat (width n : Nat) : (ofNat width n).length = width := by
  induction width generalizing n with
  | zero => rfl
  | succ width ih => simp [ofNat, ih]

end Bytes

end ChannelLedger
