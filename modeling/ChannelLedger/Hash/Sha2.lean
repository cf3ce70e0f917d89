import ChannelLedger.Bytes.Basic

/-!
# SHA-2

The two members of the SHA-2 family that name blocks: SHA-256 and SHA-384. Both run the same
compression on blocks of sixteen words and differ in the word, in the rotations of the four
mixing functions, in the round constants and in the state they start from; `Variant` holds what
differs. A message is padded with a one bit, zeros, and its length in bits.
-/
namespace ChannelLedger.Sha2

/-- What distinguishes one member of the family, over words of type `W`. -/
structure Variant (W : Type) where
  /-- Bytes of a word. -/
  wordSize : Nat
  wordSize_pos : 0 < wordSize := by decide
  /-- The word with the given number, reduced to the width of a word. -/
  ofNat : Nat → W
  toNat : W → Nat
  /-- Mixing of the first state word. -/
  mixA : W → W
  /-- Mixing of the fifth state word. -/
  mixE : W → W
  /-- Mixing of the schedule word fifteen places back. -/
  mixEarly : W → W
  /-- Mixing of the schedule word two places back. -/
  mixLate : W → W
  /-- One constant for each round. -/
  constants : List W
  /-- The eight words the state starts from. -/
  initial : List W
  /-- Bytes of the state that make up the digest. -/
  digestSize : Nat

section Compression

variable {W : Type} [Add W] [AndOp W] [XorOp W] [Complement W]

/-- One round on the state words `a` to `h`; `word` is the schedule word plus the round's
constant. -/
def round (v : Variant W) (state : List W) (word : W) : List W :=
  match state with
  | [a, b, c, d, e, f, g, h] =>
    let choice := (e &&& f) ^^^ (~~~e &&& g)
    let majority := (a &&& b) ^^^ (a &&& c) ^^^ (b &&& c)
    let t := h + v.mixE e + choice + word
    [t + (v.mixA a + majority), a, b, c, d + t, e, f, g]
  | other => other

/-- Runs one round per constant. `window` holds the next sixteen words of the schedule. -/
def rounds (v : Variant W) : List W → (window state : List W) → List W
  | [], _, state => state
  | k :: ks, window, state =>
    match window with
    | w0 :: w1 :: rest =>
      let next := w0 + v.mixEarly w1 + (rest.drop 7).headD w0 + v.mixLate ((rest.drop 12).headD w0)
      rounds v ks (w1 :: rest ++ [next]) (round v state (k + w0))
    | _ => state

/-- Takes one block of sixteen words into the state. -/
def compress (v : Variant W) (state block : List W) : List W :=
  state.zipWith (· + ·) (rounds v v.constants block state)

end Compression

/-- Cuts a byte string into pieces of the given size; a last shorter piece is dropped. -/
def pieces (size : Nat) (h : 0 < size) (bs : Bytes) : List Bytes :=
  if _ : bs.length < size then [] else bs.take size :: pieces size h (bs.drop size)
  termination_by bs.length
  decreasing_by simp; omega

/-- The padded message: its length becomes a multiple of sixteen words. -/
def pad (wordSize : Nat) (bs : Bytes) : Bytes :=
  let block := 16 * wordSize
  let zeros := (block - (bs.length + 1 + 2 * wordSize) % block) % block
  bs ++ 0x80 :: List.replicate zeros 0 ++ Bytes.ofNat (2 * wordSize) (8 * bs.length)

/-- The digest of a message. -/
def digest {W : Type} [Add W] [AndOp W] [XorOp W] [Complement W] (v : Variant W) (bs : Bytes) :
    Bytes :=
  let blocks := pieces (16 * v.wordSize) (Nat.mul_pos (by decide) v.wordSize_pos) (pad v.wordSize bs)
  let words (block : Bytes) := (pieces v.wordSize v.wordSize_pos block).map fun w => v.ofNat w.toNat
  let state := blocks.foldl (fun state block => compress v state (words block)) v.initial
  (state.flatMap fun w => Bytes.ofNat v.wordSize (v.toNat w)).take v.digestSize

/-! ## The two members -/

/-- Rotation to the right in a word of 32 bits. -/
def rotate32 (x n : UInt32) : UInt32 :=
  (x >>> n) ||| (x <<< (32 - n))

/-- Rotation to the right in a word of 64 bits. -/
def rotate64 (x n : UInt64) : UInt64 :=
  (x >>> n) ||| (x <<< (64 - n))

/-- The first fractional bits of the cube roots of the first 64 primes. -/
def constants32 : List UInt32 := [
  0x428a2f98, 0x71374491, 0xb5c0fbcf, 0xe9b5dba5, 0x3956c25b, 0x59f111f1, 0x923f82a4, 0xab1c5ed5,
  0xd807aa98, 0x12835b01, 0x243185be, 0x550c7dc3, 0x72be5d74, 0x80deb1fe, 0x9bdc06a7, 0xc19bf174,
  0xe49b69c1, 0xefbe4786, 0x0fc19dc6, 0x240ca1cc, 0x2de92c6f, 0x4a7484aa, 0x5cb0a9dc, 0x76f988da,
  0x983e5152, 0xa831c66d, 0xb00327c8, 0xbf597fc7, 0xc6e00bf3, 0xd5a79147, 0x06ca6351, 0x14292967,
  0x27b70a85, 0x2e1b2138, 0x4d2c6dfc, 0x53380d13, 0x650a7354, 0x766a0abb, 0x81c2c92e, 0x92722c85,
  0xa2bfe8a1, 0xa81a664b, 0xc24b8b70, 0xc76c51a3, 0xd192e819, 0xd6990624, 0xf40e3585, 0x106aa070,
  0x19a4c116, 0x1e376c08, 0x2748774c, 0x34b0bcb5, 0x391c0cb3, 0x4ed8aa4a, 0x5b9cca4f, 0x682e6ff3,
  0x748f82ee, 0x78a5636f, 0x84c87814, 0x8cc70208, 0x90befffa, 0xa4506ceb, 0xbef9a3f7, 0xc67178f2]

/-- The first fractional bits of the cube roots of the first 80 primes. -/
def constants64 : List UInt64 := [
  0x428a2f98d728ae22, 0x7137449123ef65cd, 0xb5c0fbcfec4d3b2f, 0xe9b5dba58189dbbc,
  0x3956c25bf348b538, 0x59f111f1b605d019, 0x923f82a4af194f9b, 0xab1c5ed5da6d8118,
  0xd807aa98a3030242, 0x12835b0145706fbe, 0x243185be4ee4b28c, 0x550c7dc3d5ffb4e2,
  0x72be5d74f27b896f, 0x80deb1fe3b1696b1, 0x9bdc06a725c71235, 0xc19bf174cf692694,
  0xe49b69c19ef14ad2, 0xefbe4786384f25e3, 0x0fc19dc68b8cd5b5, 0x240ca1cc77ac9c65,
  0x2de92c6f592b0275, 0x4a7484aa6ea6e483, 0x5cb0a9dcbd41fbd4, 0x76f988da831153b5,
  0x983e5152ee66dfab, 0xa831c66d2db43210, 0xb00327c898fb213f, 0xbf597fc7beef0ee4,
  0xc6e00bf33da88fc2, 0xd5a79147930aa725, 0x06ca6351e003826f, 0x142929670a0e6e70,
  0x27b70a8546d22ffc, 0x2e1b21385c26c926, 0x4d2c6dfc5ac42aed, 0x53380d139d95b3df,
  0x650a73548baf63de, 0x766a0abb3c77b2a8, 0x81c2c92e47edaee6, 0x92722c851482353b,
  0xa2bfe8a14cf10364, 0xa81a664bbc423001, 0xc24b8b70d0f89791, 0xc76c51a30654be30,
  0xd192e819d6ef5218, 0xd69906245565a910, 0xf40e35855771202a, 0x106aa07032bbd1b8,
  0x19a4c116b8d2d0c8, 0x1e376c085141ab53, 0x2748774cdf8eeb99, 0x34b0bcb5e19b48a8,
  0x391c0cb3c5c95a63, 0x4ed8aa4ae3418acb, 0x5b9cca4f7763e373, 0x682e6ff3d6b2b8a3,
  0x748f82ee5defb2fc, 0x78a5636f43172f60, 0x84c87814a1f0ab72, 0x8cc702081a6439ec,
  0x90befffa23631e28, 0xa4506cebde82bde9, 0xbef9a3f7b2c67915, 0xc67178f2e372532b,
  0xca273eceea26619c, 0xd186b8c721c0c207, 0xeada7dd6cde0eb1e, 0xf57d4f7fee6ed178,
  0x06f067aa72176fba, 0x0a637dc5a2c898a6, 0x113f9804bef90dae, 0x1b710b35131c471b,
  0x28db77f523047d84, 0x32caab7b40c72493, 0x3c9ebe0a15c9bebc, 0x431d67c49c100d4c,
  0x4cc5d4becb3e42b6, 0x597f299cfc657e2a, 0x5fcb6fab3ad6faec, 0x6c44198c4a475817]

/-- SHA-256, on words of 32 bits. -/
def variant256 : Variant UInt32 where
  wordSize := 4
  ofNat := UInt32.ofNat
  toNat := UInt32.toNat
  mixA x := rotate32 x 2 ^^^ rotate32 x 13 ^^^ rotate32 x 22
  mixE x := rotate32 x 6 ^^^ rotate32 x 11 ^^^ rotate32 x 25
  mixEarly x := rotate32 x 7 ^^^ rotate32 x 18 ^^^ (x >>> 3)
  mixLate x := rotate32 x 17 ^^^ rotate32 x 19 ^^^ (x >>> 10)
  constants := constants32
  initial := [
    0x6a09e667, 0xbb67ae85, 0x3c6ef372, 0xa54ff53a, 0x510e527f, 0x9b05688c, 0x1f83d9ab, 0x5be0cd19]
  digestSize := 32

/-- SHA-384, on words of 64 bits. -/
def variant384 : Variant UInt64 where
  wordSize := 8
  ofNat := UInt64.ofNat
  toNat := UInt64.toNat
  mixA x := rotate64 x 28 ^^^ rotate64 x 34 ^^^ rotate64 x 39
  mixE x := rotate64 x 14 ^^^ rotate64 x 18 ^^^ rotate64 x 41
  mixEarly x := rotate64 x 1 ^^^ rotate64 x 8 ^^^ (x >>> 7)
  mixLate x := rotate64 x 19 ^^^ rotate64 x 61 ^^^ (x >>> 6)
  constants := constants64
  initial := [
    0xcbbb9d5dc1059ed8, 0x629a292a367cd507, 0x9159015a3070dd17, 0x152fecd8f70e5939,
    0x67332667ffc00b31, 0x8eb44a8768581511, 0xdb0c2e0d64f98fa7, 0x47b5481dbefa4fa4]
  digestSize := 48

/-- The SHA-256 digest, 32 bytes. -/
def sha256 (bs : Bytes) : Bytes :=
  digest variant256 bs

/-- The SHA-384 digest, 48 bytes. -/
def sha384 (bs : Bytes) : Bytes :=
  digest variant384 bs

end ChannelLedger.Sha2
