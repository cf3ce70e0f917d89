import ChannelLedger.Bytes.Basic
import ChannelLedger.Key.Modular

/-!
# Elliptic curves

Curves `y² = x³ + a x + b` over a prime field, with a base point, and the encodings of their
points. A point is written with both coordinates, or with one coordinate and the parity of the
other, or with both and the parity; whichever it is, reading gives the same point. A byte string
whose coordinates are no point of the curve is no encoding.
-/
namespace ChannelLedger

/-- A curve with its base point. -/
structure Curve where
  p : Nat
  a : Nat
  b : Nat
  gx : Nat
  gy : Nat
  /-- The order of the base point. -/
  order : Nat
  deriving DecidableEq, Repr

/-- A point other than the one at infinity. -/
structure Point where
  x : Nat
  y : Nat
  deriving DecidableEq, Repr

/-- How much of a point is written. -/
inductive PointForm where
  | compressed
  | uncompressed
  | hybrid
  deriving DecidableEq, Repr

/-- The form that the first byte of a written point stands for. -/
def PointForm.ofBytes : Bytes → PointForm
  | form :: _ =>
    if form = 2 ∨ form = 3 then compressed else if form = 6 ∨ form = 7 then hybrid else uncompressed
  | [] => uncompressed

/-- The number of binary digits of a number. -/
def bitLength (n : Nat) : Nat :=
  if n = 0 then 0 else n.log2 + 1

namespace Curve

/-- Bytes of a coordinate. -/
def fieldSize (c : Curve) : Nat :=
  (bitLength c.p + 7) / 8

/-- The square of the second coordinate over a first one. -/
def square (c : Curve) (x : Nat) : Nat :=
  (x * x * x + c.a * x + c.b) % c.p

/-- The point lies on the curve. -/
def contains (c : Curve) (point : Point) : Bool :=
  point.x < c.p && point.y < c.p && point.y * point.y % c.p == c.square point.x

/-- The point over a first coordinate whose second one has the given parity. -/
def lift? (c : Curve) (x parity : Nat) : Option Point := do
  if c.p ≤ x then none
  let root ← Modular.sqrt? c.p (c.square x)
  if root % 2 = parity then return ⟨x, root⟩
  else if root = 0 then none
  else return ⟨x, c.p - root⟩

/-- The point that a byte string encodes. -/
def decode? (c : Curve) : Bytes → Option Point
  | [] => none
  | form :: coordinates =>
    let x := Bytes.toNat (coordinates.take c.fieldSize)
    let y := Bytes.toNat (coordinates.drop c.fieldSize)
    let both := coordinates.length = 2 * c.fieldSize ∧ c.contains ⟨x, y⟩
    if form = 2 ∨ form = 3 then
      if coordinates.length = c.fieldSize then c.lift? x (form.toNat % 2) else none
    else if form = 4 then if both then some ⟨x, y⟩ else none
    else if form = 6 ∨ form = 7 then
      if both ∧ y % 2 = form.toNat % 2 then some ⟨x, y⟩ else none
    else none

/-- A point with both coordinates. -/
def encode (c : Curve) (point : Point) : Bytes :=
  4 :: Bytes.ofNat c.fieldSize point.x ++ Bytes.ofNat c.fieldSize point.y

/-- A point with its first coordinate and the parity of the second. -/
def encodeCompressed (c : Curve) (point : Point) : Bytes :=
  UInt8.ofNat (2 + point.y % 2) :: Bytes.ofNat c.fieldSize point.x

/-- A point with both coordinates and the parity of the second. -/
def encodeHybrid (c : Curve) (point : Point) : Bytes :=
  UInt8.ofNat (6 + point.y % 2)
    :: Bytes.ofNat c.fieldSize point.x ++ Bytes.ofNat c.fieldSize point.y

/-- A point in the given form. -/
def encodeAs (c : Curve) : PointForm → Point → Bytes
  | .compressed => c.encodeCompressed
  | .uncompressed => c.encode
  | .hybrid => c.encodeHybrid

/-! ## Curves of their own names -/

/-- The curve named P-224. -/
def p224 : Curve where
  p := 0xffffffffffffffffffffffffffffffff000000000000000000000001
  a := 0xfffffffffffffffffffffffffffffffefffffffffffffffffffffffe
  b := 0xb4050a850c04b3abf54132565044b0b7d7bfd8ba270b39432355ffb4
  gx := 0xb70e0cbd6bb4bf7f321390b94a03c1d356c21122343280d6115c1d21
  gy := 0xbd376388b5f723fb4c22dfe6cd4375a05a07476444d5819985007e34
  order := 0xffffffffffffffffffffffffffff16a2e0b8f03e13dd29455c5c2a3d

/-- The curve named P-256. -/
def p256 : Curve where
  p := 0xffffffff00000001000000000000000000000000ffffffffffffffffffffffff
  a := 0xffffffff00000001000000000000000000000000fffffffffffffffffffffffc
  b := 0x5ac635d8aa3a93e7b3ebbd55769886bc651d06b0cc53b0f63bce3c3e27d2604b
  gx := 0x6b17d1f2e12c4247f8bce6e563a440f277037d812deb33a0f4a13945d898c296
  gy := 0x4fe342e2fe1a7f9b8ee7eb4a7c0f9e162bce33576b315ececbb6406837bf51f5
  order := 0xffffffff00000000ffffffffffffffffbce6faada7179e84f3b9cac2fc632551

/-- The curve named P-384. -/
def p384 : Curve where
  p := 0xfffffffffffffffffffffffffffffffffffffffffffffffffffffffffffffffeffffffff0000000000000000ffffffff
  a := 0xfffffffffffffffffffffffffffffffffffffffffffffffffffffffffffffffeffffffff0000000000000000fffffffc
  b := 0xb3312fa7e23ee7e4988e056be3f82d19181d9c6efe8141120314088f5013875ac656398d8a2ed19d2a85c8edd3ec2aef
  gx := 0xaa87ca22be8b05378eb1c71ef320ad746e1d3b628ba79b9859f741e082542a385502f25dbf55296c3a545e3872760ab7
  gy := 0x3617de4a96262c6f5d9e98bf9292dc29f8f41dbd289a147ce9da3113b5f0b8c00a60b1ce1d7e819d7a431d7c90ea0e5f
  order := 0xffffffffffffffffffffffffffffffffffffffffffffffffc7634d81f4372ddf581a0db248b0a77aecec196accc52973

/-- The curve named P-521. -/
def p521 : Curve where
  p := 0x01ffffffffffffffffffffffffffffffffffffffffffffffffffffffffffffffffffffffffffffffffffffffffffffffffffffffffffffffffffffffffffffffffff
  a := 0x01fffffffffffffffffffffffffffffffffffffffffffffffffffffffffffffffffffffffffffffffffffffffffffffffffffffffffffffffffffffffffffffffffc
  b := 0x0051953eb9618e1c9a1f929a21a0b68540eea2da725b99b315f3b8b489918ef109e156193951ec7e937b1652c0bd3bb1bf073573df883d2c34f1ef451fd46b503f00
  gx := 0x00c6858e06b70404e9cd9e3ecb662395b4429c648139053fb521f828af606b4d3dbaa14b5e77efe75928fe1dc127a2ffa8de3348b3c1856a429bf97e7e31c2e5bd66
  gy := 0x011839296a789a3bc0045c8a5fb42c7d1bd998f54449579b446817afbd17273e662c97ee72995ef42640c550b9013fad0761353c7086a272c24088be94769fd16650
  order := 0x01fffffffffffffffffffffffffffffffffffffffffffffffffffffffffffffffffa51868783bf2f966b7fcc0148f709a5d03bb5c9b8899c47aebb6fb71e91386409

/-- The curve named secp256k1. -/
def k256 : Curve where
  p := 0xfffffffffffffffffffffffffffffffffffffffffffffffffffffffefffffc2f
  a := 0x0000000000000000000000000000000000000000000000000000000000000000
  b := 0x0000000000000000000000000000000000000000000000000000000000000007
  gx := 0x79be667ef9dcbbac55a06295ce870b07029bfcdb2dce28d959f2815b16f81798
  gy := 0x483ada7726a3c4655da4fbfc0e1108a8fd17b448a68554199c47d08ffb10d4b8
  order := 0xfffffffffffffffffffffffffffffffebaaedce6af48a03bbfd25e8cd0364141

/-- The curve of the SM2 scheme. -/
def sm2 : Curve where
  p := 0xfffffffeffffffffffffffffffffffffffffffff00000000ffffffffffffffff
  a := 0xfffffffeffffffffffffffffffffffffffffffff00000000fffffffffffffffc
  b := 0x28e9fa9e9d9f5e344d5a9e4bcf6509a7f39789f515ab8f92ddbcbd414d940e93
  gx := 0x32c4ae2c1f1981195f9904466a39c9948fe30bbff2660be1715a4589334c74c7
  gy := 0xbc3736a2f4f6779c59bdcee36b692153d0a9877cc62a474002df32e52139f0a0
  order := 0xfffffffeffffffffffffffffffffffff7203df6b21c6052b53bbf40939d54123

end Curve

end ChannelLedger
