import ChannelLedger.Certificate.Basic
import ChannelLedger.Hash.Suite
import ChannelLedger.Key.Named

/-!
# Public keys

The key of a certificate, if it is of one of two schemes: SM2 on its own curve, and ECDSA on any
other named curve over a prime field (`Curve.named`). Curves over binary fields are left out: a key
on one counts as unreadable. A curve may be named or written out; one that is written out counts as
the named curve with the same parameters. A key is identified by the hash of its point, written with
both coordinates, so the identifier does not depend on how the certificate writes the point.

A key that is read has a kind, and the kind says how to come to its point. A key of the registered
kind for elliptic curves has it at hand. A key of the SM2 scheme may have a kind of its own, or
none that is registered; it is written as a certificate carries it, and read again from that. The
point at infinity can be read as a key, but neither way leads on from there.
-/
namespace ChannelLedger

/-- A signature scheme. -/
inductive Scheme where
  | ecdsa
  | sm2
  deriving DecidableEq, Repr

/-- The name of a scheme (`algorithm`). -/
def Scheme.name : Scheme → String
  | .ecdsa => "ECDSA"
  | .sm2 => "SM2"

/-- Why a key cannot be used (`CryptoError`). -/
inductive KeyFailure where
  /-- A key of another kind, given by its registered number. -/
  | otherKind (number : Int)
  /-- A curve that has no name. -/
  | unnamedCurve
  /-- No key can be read. -/
  | unreadable
  deriving DecidableEq, Repr

namespace KeyFailure

/-- The reader of keys does not say more than this. -/
def noKey : String := "no usable public key"

def message : KeyFailure → String
  | .otherKind number => unsupported ("Id(" ++ toString number ++ ")")
  | .unnamedCurve => unsupported "EC key on an unnamed curve"
  | .unreadable => "key material error: " ++ noKey
where
  unsupported (what : String) : String :=
    "certificate public key algorithm not supported: " ++ what ++ " (supported: SM2, ECDSA)"

end KeyFailure

/-- A key on an elliptic curve: its point, and how curve and point are written. -/
structure EcKey where
  parameters : Der.Element
  curve : Curve
  /-- Whether the curve has a name. -/
  isNamed : Bool
  form : PointForm
  point : Point
  deriving DecidableEq, Repr

/-- The kinds that a key on an elliptic curve can be of. -/
inductive EcKind where
  | ec
  | sm2
  | unregistered
  deriving DecidableEq, Repr

/-- The registered number of a kind; a kind that is not registered has none. -/
def EcKind.number : EcKind → Int
  | ec => 408
  | sm2 => 1172
  | unregistered => -1

/-- A key that has been read. -/
inductive KeyHandle where
  | onCurve (kind : EcKind) (key : EcKey)
  | other (number : Int)
  deriving DecidableEq, Repr

/-- A public key of one of the schemes (`CertPublicKey`). -/
structure PublicKey where
  scheme : Scheme
  kind : EcKind
  key : EcKey
  deriving DecidableEq, Repr

namespace Curve

open Der

/-- The object identifier of prime fields. -/
def primeField : Bytes := [0x2a, 0x86, 0x48, 0xce, 0x3d, 0x01, 0x01]

/-- The number an integer element holds, if it is not negative. -/
def natural? (e : Element) : Option Nat :=
  (e.integer?.filter fun content => (content.headD 0) < 0x80).map Bytes.toNat

/-- A curve that is written out. The base point has to lie on the curve, and field and order must be of sensible
size. The version has to fit in 32 bits, a seed must not be empty, and a cofactor is a number; none of them
matters. -/
def explicit? (e : Element) : Option Curve := do
  match ← e.inside? Tag.sequence with
  | version :: field :: coefficients :: base :: order :: rest =>
    if (version.integer?.filter (·.length ≤ 4)).isNone then none
    let p ← match ← field.inside? Tag.sequence with
      | [kind, p] => if kind.objectIdentifier? = some primeField then natural? p else none
      | _ => none
    let (a, b) ← match ← coefficients.inside? Tag.sequence with
      | [a, b] => pure (← a.string? Tag.octetString, ← b.string? Tag.octetString)
      | [a, b, seed] =>
        if (seed.bitString?.filter (· ≠ [])).isNone then none
        pure (← a.string? Tag.octetString, ← b.string? Tag.octetString)
      | _ => none
    let order ← natural? order
    match rest with
      | [] => pure ()
      | [cofactor] => if (natural? cofactor).isNone then none
      | _ => none
    if p % 2 = 0 ∨ bitLength p ≤ 2 ∨ 661 < bitLength p ∨ order = 0
        ∨ bitLength p + 1 < bitLength order then
      none
    let curve : Curve := ⟨p, Bytes.toNat a % p, Bytes.toNat b % p, 0, 0, order⟩
    let g ← curve.decode? (← base.string? Tag.octetString)
    return { curve with gx := g.x, gy := g.y }
  | _ => none

/-- The scheme that a curve with a name is for. -/
def scheme (c : Curve) : Scheme :=
  if c = sm2 then .sm2 else .ecdsa

/-- Whether a curve that is written out has a name. -/
def isNamed (curve : Curve) : Bool :=
  named.any (·.2 = curve)

end Curve

namespace PublicKey

open Der

/-- The object identifier of keys on elliptic curves. -/
def ellipticCurve : Bytes := [0x2a, 0x86, 0x48, 0xce, 0x3d, 0x02, 0x01]

/-- The object identifier of RSA keys. -/
def rsa : Bytes := [0x2a, 0x86, 0x48, 0x86, 0xf7, 0x0d, 0x01, 0x01, 0x01]

/-- The kinds of keys that are a byte string of fixed length: object identifier, length, and
registered number. -/
def fixedLength : List (Bytes × Nat × Int) := [
  ([0x2b, 0x65, 0x6e], 32, 1034), ([0x2b, 0x65, 0x6f], 56, 1035),
  ([0x2b, 0x65, 0x70], 32, 1087), ([0x2b, 0x65, 0x71], 57, 1088)]

/-- The curve that the parameters of a key mean, and whether it has a name. -/
def curve? (parameters : Element) : Option (Curve × Bool) :=
  if parameters.tag = Tag.objectIdentifier then
    (Curve.named.lookup parameters.content).map (·, true)
  else (Curve.explicit? parameters).map fun curve => (curve, curve.isNamed)

/-- Whether a byte string is an RSA key: a sequence of two integers. -/
def isRsaKey (key : Bytes) : Bool :=
  match readElement key with
  | some (e, _) =>
    match e.inside? Tag.sequence with
    | some [n, exponent] => n.tag == Tag.integer && exponent.tag == Tag.integer
    | _ => false
  | none => false

end PublicKey

/-- The key is on an elliptic curve; the object identifier of the SM2 scheme says so too. -/
def KeyInfo.isOnCurve (info : KeyInfo) : Bool :=
  info.algorithm = PublicKey.ellipticCurve || info.algorithm = Curve.sm2Identifier

namespace EcKey

/-- The key is one of the SM2 scheme. -/
def isSm2 (key : EcKey) : Bool :=
  key.isNamed && key.curve = Curve.sm2

/-- The kind that a key is given, where keys of the SM2 scheme are given the stated one. -/
def kind (sm2Kind : EcKind) (key : EcKey) : EcKind :=
  if key.isSm2 then sm2Kind else .ec

/-- Reads a key on an elliptic curve. Under the object identifier of the SM2 scheme it has to be on
the curve of the scheme. -/
def ofKeyInfo? (info : KeyInfo) : Option EcKey :=
  if info.isOnCurve then do
    let parameters ← info.parameters
    let (curve, isNamed) ← PublicKey.curve? parameters
    let point ← curve.decode? info.key
    let key : EcKey := ⟨parameters, curve, isNamed, .ofBytes info.key, point⟩
    if info.algorithm = Curve.sm2Identifier ∧ key.isSm2 = false then none else some key
  else none

/-- The key as a certificate carries it. The curve alone says of which scheme it is. -/
def keyInfo (key : EcKey) : KeyInfo :=
  ⟨PublicKey.ellipticCurve, some key.parameters, key.curve.encodeAs key.form key.point⟩

/-- The point with both coordinates, whatever form the key has. -/
def bytes (key : EcKey) : Bytes :=
  key.curve.encode key.point

end EcKey

namespace KeyHandle

/-- Reads a key whose point is the one at infinity, written as a single zero byte. Of such a key only the kind is
known. -/
def ofInfinity? (sm2Kind : EcKind) (info : KeyInfo) : Option KeyHandle := do
  let (curve, isNamed) ← PublicKey.curve? (← info.parameters)
  let isSm2 := isNamed && curve = Curve.sm2
  if info.key ≠ [0] ∨ info.algorithm = Curve.sm2Identifier ∧ isSm2 = false then none
  else some (other (if isSm2 then sm2Kind else EcKind.ec).number)

/-- Reads a key. -/
def ofKeyInfo? (sm2Kind : EcKind) (info : KeyInfo) : Option KeyHandle :=
  if info.isOnCurve then
    match EcKey.ofKeyInfo? info with
    | some key => some (onCurve (key.kind sm2Kind) key)
    | none => ofInfinity? sm2Kind info
  else if info.algorithm = PublicKey.rsa then
    if PublicKey.isRsaKey info.key then some (other 6) else none
  else
    match PublicKey.fixedLength.lookup info.algorithm with
    | some (length, number) =>
      if info.key.length = length ∧ info.parameters.isNone then some (other number) else none
    | none => none

/-- The key on an elliptic curve that a key is (`ec_public_key`). -/
def ecKey : KeyHandle → Except KeyFailure EcKey
  | onCurve .ec key => .ok key
  | onCurve _ key =>
    match EcKey.ofKeyInfo? key.keyInfo with
    | some key => .ok key
    | none => .error .unreadable
  | other number => .error (.otherKind number)

end KeyHandle

namespace PublicKey

/-- The key that a certificate carries, where keys of the SM2 scheme are read with the stated kind. -/
def ofKeyInfoAs (sm2Kind : EcKind) (info : KeyInfo) : Except KeyFailure PublicKey :=
  match KeyHandle.ofKeyInfo? sm2Kind info with
  | none => .error .unreadable
  | some (.other number) => .error (.otherKind number)
  | some (.onCurve .sm2 key) => .ok ⟨.sm2, .sm2, key⟩
  | some (.onCurve kind key) =>
    match (KeyHandle.onCurve kind key).ecKey with
    | .error _ => .error (.otherKind kind.number)
    | .ok read =>
      if read.isNamed then .ok ⟨read.curve.scheme, kind, key⟩
      else .error .unnamedCurve

/-- The key that a certificate carries (`from_certificate`). A key of the SM2 scheme has no registered kind. -/
def ofKeyInfo (info : KeyInfo) : Except KeyFailure PublicKey :=
  ofKeyInfoAs .unregistered info

/-- The key as it was read. -/
def handle (key : PublicKey) : KeyHandle :=
  .onCurve key.kind key.key

/-- The identifier of a key under a hash suite. -/
def identifier (suite : HashSuite) (key : PublicKey) : Bytes :=
  suite.hash key.key.bytes

/-- The identifier of a key under a hash suite, found by the way that the kind of the key needs
(`subject_key_identifier`). -/
def identifier? (suite : HashSuite) (key : PublicKey) : Except KeyFailure Bytes :=
  key.handle.ecKey.map fun read => suite.hash read.bytes

end PublicKey

end ChannelLedger
