import ChannelLedger.Certificate.Name
import ChannelLedger.Certificate.Pem
import ChannelLedger.Der.Fault

/-!
# Certificates

What this library reads of an X.509 certificate: the names of issuer and subject, and the key as
the certificate carries it. The whole certificate must have the right shape, but what the other
fields say (version, dates, extensions, signature) is not looked at. How elements may be written is
said in `Der.Reader`. Two limits of size are left out: the program refuses names of over 2²⁰ bytes
and algorithms whose object identifier has over 586.

A creator's bytes are read as PEM first and as DER where that fails; bytes behind the certificate
are ignored in both.
-/
namespace ChannelLedger

/-- A public key as a certificate carries it. -/
structure KeyInfo where
  /-- The object identifier of the algorithm. -/
  algorithm : Bytes
  parameters : Option Der.Element
  key : Bytes
  deriving DecidableEq, Repr

structure Certificate where
  issuer : Name
  subject : Name
  keyInfo : KeyInfo
  deriving DecidableEq, Repr

namespace Certificate

open Der

/-- The tags of the fields that are marked by their number. -/
def versionTag : UInt8 := 0xa0

def extensionsTag : UInt8 := 0xa3

/-- The types of two more such fields, which may be put together of parts. -/
def issuerIdType : UInt8 := 0x81

def subjectIdType : UInt8 := 0x82

/-- An algorithm and its parameters, of any type. -/
def algorithm? (e : Element) : Option (Bytes × Option Element) := do
  match ← e.inside? Tag.sequence with
  | [algorithm] => return (← algorithm.objectIdentifier?, none)
  | [algorithm, parameters] =>
    if parameters.isAny then return (← algorithm.objectIdentifier?, some parameters) else none
  | _ => none

def isTime (e : Element) : Bool :=
  (e.string? Tag.utcTime).isSome || (e.string? Tag.generalizedTime).isSome

def isValidity (e : Element) : Bool :=
  match e.inside? Tag.sequence with
  | some [start, finish] => isTime start && isTime finish
  | _ => false

def keyInfo? (e : Element) : Option KeyInfo := do
  match ← e.inside? Tag.sequence with
  | [algorithm, key] =>
    let (algorithm, parameters) ← algorithm? algorithm
    return ⟨algorithm, parameters, ← key.bitString?⟩
  | _ => none

def isExtension (e : Element) : Bool :=
  match e.inside? Tag.sequence with
  | some [type, value] => type.objectIdentifier?.isSome && (value.string? Tag.octetString).isSome
  | some [type, critical, value] =>
    type.objectIdentifier?.isSome && critical.tag == Tag.boolean && critical.content.length == 1
      && (value.string? Tag.octetString).isSome
  | _ => false

/-- Leaves out a field in front if it has the given type; then it must pass the test. -/
def skipOptional (type : UInt8) (test : Element → Bool) : List Element → Option (List Element)
  | e :: rest => if Tag.type e.tag = type then if test e then some rest else none else some (e :: rest)
  | [] => some []

def isVersion (e : Element) : Bool :=
  match e.inside? versionTag with
  | some [version] => version.integer?.isSome
  | _ => false

/-- Issuer and subject may be told apart by bit strings of their own. -/
def isUniqueId (e : Element) : Bool :=
  (e.collect Element.maxNesting).any Element.isBitString

def isExtensions (e : Element) : Bool :=
  match e.inside? extensionsTag with
  | some [list] =>
    match list.listOf? Tag.sequence with
    | some extensions => extensions.all isExtension
    | none => false
  | _ => false

/-- The signed part of a certificate. -/
def ofSigned? (e : Element) : Option Certificate := do
  match ← skipOptional (Tag.type versionTag) isVersion (← e.inside? Tag.sequence) with
  | serial :: signature :: issuer :: validity :: subject :: key :: rest =>
    let rest ← skipOptional issuerIdType isUniqueId rest
    let rest ← skipOptional subjectIdType isUniqueId rest
    let rest ← skipOptional (Tag.type extensionsTag) isExtensions rest
    if !rest.isEmpty ∨ serial.integer?.isNone ∨ (algorithm? signature).isNone
        ∨ !isValidity validity then
      none
    return ⟨← Name.ofElement? issuer, ← Name.ofElement? subject, ← keyInfo? key⟩
  | _ => none

/-- The certificate at the start of a byte string. -/
def ofDer? (input : Bytes) : Option Certificate := do
  let (e, _) ← readElement input
  match ← e.inside? Tag.sequence with
  | [signed, algorithm, signature] =>
    if (algorithm? algorithm).isNone ∨ signature.bitString?.isNone then none
    ofSigned? signed
  | _ => none

/-- The first certificate in a text. -/
def ofPem? (input : Bytes) : Option Certificate := do
  ofDer? (← Pem.certificate? input)

/-- The certificate that a creator's bytes hold (`parse_certificate`). If they hold none, the fault is that of
reading them as DER. -/
def read (input : Bytes) : Except Der.Fault Certificate :=
  match ofPem? input <|> ofDer? input with
  | some certificate => .ok certificate
  | none => .error (.ofSequence input)

end Certificate

end ChannelLedger
