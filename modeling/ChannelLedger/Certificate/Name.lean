import ChannelLedger.Der.Reader
import ChannelLedger.Text.Utf8

/-!
# Distinguished names

The issuer and the subject of a certificate: a sequence of sets of attributes. The values of
attributes are strings of several kinds, and each kind has its own way of encoding characters. A
value that breaks the rules of its kind makes the whole name unreadable. Other values are read too
but are no text: bit strings, sequences whatever is in them, and elements of a few types that no
kind of string goes with. A value of any other type makes the name unreadable.
-/
namespace ChannelLedger

/-- The value of an attribute. -/
inductive AttributeValue where
  | text (value : String)
  /-- A value that is no text. -/
  | other
  deriving DecidableEq, Repr

/-- An attribute of a name: its type, an object identifier, and its value. -/
structure Attribute where
  type : Bytes
  value : AttributeValue
  deriving DecidableEq, Repr

/-- The attributes of a name in order. -/
abbrev Name := List Attribute

/-- The character of a number, if it is one. -/
def charOfNat? (n : Nat) : Option Char :=
  if n.isValidChar then some (Char.ofNat n) else none

namespace AttributeValue

/-- The characters of a string of big-endian units of two bytes; surrogates are no characters. -/
def ofPairs : Bytes → Option (List Char)
  | [] => some []
  | [_] => none
  | a :: b :: rest => do
    return (← charOfNat? (a.toNat * 256 + b.toNat)) :: (← ofPairs rest)

/-- The characters of a string of big-endian units of four bytes. -/
def ofQuads : Bytes → Option (List Char)
  | [] => some []
  | a :: b :: c :: d :: rest => do
    let n := ((a.toNat * 256 + b.toNat) * 256 + c.toNat) * 256 + d.toNat
    return (← charOfNat? n) :: (← ofQuads rest)
  | _ => none

/-- The characters of a string with one byte for each. -/
def ofBytes (bytes : Bytes) : List Char :=
  bytes.map fun b => Char.ofNat b.toNat

/-- The kinds of strings whose bytes are the numbers of their characters. -/
def byteStrings : List UInt8 :=
  [Der.Tag.printableString, Der.Tag.t61String, Der.Tag.ia5String, Der.Tag.numericString]

/-- The types of values that are no strings of any kind and may have any content: object descriptors, external
and real values, embedded values, those that have no use yet, and strings of unrestricted characters. -/
def otherTypes : List UInt8 :=
  [0x07, 0x08, 0x09, 0x0b, 0x0d, 0x0e, 0x0f, 0x1d]

/-- The value of the given type with the given bytes, if it is of a kind that names may have. -/
def ofString? (type : UInt8) (content : Bytes) : Option AttributeValue :=
  if type = Der.Tag.utf8String then (Utf8.decode? content).map .text
  else if type = Der.Tag.bmpString then (ofPairs content).map (.text ∘ String.ofList)
  else if type = Der.Tag.universalString then (ofQuads content).map (.text ∘ String.ofList)
  else if type ∈ byteStrings then some (.text (String.ofList (ofBytes content)))
  else if type ∈ otherTypes ∨ type = Der.Tag.bitString ∧ Der.Element.isBitString content then some .other
  else none

/-- The value that an element holds. What is inside a sequence is not looked at; anything else may be put
together of parts. -/
def ofElement? (e : Der.Element) : Option AttributeValue :=
  if e.tag = Der.Tag.sequence then some .other
  else (e.collect Der.Element.maxNesting).bind (ofString? (Der.Tag.type e.tag))

end AttributeValue

namespace Attribute

def ofElement? (e : Der.Element) : Option Attribute := do
  match ← e.inside? Der.Tag.sequence with
  | [type, value] => return ⟨← type.objectIdentifier?, ← AttributeValue.ofElement? value⟩
  | _ => none

end Attribute

namespace Name

/-- The name that an element holds; a set of several attributes lists them in order. -/
def ofElement? (e : Der.Element) : Option Name := do
  let sets ← e.listOf? Der.Tag.sequence
  let attributes ← sets.mapM fun set => do
    (← set.listOf? Der.Tag.set).mapM Attribute.ofElement?
  return attributes.flatten

/-- The value of the first attribute of a type. -/
def first? (type : Bytes) (name : Name) : Option AttributeValue :=
  (name.find? (·.type = type)).map (·.value)

end Name

end ChannelLedger
